import Mathlib.Data.List.Nodup
import Mathlib.Data.Set.List
import SecretEnv.Text.Ascending
import SecretEnv.TextMap

/-!
# Maps by what they hold

* `get?_ofPairs`: a key has the value of its last pair;
* `pairs_ofPairs`: pairs with distinct keys are kept as they are;
* `pairs_insertAll_map`: insertion does not depend on what the keys are called;
* `TextMap.ordered` lists a map in ascending order of its keys, whatever order
  they came in, and `ordered_ofPairs` says that ascending pairs are that list.
-/

namespace SecretEnv

namespace Text

/-- The ascending list depends on the texts that occur, not on how they are listed. -/
theorem ascending_congr {l m : List Text} (h : ∀ t, t ∈ l ↔ t ∈ m) : ascending l = ascending m := by
  refine Std.TreeSet.Equiv.toList_eq (Std.TreeSet.Equiv.of_forall_mem_iff fun t => ?_)
  rw [Std.TreeSet.mem_ofList, Std.TreeSet.mem_ofList, List.contains_iff_mem, List.contains_iff_mem,
    h t]

theorem compare_lt_trans {t u v : Text} (h : compare t u = .lt) (k : compare u v = .lt) :
    compare t v = .lt :=
  Std.TransCmp.lt_trans h k

theorem not_compare_lt_self (t : Text) : compare t t ≠ .lt := by
  have same : compare t t = .eq := Std.ReflCmp.compare_self
  rw [same]
  exact nofun

theorem nodup_of_pairwise {l : List Text} (h : l.Pairwise fun t u => compare t u = .lt) :
    l.Nodup := by
  refine h.imp fun lt e => ?_
  subst e
  exact not_compare_lt_self _ lt

theorem nodup_ascending (l : List Text) : (ascending l).Nodup :=
  nodup_of_pairwise (pairwise_ascending l)

theorem ascending_of_pairwise {l : List Text} (h : l.Pairwise fun t u => compare t u = .lt) :
    ascending l = l := by
  have perm : (ascending l).Perm l :=
    (List.perm_ext_iff_of_nodup (nodup_ascending l) (nodup_of_pairwise h)).2 fun _ => mem_ascending
  refine perm.eq_of_pairwise (fun t u _ _ lt gt => ?_) (pairwise_ascending l) h
  exact absurd (compare_lt_trans lt gt) (not_compare_lt_self t)

/-- What a condition leaves of ascending lists depends on the texts that meet it. -/
theorem filter_ascending_congr {keep : Text → Bool} {l m : List Text}
    (h : ∀ t, keep t = true → (t ∈ l ↔ t ∈ m)) :
    (ascending l).filter keep = (ascending m).filter keep := by
  have sorted (l : List Text) : ascending ((ascending l).filter keep) = (ascending l).filter keep :=
    ascending_of_pairwise ((pairwise_ascending l).sublist List.filter_sublist)
  rw [← sorted l, ← sorted m]
  refine ascending_congr fun t => ?_
  rw [List.mem_filter, List.mem_filter, mem_ascending, mem_ascending]
  exact ⟨fun ⟨ht, kept⟩ => ⟨(h t kept).1 ht, kept⟩, fun ⟨ht, kept⟩ => ⟨(h t kept).2 ht, kept⟩⟩

end Text

namespace TextMap

/-! ### Keys and values -/

theorem mem_keys_iff {m : TextMap} {k : Text} : k ∈ m.keys ↔ ∃ v, m.get? k = some v := by
  rw [← contains_eq_true_iff, ← isSome_get?, Option.isSome_iff_exists]

theorem mem_pairs_iff {m : TextMap} {k v : Text} : (k, v) ∈ m.pairs ↔ m.get? k = some v := by
  rw [get?_eq, Option.map_eq_some_iff]
  constructor
  · intro h
    have found : (m.pairs.find? fun p => p.1 = k).isSome := List.find?_isSome.2 ⟨_, h, by simp⟩
    obtain ⟨q, hq⟩ := Option.isSome_iff_exists.1 found
    have same : q = (k, v) :=
      List.inj_on_of_nodup_map m.nodup (List.mem_of_find?_eq_some hq) h
        (by simpa using List.find?_some hq)
    exact ⟨q, hq, by rw [same]⟩
  · rintro ⟨q, hq, rfl⟩
    have key : q.1 = k := by simpa using List.find?_some hq
    exact key ▸ List.mem_of_find?_eq_some hq

/-- A map holds its keys with their values. -/
theorem pairs_eq_filterMap (m : TextMap) :
    m.pairs = m.keys.filterMap fun k => (m.get? k).map fun v => (k, v) := by
  have all : ∀ p ∈ m.pairs, ((fun k => (m.get? k).map fun v => (k, v)) ∘ Prod.fst) p = some p := by
    intro p hp
    rw [Function.comp_apply, mem_pairs_iff.1 hp, Option.map_some]
  rw [keys, List.filterMap_map, List.filterMap_congr all, List.filterMap_some]

theorem ext_get? {m n : TextMap} (keys : m.keys = n.keys) (values : ∀ k, m.get? k = n.get? k) :
    m = n := by
  refine ext ?_
  rw [pairs_eq_filterMap m, pairs_eq_filterMap n, keys]
  simp only [values]

/-! ### Maps of pairs -/

theorem insertAll_cons (m : TextMap) (p : Text × Text) (l : List (Text × Text)) :
    m.insertAll (p :: l) = (m.insert p.1 p.2).insertAll l := rfl

theorem insertAll_append (m : TextMap) (l l' : List (Text × Text)) :
    m.insertAll (l ++ l') = (m.insertAll l).insertAll l' :=
  List.foldl_append

theorem mem_keys_insert_iff {m : TextMap} {k v x : Text} :
    x ∈ (m.insert k v).keys ↔ x = k ∨ x ∈ m.keys := by
  rw [keys_insert]
  split_ifs with held
  · exact ⟨.inr, fun h => h.elim (fun e => e ▸ held) id⟩
  · simp [or_comm]

theorem mem_keys_single_iff {k v x : Text} : x ∈ (empty.insert k v).keys ↔ x = k := by
  rw [mem_keys_insert_iff]
  exact or_iff_left List.not_mem_nil

theorem mem_keys_insertAll_iff {m : TextMap} {l : List (Text × Text)} {k : Text} :
    k ∈ (m.insertAll l).keys ↔ k ∈ l.map Prod.fst ∨ k ∈ m.keys := by
  induction l generalizing m with
  | nil => simp [insertAll]
  | cons p l ih =>
    rw [insertAll_cons, ih, mem_keys_insert_iff, List.map_cons, List.mem_cons]
    tauto

theorem mem_keys_ofPairs_iff {l : List (Text × Text)} {k : Text} :
    k ∈ (ofPairs l).keys ↔ k ∈ l.map Prod.fst := by
  rw [ofPairs, mem_keys_insertAll_iff]
  exact or_iff_left List.not_mem_nil

/-- The last pair of a key gives its value; without one it keeps what it had. -/
theorem get?_insertAll (m : TextMap) (l : List (Text × Text)) (k : Text) :
    (m.insertAll l).get? k = ((l.reverse.find? fun p => p.1 = k).map Prod.snd).or (m.get? k) := by
  -- the pairs before are in the map, so the induction is for all maps
  induction l generalizing m with
  | nil => rfl
  | cons p l ih =>
    rw [insertAll_cons, ih, get?_insert, List.reverse_cons, List.find?_append]
    cases h : l.reverse.find? fun p => p.1 = k with
    | some q => simp
    | none =>
      by_cases e : p.1 = k
      · simp [e]
      · simp [e, Ne.symm e]

theorem get?_ofPairs (l : List (Text × Text)) (k : Text) :
    (ofPairs l).get? k = (l.reverse.find? fun p => p.1 = k).map Prod.snd := by
  rw [ofPairs, get?_insertAll, get?_empty, Option.or_none]

theorem mem_of_get?_ofPairs {l : List (Text × Text)} {k v : Text}
    (h : (ofPairs l).get? k = some v) : (k, v) ∈ l := by
  rw [get?_ofPairs, Option.map_eq_some_iff] at h
  obtain ⟨q, found, rfl⟩ := h
  have key : q.1 = k := by simpa using List.find?_some found
  exact key ▸ List.mem_reverse.1 (List.mem_of_find?_eq_some found)

/-- If all pairs of a key have the same value, that is the value of the key. -/
theorem get?_ofPairs_of_mem {l : List (Text × Text)} {k v : Text} (mem : (k, v) ∈ l)
    (single : ∀ p ∈ l, p.1 = k → p.2 = v) : (ofPairs l).get? k = some v := by
  have known : k ∈ (ofPairs l).keys := mem_keys_ofPairs_iff.2 (List.mem_map_of_mem mem)
  obtain ⟨w, held⟩ := mem_keys_iff.1 known
  obtain rfl : w = v := single (k, w) (mem_of_get?_ofPairs held) rfl
  exact held

/-- If no key has two values, a map holds all pairs that it is made of, in whatever
order they are. -/
theorem get?_ofPairs_eq_some_iff {l : List (Text × Text)}
    (single : ∀ p ∈ l, ∀ q ∈ l, p.1 = q.1 → p.2 = q.2) {k v : Text} :
    (ofPairs l).get? k = some v ↔ (k, v) ∈ l :=
  ⟨mem_of_get?_ofPairs, fun mem => get?_ofPairs_of_mem mem fun p hp => single p hp (k, v) mem⟩

theorem pairs_insertAll {m : TextMap} {l : List (Text × Text)}
    (h : ((m.pairs ++ l).map Prod.fst).Nodup) : (m.insertAll l).pairs = m.pairs ++ l := by
  induction l generalizing m with
  | nil => simp [insertAll]
  | cons p l ih =>
    have new : p.1 ∉ m.pairs.map Prod.fst := by
      intro e
      rw [List.map_append, List.nodup_append] at h
      exact h.2.2 _ e _ (by simp) rfl
    have step : (m.insert p.1 p.2).pairs = m.pairs ++ [p] := by
      rw [pairs_insert, put_of_notMem p.2 new]
    rw [insertAll_cons, ih (by rw [step]; simpa using h), step, List.append_assoc,
      List.singleton_append]

theorem pairs_ofPairs {l : List (Text × Text)} (h : (l.map Prod.fst).Nodup) :
    (ofPairs l).pairs = l := by
  rw [ofPairs, pairs_insertAll (by simpa using h), pairs_empty, List.nil_append]

theorem get?_filterKeys (keep : Text → Bool) (m : TextMap) (k : Text) :
    (m.filterKeys keep).get? k = (m.get? k).filter fun _ => keep k := by
  refine Option.ext fun v => ?_
  rw [← mem_pairs_iff, filterKeys, pairs_ofNodup, List.mem_filter, mem_pairs_iff,
    Option.filter_eq_some_iff]

/-! ### Keys under other names -/

/-- Insertion does the same to pairs whose keys have other names, if no two names become one. -/
theorem put_map {f : Text → Text} (inj : Function.Injective f) (k v : Text)
    (l : List (Text × Text)) :
    put (f k) v (l.map (Prod.map f id)) = (put k v l).map (Prod.map f id) := by
  induction l with
  | nil => rfl
  | cons p rest ih =>
    have keys : (Prod.map f id p).1 = f k ↔ p.1 = k := inj.eq_iff
    by_cases same : p.1 = k
    · rw [List.map_cons, put, put, if_pos (keys.2 same), if_pos same]
      rfl
    · rw [List.map_cons, put, put, if_neg (mt keys.1 same), if_neg same, ih, List.map_cons]

/-- So does the insertion of many pairs. -/
theorem pairs_insertAll_map {f : Text → Text} (inj : Function.Injective f) {m n : TextMap}
    (same : n.pairs = m.pairs.map (Prod.map f id)) (l : List (Text × Text)) :
    (n.insertAll (l.map (Prod.map f id))).pairs = (m.insertAll l).pairs.map (Prod.map f id) := by
  induction l generalizing m n with
  | nil => exact same
  | cons p l ih =>
    rw [List.map_cons, insertAll_cons, insertAll_cons]
    refine ih ?_
    rw [pairs_insert, pairs_insert, same]
    exact put_map inj p.1 p.2 m.pairs

/-- A map all of whose keys are names that a function gives is a map under other names. -/
theorem exists_pairs_eq_map {f : Text → Text} {m : TextMap} (named : ∀ k ∈ m.keys, ∃ j, k = f j) :
    ∃ n : TextMap, m.pairs = n.pairs.map (Prod.map f id) := by
  have renamed : m.pairs ∈ Set.range (List.map (Prod.map f (id : Text → Text))) := by
    rw [Set.range_list_map]
    rintro ⟨k, v⟩ mem
    obtain ⟨j, rfl⟩ := named k (List.mem_map_of_mem mem)
    exact ⟨(j, v), rfl⟩
  obtain ⟨l, e⟩ := renamed
  have nodup : (l.map Prod.fst).Nodup := by
    have all : (m.pairs.map Prod.fst).Nodup := m.nodup
    rw [← e, List.map_map] at all
    refine List.Nodup.of_map f ?_
    rwa [List.map_map]
  exact ⟨ofNodup l nodup, e.symm⟩

/-! ### In ascending order -/

/-- The pairs in ascending order of the keys. -/
def ordered (m : TextMap) : List (Text × Text) :=
  (Text.ascending m.keys).filterMap fun k => (m.get? k).map fun v => (k, v)

/-- The list depends on the values of the keys, not on the order in which they came in. -/
theorem ordered_congr {m n : TextMap} (h : ∀ k, m.get? k = n.get? k) : m.ordered = n.ordered := by
  have keys : Text.ascending m.keys = Text.ascending n.keys := by
    refine Text.ascending_congr fun k => ?_
    rw [mem_keys_iff, mem_keys_iff, h k]
  rw [ordered, ordered, keys]
  congr 1
  funext k
  rw [h k]

theorem mem_ordered_iff {m : TextMap} {k v : Text} : (k, v) ∈ m.ordered ↔ m.get? k = some v := by
  rw [ordered, List.mem_filterMap]
  constructor
  · rintro ⟨x, -, h⟩
    obtain ⟨w, hw, e⟩ := Option.map_eq_some_iff.1 h
    obtain ⟨rfl, rfl⟩ := Prod.mk.inj e
    exact hw
  · intro h
    exact ⟨k, Text.mem_ascending.2 (mem_keys_iff.2 ⟨v, h⟩), by rw [h, Option.map_some]⟩

theorem map_fst_ordered (m : TextMap) : m.ordered.map Prod.fst = Text.ascending m.keys := by
  rw [ordered, List.map_filterMap]
  have all : ∀ k ∈ Text.ascending m.keys,
      Option.map Prod.fst ((m.get? k).map fun v => (k, v)) = some k := by
    intro k hk
    obtain ⟨v, hv⟩ := mem_keys_iff.1 (Text.mem_ascending.1 hk)
    rw [hv, Option.map_some, Option.map_some]
  rw [List.filterMap_congr all, List.filterMap_some]

theorem map_fst_filter_ordered (keep : Text → Bool) (m : TextMap) :
    (m.ordered.filter fun p => keep p.1).map Prod.fst = (Text.ascending m.keys).filter keep := by
  rw [← map_fst_ordered, List.filter_map]
  rfl

theorem pairwise_filter_ordered (keep : Text → Bool) (m : TextMap) :
    ((m.ordered.filter fun p => keep p.1).map Prod.fst).Pairwise
      fun t u => compare t u = .lt := by
  rw [map_fst_filter_ordered]
  exact (Text.pairwise_ascending m.keys).sublist List.filter_sublist

/-- Pairs in strictly ascending order of their keys are known by what they are. -/
theorem eq_of_mem_iff {α : Type} {l m : List (Text × α)}
    (hl : (l.map Prod.fst).Pairwise fun t u => compare t u = .lt)
    (hm : (m.map Prod.fst).Pairwise fun t u => compare t u = .lt)
    (h : ∀ p, p ∈ l ↔ p ∈ m) : l = m := by
  have perm : l.Perm m :=
    (List.perm_ext_iff_of_nodup (Text.nodup_of_pairwise hl).of_map
      (Text.nodup_of_pairwise hm).of_map).2 h
  refine perm.eq_of_pairwise (fun p q _ _ lt gt => ?_) (List.pairwise_map.1 hl)
    (List.pairwise_map.1 hm)
  exact absurd (Text.compare_lt_trans lt gt) (Text.not_compare_lt_self p.1)

/-- The pairs in order whose keys are kept are a part of all of them. -/
theorem ordered_filterKeys (keep : Text → Bool) (m : TextMap) :
    (m.filterKeys keep).ordered = m.ordered.filter fun p => keep p.1 := by
  refine eq_of_mem_iff ?_ (pairwise_filter_ordered keep m) fun p => ?_
  · rw [map_fst_ordered]
    exact Text.pairwise_ascending _
  · rw [mem_ordered_iff, get?_filterKeys, Option.filter_eq_some_iff, List.mem_filter,
      mem_ordered_iff]

/-- Pairs in strictly ascending order of their keys are the map of them, in order. -/
theorem ordered_ofPairs {l : List (Text × Text)}
    (h : (l.map Prod.fst).Pairwise fun t u => compare t u = .lt) : (ofPairs l).ordered = l := by
  have held := pairs_ofPairs (Text.nodup_of_pairwise h)
  have ascending : Text.ascending (ofPairs l).keys = (ofPairs l).keys := by
    rw [keys, held]
    exact Text.ascending_of_pairwise h
  rw [ordered, ascending, ← pairs_eq_filterMap, held]

end TextMap
end SecretEnv
