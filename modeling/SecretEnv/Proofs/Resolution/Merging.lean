import Mathlib.Data.List.Induction
import SecretEnv.Proofs.Resolution.Visits

/-!
# Merging variables

A map is made of pairs that are inserted, and of maps that are merged into it.

* `TextMap.extend_ofPairs`: to merge the map of some pairs is to insert the pairs;
* `TextMap.Construction` is how a map comes about, `Construction.inserted` lists the pairs of all
  maps on the way, and `Construction.result_eq` says that the map is that of those pairs;
* `TextMap.pairwise_keys_ofPairs` and `TextMap.get?_ofPairs_eq_some_iff_last`: in a map of pairs a
  key has the place of its first pair and the value of its last;
* `TextMap.first_place_last_value`: so it has however the map comes about, and a run over entries
  merges what they give in this way.
-/

namespace SecretEnv.TextMap

variable {m n : TextMap} {l : List (Text × Text)} {k v : Text}

/-! ### Maps inside maps -/

theorem ofPairs_pairs (m : TextMap) : ofPairs m.pairs = m := ext (pairs_ofPairs m.nodup)

theorem ofPairs_concat (l : List (Text × Text)) (p : Text × Text) :
    ofPairs (l ++ [p]) = (ofPairs l).insert p.1 p.2 := insertAll_append empty l [p]

theorem keys_insertAll_congr {l' : List (Text × Text)} (maps : m.keys = n.keys)
    (lists : l.map Prod.fst = l'.map Prod.fst) : (m.insertAll l).keys = (n.insertAll l').keys := by
  induction l generalizing m n l' with
  | nil =>
    obtain rfl := List.map_eq_nil_iff.1 lists.symm
    exact maps
  | cons p l ih =>
    cases l' with
    | nil => exact nomatch lists
    | cons q l' =>
      obtain ⟨first, rest⟩ := List.cons.inj lists
      rw [insertAll_cons, insertAll_cons]
      refine ih ?_ rest
      rw [keys_insert, keys_insert, maps, first]

theorem get?_extend (m n : TextMap) (k : Text) :
    (m.extend n).get? k = (n.get? k).or (m.get? k) := by
  rw [extend, get?_insertAll, ← get?_ofPairs, ofPairs_pairs]

theorem extend_insert (m n : TextMap) (k v : Text) :
    m.extend (n.insert k v) = (m.extend n).insert k v := by
  by_cases known : k ∈ n.keys
  · refine ext_get? ?_ fun x => ?_
    · -- the pair stays at its place in one map, and its key is known to the other
      have held : k ∈ (m.extend n).keys := mem_keys_insertAll_iff.2 (.inl known)
      have same : (n.insert k v).keys = n.keys := by rw [keys_insert, if_pos known]
      rw [keys_insert, if_pos held]
      exact keys_insertAll_congr rfl same
    · rw [get?_extend, get?_insert, get?_insert, get?_extend]
      split_ifs
      · rfl
      · rfl
  · rw [extend, pairs_insert, put_of_notMem v known, insertAll_append]
    rfl

/-- To merge the map of some pairs is to insert them all, also those that it holds no more. -/
theorem extend_ofPairs (m : TextMap) (l : List (Text × Text)) :
    m.extend (ofPairs l) = m.insertAll l := by
  induction l using List.reverseRecOn with
  | nil => rfl
  | append_singleton l p ih =>
    rw [ofPairs_concat, extend_insert, ih, insertAll_append]
    rfl

/-! ### How a map comes about -/

/-- How a map comes about: from pairs, and then by single pairs and by maps that come about in the
same way. -/
inductive Construction where
  | collect (l : List (Text × Text))
  | insert (c : Construction) (k v : Text)
  | extend (c d : Construction)

namespace Construction

/-- The map. -/
def result : Construction → TextMap
  | collect l => ofPairs l
  | insert c k v => c.result.insert k v
  | extend c d => c.result.extend d.result

/-- All pairs that are inserted into the map, or into a map that is merged into it, in order. -/
def inserted : Construction → List (Text × Text)
  | collect l => l
  | insert c k v => c.inserted ++ [(k, v)]
  | extend c d => c.inserted ++ d.inserted

/-- The map is that of all pairs, one after the other. -/
theorem result_eq (c : Construction) : c.result = ofPairs c.inserted := by
  induction c with
  | collect l => rfl
  | insert c k v ih => rw [result, inserted, ih, ofPairs_concat]
  | extend c d ihc ihd =>
    rw [result, inserted, ihc, ihd, extend_ofPairs, ofPairs, ofPairs, insertAll_append]

end Construction

/-- Maps are merged one after the other as their pairs are inserted. -/
theorem foldl_extend (m : TextMap) (maps : List TextMap) :
    maps.foldl extend m = m.insertAll (maps.flatMap pairs) := by
  induction maps generalizing m with
  | nil => rfl
  | cons n maps ih => rw [List.foldl_cons, ih, List.flatMap_cons, insertAll_append, extend]

/-- So they are merged as all pairs are inserted that they come from. -/
theorem foldl_extend_result (m : TextMap) (cs : List Construction) :
    (cs.map Construction.result).foldl extend m =
      m.insertAll (cs.flatMap Construction.inserted) := by
  induction cs generalizing m with
  | nil => rfl
  | cons c cs ih =>
    rw [List.map_cons, List.foldl_cons, ih, List.flatMap_cons, insertAll_append, c.result_eq,
      extend_ofPairs]

/-! ### Places and values -/

/-- Keys are in the order of their first pairs. -/
theorem pairwise_keys_ofPairs (l : List (Text × Text)) :
    (ofPairs l).keys.Pairwise fun j k =>
      (l.map Prod.fst).idxOf j < (l.map Prod.fst).idxOf k := by
  induction l using List.reverseRecOn with
  | nil => exact .nil
  | append_singleton l p ih =>
    have place {j : Text} (held : j ∈ (ofPairs l).keys) :
        ((l ++ [p]).map Prod.fst).idxOf j = (l.map Prod.fst).idxOf j := by
      rw [List.map_append]
      exact List.idxOf_append_of_mem (mem_keys_ofPairs_iff.1 held)
    have before : (ofPairs l).keys.Pairwise fun j k =>
        ((l ++ [p]).map Prod.fst).idxOf j < ((l ++ [p]).map Prod.fst).idxOf k := by
      refine ih.imp_of_mem fun hj hk lt => ?_
      rw [place hj, place hk]
      exact lt
    rw [ofPairs_concat, keys_insert]
    split_ifs with known
    · exact before
    · refine List.pairwise_append.2 ⟨before, List.pairwise_singleton _ _, fun j hj k hk => ?_⟩
      -- the key is new, so its first pair is the last of all
      obtain rfl := List.mem_singleton.1 hk
      have new : p.1 ∉ l.map Prod.fst := mt mem_keys_ofPairs_iff.2 known
      rw [place hj, List.map_append, List.idxOf_append_of_notMem new]
      exact Nat.lt_of_lt_of_le (List.idxOf_lt_length_of_mem (mem_keys_ofPairs_iff.1 hj))
        (Nat.le_add_right _ _)

/-- A key has the value of its last pair, the one behind which it does not occur. -/
theorem get?_ofPairs_eq_some_iff_last :
    (ofPairs l).get? k = some v ↔
      ∃ before after, l = before ++ (k, v) :: after ∧ k ∉ after.map Prod.fst := by
  rw [get?_ofPairs, Option.map_eq_some_iff]
  constructor
  · rintro ⟨q, found, rfl⟩
    obtain ⟨key, after, before, split, last⟩ := List.find?_eq_some_iff_append.1 found
    obtain rfl : q.1 = k := by simpa using key
    refine ⟨before.reverse, after.reverse, ?_, ?_⟩
    · rw [← List.reverse_reverse l, split]
      simp
    · intro mem
      obtain ⟨p, hp, same⟩ := List.mem_map.1 mem
      have other := last p (List.mem_reverse.1 hp)
      simp [same] at other
  · rintro ⟨before, after, rfl, last⟩
    have others : ∀ p ∈ after.reverse, (!decide (p.1 = k)) = true := by
      intro p hp
      have other : p.1 ≠ k := fun e => last (List.mem_map.2 ⟨p, List.mem_reverse.1 hp, e⟩)
      simpa using other
    refine ⟨(k, v), List.find?_eq_some_iff_append.2 ?_, rfl⟩
    exact ⟨by simp, after.reverse, before.reverse, by simp, others⟩

/-- However a map comes about, its keys are distinct and in the order of their first pairs among
all that are inserted, and each has the value of its last one. So it makes no difference whether
maps are merged one after the other, as a run merges what the entries give, or all their pairs
are inserted one by one. -/
theorem first_place_last_value (c : Construction) :
    (c.result.keys.Nodup ∧ (∀ k, k ∈ c.result.keys ↔ k ∈ c.inserted.map Prod.fst) ∧
      c.result.keys.Pairwise fun j k =>
        (c.inserted.map Prod.fst).idxOf j < (c.inserted.map Prod.fst).idxOf k) ∧
      (∀ k v, c.result.get? k = some v ↔
        ∃ before after, c.inserted = before ++ (k, v) :: after ∧ k ∉ after.map Prod.fst) ∧
      c.result = c.inserted.foldl (fun m p => m.insert p.1 p.2) empty ∧
      (∀ cs : List Construction, (cs.map Construction.result).foldl TextMap.extend empty =
        (cs.flatMap Construction.inserted).foldl (fun m p => m.insert p.1 p.2) empty) ∧
      ∀ (g : Registry) (whole : Bool) (es : List Entry) (vars : Variables),
        (g.resolve whole es).1 = .ok vars ↔
          ∃ maps, (g.visits whole es).mapM (Registry.Visit.result whole) = .ok maps ∧
            vars = maps.foldl TextMap.extend empty ∧
            vars = (maps.flatMap pairs).foldl (fun m p => m.insert p.1 p.2) empty := by
  refine ⟨⟨c.result.nodup_keys, fun k => ?_, ?_⟩, fun k v => ?_, c.result_eq,
    foldl_extend_result empty, fun g whole es vars => ?_⟩
  · rw [c.result_eq, mem_keys_ofPairs_iff]
  · rw [c.result_eq]
    exact pairwise_keys_ofPairs c.inserted
  · rw [c.result_eq, get?_ofPairs_eq_some_iff_last]
  · -- both ways to merge come to the map of all pairs
    have merged (maps : List TextMap) :
        (vars = maps.foldl TextMap.extend empty ∧
          vars = (maps.flatMap pairs).foldl (fun m p => m.insert p.1 p.2) empty) ↔
            vars = ofPairs (maps.flatMap pairs) := by
      rw [foldl_extend]
      exact and_self_iff
    simp only [merged]
    exact Registry.fst_resolve_eq_ok_iff

/-- A key that two maps have stays where it came in first, with the value that came last. -/
example : (Construction.extend (.collect [(['B'], ['1']), (['A'], ['2'])])
    (.insert (.collect [(['C'], ['3']), (['B'], ['4'])]) ['C'] ['5'])).result.pairs =
      [(['B'], ['4']), (['A'], ['2']), (['C'], ['5'])] := by
  decide +kernel

end SecretEnv.TextMap
