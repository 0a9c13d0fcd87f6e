import SecretEnv.Text
import Std.Data.TreeMap.Lemmas

/-!
# Maps from texts to texts

A `TextMap` remembers the order in which its keys first came in.

* `pairs` is what a map holds: keys and values in that order;
* `insert` puts a new key at the end and leaves a known key in its place;
* `extend` inserts the pairs of another map one after the other;
* `ofPairs` builds a map from pairs, so that the last value of a key wins.

That no key occurs twice is part of the type. So is an index of the keys, by
which a key is found without a look at the others. The index follows from the
pairs, and maps with the same pairs are equal.
-/

namespace SecretEnv

namespace TextMap

/-- The places of some keys: each is kept under its key. -/
def positions (keys : List Text) : Std.TreeMap Text Nat :=
  keys.zipIdx.foldl (fun t p => t.insert p.1 p.2) ∅

theorem positions_concat (keys : List Text) (k : Text) :
    positions (keys ++ [k]) = (positions keys).insert k keys.length := by
  simp [positions, List.zipIdx_append]

/-- The places from `n` on, in a map that has places already. -/
theorem getElem?_foldl_zipIdx {keys : List Text} (h : keys.Nodup) (k : Text) (n : Nat)
    (t : Std.TreeMap Text Nat) :
    ((keys.zipIdx n).foldl (fun t p => t.insert p.1 p.2) t)[k]? =
      if k ∈ keys then some (n + keys.idxOf k) else t[k]? := by
  induction keys generalizing n t with
  | nil => simp
  | cons a keys ih =>
    obtain ⟨ha, hk⟩ := List.nodup_cons.1 h
    rw [List.zipIdx_cons, List.foldl_cons, ih hk, Std.TreeMap.getElem?_insert]
    by_cases e : a = k
    · subst e
      simp [ha]
    · by_cases hm : k ∈ keys
      · simp [hm, List.idxOf_cons, beq_eq_false_iff_ne.2 e, Nat.add_comm, Nat.add_left_comm]
      · simp [hm, e, Ne.symm e]

/-- A key that occurs is kept with its place, and no other is kept. -/
theorem getElem?_positions {keys : List Text} (h : keys.Nodup) (k : Text) :
    (positions keys)[k]? = if k ∈ keys then some (keys.idxOf k) else none := by
  simp [positions, getElem?_foldl_zipIdx h]

end TextMap

/-- Pairs with distinct keys, in the order in which the keys came in. -/
structure TextMap where
  /-- The pairs in order. -/
  entries : Array (Text × Text)
  /-- The places of the keys. -/
  index : Std.TreeMap Text Nat
  nodup : (entries.toList.map Prod.fst).Nodup
  index_eq : index = TextMap.positions (entries.toList.map Prod.fst)

namespace TextMap

/-- The pairs as a list. -/
def pairs (m : TextMap) : List (Text × Text) := m.entries.toList

@[ext] theorem ext {m n : TextMap} (h : m.pairs = n.pairs) : m = n := by
  obtain ⟨a, i, _, rfl⟩ := m
  obtain ⟨b, j, _, rfl⟩ := n
  obtain rfl : a = b := Array.toList_inj.1 h
  rfl

instance : DecidableEq TextMap := fun m n =>
  decidable_of_iff (m.pairs = n.pairs) ⟨ext, congrArg pairs⟩

/-- The map of pairs whose keys are distinct. -/
def ofNodup (l : List (Text × Text)) (h : (l.map Prod.fst).Nodup) : TextMap :=
  ⟨l.toArray, positions (l.map Prod.fst), h, rfl⟩

@[simp] theorem pairs_ofNodup {l : List (Text × Text)} (h : (l.map Prod.fst).Nodup) :
    (ofNodup l h).pairs = l := rfl

/-- The map without keys. -/
def empty : TextMap := ofNodup [] .nil

instance : EmptyCollection TextMap := ⟨empty⟩
instance : Inhabited TextMap := ⟨empty⟩

@[simp] theorem pairs_empty : empty.pairs = [] := rfl

/-- The keys in order. -/
def keys (m : TextMap) : List Text := m.pairs.map Prod.fst

theorem nodup_keys (m : TextMap) : m.keys.Nodup := m.nodup

theorem getElem?_index (m : TextMap) (k : Text) :
    m.index[k]? = if k ∈ m.keys then some (m.keys.idxOf k) else none := by
  rw [m.index_eq, getElem?_positions m.nodup]
  rfl

/-! ### Insertion -/

/-- Replace the value of `k` in a list of pairs, or add the pair at the end. -/
def put (k v : Text) : List (Text × Text) → List (Text × Text)
  | [] => [(k, v)]
  | p :: rest => if p.1 = k then (k, v) :: rest else p :: put k v rest

/-- The keys after `put`: a new one is last, a known one stays where it is. -/
theorem map_fst_put (k v : Text) (l : List (Text × Text)) :
    (put k v l).map Prod.fst =
      if k ∈ l.map Prod.fst then l.map Prod.fst else l.map Prod.fst ++ [k] := by
  induction l with
  | nil => simp [put]
  | cons p rest ih =>
    by_cases h : p.1 = k
    · simp [put, h]
    · rw [put, if_neg h, List.map_cons, ih]
      by_cases hk : k ∈ rest.map Prod.fst <;> simp [hk, Ne.symm h]

theorem nodup_put {k v : Text} {l : List (Text × Text)} (h : (l.map Prod.fst).Nodup) :
    ((put k v l).map Prod.fst).Nodup := by
  rw [map_fst_put]
  split
  · exact h
  · next hk =>
    rw [List.nodup_append]
    exact ⟨h, by simp, fun a ha b hb => by simp at hb; rintro rfl; exact hk (hb ▸ ha)⟩

theorem put_of_notMem {k : Text} (v : Text) {l : List (Text × Text)}
    (h : k ∉ l.map Prod.fst) : put k v l = l ++ [(k, v)] := by
  induction l with
  | nil => rfl
  | cons p rest ih =>
    rw [List.map_cons, List.mem_cons, not_or] at h
    rw [put, if_neg (Ne.symm h.1), ih h.2, List.cons_append]

theorem put_of_mem {k : Text} (v : Text) {l : List (Text × Text)}
    (h : k ∈ l.map Prod.fst) : put k v l = l.set ((l.map Prod.fst).idxOf k) (k, v) := by
  induction l with
  | nil => simp at h
  | cons p rest ih =>
    by_cases e : p.1 = k
    · simp [put, e]
    · have hr : k ∈ rest.map Prod.fst := by
        simpa [Ne.symm e] using h
      rw [put, if_neg e, ih hr, List.map_cons, List.idxOf_cons, beq_eq_false_iff_ne.2 e]
      rfl

/-- What `put` does to the places: a new key has the last one. -/
theorem positions_put (k v : Text) (l : List (Text × Text)) :
    positions ((put k v l).map Prod.fst) =
      if k ∈ l.map Prod.fst then positions (l.map Prod.fst)
      else (positions (l.map Prod.fst)).insert k l.length := by
  rw [map_fst_put]
  split
  · rfl
  · rw [positions_concat, List.length_map]

theorem put_of_positions_eq_some {k : Text} (v : Text) {l : List (Text × Text)} {i : Nat}
    (nodup : (l.map Prod.fst).Nodup) (h : (positions (l.map Prod.fst))[k]? = some i) :
    k ∈ l.map Prod.fst ∧ put k v l = l.set i (k, v) := by
  rw [getElem?_positions nodup] at h
  split at h
  · next hk => exact ⟨hk, by rw [put_of_mem v hk, Option.some.inj h]⟩
  · exact nomatch h

theorem put_of_positions_eq_none {k : Text} (v : Text) {l : List (Text × Text)}
    (nodup : (l.map Prod.fst).Nodup) (h : (positions (l.map Prod.fst))[k]? = none) :
    k ∉ l.map Prod.fst ∧ put k v l = l ++ [(k, v)] := by
  rw [getElem?_positions nodup] at h
  split at h
  · exact nomatch h
  · next hk => exact ⟨hk, put_of_notMem v hk⟩

/-- Set the value of a key: at its place, or at the end. -/
def insert : TextMap → Text → Text → TextMap
  | ⟨entries, index, nodup, index_eq⟩, k, v =>
    match h : index[k]? with
    | some i =>
      have known := put_of_positions_eq_some v nodup (index_eq ▸ h)
      have e : (entries.setIfInBounds i (k, v)).toList = put k v entries.toList := by
        rw [known.2, Array.toList_setIfInBounds]
      ⟨entries.setIfInBounds i (k, v), index, e ▸ nodup_put nodup,
        by rw [e, positions_put, if_pos known.1, index_eq]⟩
    | none =>
      have new := put_of_positions_eq_none v nodup (index_eq ▸ h)
      have e : (entries.push (k, v)).toList = put k v entries.toList := by
        rw [new.2, Array.toList_push]
      -- The size is read first: the array is then no longer shared and grows in place.
      let place := entries.size
      ⟨entries.push (k, v), index.insert k place, e ▸ nodup_put nodup,
        by rw [e, positions_put, if_neg new.1, index_eq, Array.length_toList]⟩

@[simp] theorem pairs_insert (m : TextMap) (k v : Text) :
    (m.insert k v).pairs = put k v m.pairs := by
  obtain ⟨entries, index, nodup, index_eq⟩ := m
  simp only [insert]
  split
  · next i h =>
    rw [pairs, pairs, (put_of_positions_eq_some v nodup (index_eq ▸ h)).2,
      Array.toList_setIfInBounds]
  · next h =>
    rw [pairs, pairs, (put_of_positions_eq_none v nodup (index_eq ▸ h)).2, Array.toList_push]

theorem keys_insert (m : TextMap) (k v : Text) :
    (m.insert k v).keys = if k ∈ m.keys then m.keys else m.keys ++ [k] := by
  rw [keys, pairs_insert, map_fst_put]
  rfl

/-- Insert the pairs of a list one after the other. -/
def insertAll (m : TextMap) (l : List (Text × Text)) : TextMap :=
  l.foldl (fun m p => m.insert p.1 p.2) m

/-- Merge another map, whose values win. -/
def extend (m n : TextMap) : TextMap := m.insertAll n.pairs

/-- The map of a list of pairs. -/
def ofPairs (l : List (Text × Text)) : TextMap := empty.insertAll l

/-! ### Looking up -/

/-- The value of a key. -/
def get? (m : TextMap) (k : Text) : Option Text :=
  m.index[k]?.bind fun i => m.entries[i]?.map Prod.snd

/-- The value of a key is the one in the pair of the key. -/
theorem get?_eq (m : TextMap) (k : Text) :
    m.get? k = (m.pairs.find? fun p => p.1 = k).map Prod.snd := by
  have places (l : List (Text × Text)) :
      ((if k ∈ l.map Prod.fst then some ((l.map Prod.fst).idxOf k) else none).bind fun i =>
        l[i]?.map Prod.snd) = (l.find? fun p => p.1 = k).map Prod.snd := by
    induction l with
    | nil => rfl
    | cons p rest ih =>
      by_cases e : p.1 = k
      · simp [e]
      · rw [List.find?_cons_of_neg (by simpa using e), ← ih]
        by_cases hr : k ∈ rest.map Prod.fst <;>
          simp [hr, Ne.symm e, List.idxOf_cons, beq_eq_false_iff_ne.2 e]
  rw [get?, getElem?_index, ← places]
  simp only [pairs, keys, Array.getElem?_toList]
  rfl

@[simp] theorem get?_empty (k : Text) : empty.get? k = none := by
  rw [get?_eq]
  rfl

theorem get?_insert (m : TextMap) (k v x : Text) :
    (m.insert k v).get? x = if x = k then some v else m.get? x := by
  rw [get?_eq, get?_eq, pairs_insert]
  generalize m.pairs = l
  induction l with
  | nil => by_cases h : k = x <;> simp [put, h, eq_comm]
  | cons p rest ih =>
    by_cases hp : p.1 = k
    · by_cases h : k = x
      · simp [put, hp, h]
      · simp [put, hp, h, Ne.symm h]
    · rw [put, if_neg hp]
      by_cases h : p.1 = x
      · have hx : x ≠ k := fun e => hp (h.trans e)
        simp [h, hx]
      · simpa [h] using ih

/-- Whether a key occurs. -/
def contains (m : TextMap) (k : Text) : Bool := m.index.contains k

theorem contains_eq_true_iff {m : TextMap} {k : Text} : m.contains k = true ↔ k ∈ m.keys := by
  rw [contains, Std.TreeMap.contains_eq_isSome_getElem?, getElem?_index]
  split <;> simp [*]

theorem isSome_get? (m : TextMap) (k : Text) : (m.get? k).isSome = m.contains k := by
  rw [Bool.eq_iff_iff, contains_eq_true_iff, get?_eq, Option.isSome_map, List.find?_isSome, keys]
  simp

/-- How many keys there are. -/
def size (m : TextMap) : Nat := m.entries.size

theorem size_eq (m : TextMap) : m.size = m.pairs.length := rfl

/-- Whether there is no key. -/
def isEmpty (m : TextMap) : Bool := m.entries.isEmpty

/-- The pairs whose key passes a test, in the same order. -/
def filterKeys (keep : Text → Bool) (m : TextMap) : TextMap :=
  ofNodup (m.pairs.filter fun p => keep p.1)
    (m.nodup.sublist (List.Sublist.map _ List.filter_sublist))

/-- Whether two maps give every key the same value, in whatever order. -/
def agrees (m n : TextMap) : Bool :=
  m.size == n.size && m.pairs.all fun p => n.get? p.1 = some p.2

end TextMap
end SecretEnv
