import SecretEnv.Proofs.CacheFile.Framing
import SecretEnv.Proofs.TextMap

/-!
# What a cache file says

* `read_write`: a file that was written is read as `found` says;
* `ofEntries_content`: a written file holds what its lines say one by one, but
  for a byte order mark at its front;
* `assignment?_encode`: a line says the name before its first equals sign and
  the value behind it, both without the blanks around them.
-/

namespace SecretEnv.CacheFile

/-- The variable that a line of a cache file says, if it says any. -/
def assignment? (line : Text) : Option (Text × Text) :=
  match Entry.ofLine? line 0 with
  | none => none
  | some e => if e.key = [] then none else some (decode e.key, decode e.value)

@[simp] theorem assignment?_nil : assignment? [] = none := by decide

/-- The number of a line does not change what it says. -/
theorem ofLine?_eq_map (line : Text) (n : Nat) :
    Entry.ofLine? line n = (Entry.ofLine? line 0).map fun e => { e with line := n } := by
  simp only [Entry.ofLine?]
  split
  · rfl
  · rfl
  · rfl
  · rfl
  · rw [Option.map_map]
    rfl

/-- The variables of numbered lines are those that the lines say. -/
theorem ofEntries_filterMap (ls : List Text) (n : Nat) :
    ofEntries ((ls.zipIdx n).filterMap fun p => Entry.ofLine? p.1 p.2) =
      .ofPairs (ls.filterMap assignment?) := by
  rw [ofEntries]
  congr 1
  -- the number of the first line grows along the list, but does not matter
  induction ls generalizing n with
  | nil => rfl
  | cons l ls ih =>
    have later := ih (n + 1)
    cases h : Entry.ofLine? l 0 with
    | none =>
      have numbered : Entry.ofLine? l n = none := by rw [ofLine?_eq_map, h, Option.map_none]
      have said : assignment? l = none := by rw [assignment?, h]
      simp only [List.zipIdx_cons, List.filterMap_cons, numbered, said]
      exact later
    | some e =>
      have numbered : Entry.ofLine? l n = some { e with line := n } := by
        rw [ofLine?_eq_map, h, Option.map_some]
      simp only [List.zipIdx_cons, List.filterMap_cons, numbered]
      by_cases k : e.key = []
      · have said : assignment? l = none := by simp only [assignment?, h, if_pos k]
        rw [List.filter_cons_of_neg (by simpa using k), said]
        exact later
      · have said : assignment? l = some (decode e.key, decode e.value) := by
          simp only [assignment?, h, if_neg k]
        rw [List.filter_cons_of_pos (by simpa using k), List.map_cons, said, later]

/-- A written file holds what its lines say. -/
theorem ofEntries_content (lines : List Text) :
    ofEntries (Document.entries (Utf8.encode (content lines))) =
      .ofPairs (((lines.map encode).modifyHead Document.withoutMark).filterMap assignment?) := by
  by_cases single : lines = [[]]
  · -- nothing is written, and the line says nothing
    rw [single]
    decide
  · have clean : ∀ l ∈ lines.map encode ++ [[]], '\n' ∉ l ∧ '\r' ∉ l := by
      refine List.forall_mem_append.2 ⟨?_, by simp⟩
      exact List.forall_mem_map.2 fun line _ => notMem_encode line
    have last : (lines.map encode ++ [[]]).modifyHead Document.withoutMark =
        (lines.map encode).modifyHead Document.withoutMark ++ [[]] := by
      cases lines <;> rfl
    rw [content_eq single, Document.entries_encode (by simp) clean, ofEntries_filterMap, last,
      List.filterMap_append]
    simp

/-- What the line of a name and a value says. -/
theorem assignment?_encode {k : Text} (h : '=' ∉ k) (w : Text) :
    assignment? (encode (k ++ '=' :: w)) =
      if (k.dropWhile isBare).head? = some '#' then none
      else if isAddress (k.dropWhile isBare) then
        some (k.dropWhile isBare ++ '=' :: trimBareEnd w, [])
      else if trimBare k = [] then none
      else some (trimBare k, trimBareEnd w) := by
  have equals (t u : Text) : encode (t ++ '=' :: u) = encode t ++ '=' :: encode u := by
    rw [encode_append, encode_cons, encodeChar_of_ne (by decide), List.singleton_append]
  have notMem : '=' ∉ encode k := fun m => h ((mem_encode_iff (by decide)).1 m)
  rw [assignment?, equals, Entry.ofLine?_assignment notMem, trimStart_encode, trim_encode,
    trimEnd_encode, isAddress_encode]
  simp only [head?_encode_eq_some_iff (c := '#') (by decide)]
  split_ifs with h1 h2 h3
  · rfl
  · simp only [← equals, decode_encode]
    rw [if_neg (by rw [equals]; simp), decode]
  · have e : encode (trimBare k) = [] := by rw [h3, encode_nil]
    simp only [if_pos e]
  · have e : encode (trimBare k) ≠ [] :=
      fun e => h3 (by rw [← decode_encode (trimBare k), e, decode])
    simp only [if_neg e, decode_encode]

/-! ### Files of assignments -/

/-- The line of a name and a value. -/
def assign (p : Text × Text) : Text := p.1 ++ '=' :: p.2

/-- The variables in a file of lines. -/
def found (lines : List Text) : TextMap :=
  ofEntries (Document.entries (Utf8.encode (content lines)))

theorem read_write {t u : FileTree} {path : Text} {lines : List Text}
    (h : write t path lines = .ok u) : read u path = .ok (found lines) := by
  simp only [read, read_of_write h, found, stored]

theorem withoutMark_assign (p : Text × Text) :
    Document.withoutMark (assign p) = assign (Document.withoutMark p.1, p.2) := by
  obtain ⟨k, w⟩ := p
  cases k with
  | nil => exact Document.withoutMark_cons_of_ne (by decide) _
  | cons c t =>
    have front := Document.withoutMark_append_of_ne_nil (List.cons_ne_nil c t) ('=' :: w)
    exact front

/-- A file of assignments holds what they say, the first one without a byte order mark. -/
theorem found_assign (l : List (Text × Text)) :
    found (l.map assign) =
      .ofPairs ((l.modifyHead fun p => (Document.withoutMark p.1, p.2)).filterMap
        fun p => assignment? (encode (assign p))) := by
  rw [found, ofEntries_content]
  cases l with
  | nil => rfl
  | cons p l =>
    simp only [List.map_cons, List.modifyHead_cons, withoutMark_encode, withoutMark_assign,
      List.filterMap_cons, List.filterMap_map, Function.comp_def]

end SecretEnv.CacheFile
