import SecretEnv.Proofs.CacheFile.Codec
import SecretEnv.Proofs.FileTree

/-!
# The lines of a cache file

A cache file has one physical line for each line that is written, whatever stands in the others.
Only a single empty line leaves none.

* `stored` is what a write puts into the file, and `row` what it makes of one line;
* `content_eq`: every line has a line feed behind it;
* `physicalLines` takes a file apart at LF, CRLF and CR; `physicalLines_stored`: the physical
  lines are the rows;
* `stored_eq_stored_iff`: the file tells its lines, but not whether there is one empty line or none;
* `codec_and_framing`: the codec and the lines together.
-/

namespace SecretEnv.CacheFile

variable {lines ls ms : List Text} {t u : FileTree} {path : Text}

/-- The bytes of a file with some lines. -/
def stored (lines : List Text) : Bytes := Utf8.encode (content lines)

theorem read_of_write (h : write t path lines = .ok u) : u.read path = .ok (stored lines) := by
  rw [write] at h
  split at h
  · next v written =>
    obtain rfl := Except.ok.inj h
    exact FileTree.read_write written
  · exact nomatch h

/-! ### Rows -/

/-- The bytes of a line. -/
def row (line : Text) : Bytes := Utf8.encode (encode line)

theorem encode_eq_nil_iff {t : Text} : encode t = [] ↔ t = [] := by
  constructor
  · intro h
    rw [← decode_encode t, h, decode]
  · rintro rfl
    exact encode_nil

theorem row_injective : Function.Injective row := by
  intro t u h
  rw [← decode_encode t, Utf8.encode_injective h, decode_encode]

theorem notMem_row (line : Text) : (0x0A : UInt8) ∉ row line ∧ (0x0D : UInt8) ∉ row line :=
  Document.notMem_encode (notMem_encode line)

/-- Every line has a line feed behind it, unless there is one empty line only. -/
theorem content_eq (h : lines ≠ [[]]) :
    content lines = List.intercalate ['\n'] (lines.map encode ++ [[]]) := by
  by_cases none_written : lines = []
  · rw [none_written]
    rfl
  · have text : List.intercalate ['\n'] (lines.map encode) ≠ [] := by
      intro empty
      rcases (Parts.intercalate_eq_nil_iff (List.cons_ne_nil _ _)).1 empty with e | e
      · exact none_written (List.map_eq_nil_iff.1 e)
      · obtain ⟨l, single, blank⟩ := List.map_eq_singleton_iff.1 e
        rw [encode_eq_nil_iff] at blank
        exact h (by rw [single, blank])
    rw [content, if_neg text, Parts.intercalate_concat_nil _ (by simpa using none_written)]

theorem stored_eq (h : lines ≠ [[]]) :
    stored lines = List.intercalate [0x0A] (lines.map row ++ [[]]) := by
  rw [stored, content_eq h, Document.encode_intercalate, List.map_append, List.map_map]
  rfl

/-! ### Physical lines -/

/-- The lines of a file: what LF, CRLF and CR end, and what is behind the last of them if there
is anything. -/
def physicalLines (bs : Bytes) : List Bytes :=
  let pieces := (Document.unifyBreaks 0x0D 0x0A false bs).splitOn 0x0A
  if pieces.getLast? = some [] then pieces.dropLast else pieces

/-- The physical lines are the rows, but for a single empty line. -/
theorem physicalLines_stored (lines : List Text) :
    physicalLines (stored lines) = if lines = [[]] then [] else lines.map row := by
  split_ifs with h
  · rw [h]
    decide
  · have clean : ∀ l ∈ lines.map row ++ [[]], (0x0A : UInt8) ∉ l ∧ (0x0D : UInt8) ∉ l := by
      refine List.forall_mem_append.2 ⟨?_, by simp⟩
      exact List.forall_mem_map.2 fun line _ => notMem_row line
    have no_cr : (0x0D : UInt8) ∉ List.intercalate [0x0A] (lines.map row ++ [[]]) := by
      intro m
      rcases Parts.mem_of_mem_intercalate m with e | ⟨l, hl, e⟩
      · exact absurd e (by decide)
      · exact (clean l hl).2 e
    have pieces := List.splitOn_intercalate (0x0A : UInt8) (fun l hl => (clean l hl).1)
      (List.concat_ne_nil [] (lines.map row))
    rw [physicalLines, stored_eq h, Document.unifyBreaks_of_notMem no_cr, pieces]
    simp

/-- The physical line at a place depends on the line there and on the number of lines. -/
theorem getElem?_physicalLines_stored (lines : List Text) (j : Nat) :
    (physicalLines (stored lines))[j]? =
      if lines.length = 1 ∧ lines[j]? = some [] then none else lines[j]?.map row := by
  rw [physicalLines_stored]
  by_cases h : lines = [[]]
  · rw [if_pos h, h]
    cases j <;> simp
  · have other : ¬ (lines.length = 1 ∧ lines[j]? = some []) := by
      rintro ⟨one, empty⟩
      obtain ⟨l, single⟩ := List.length_eq_one_iff.1 one
      have blank := List.mem_of_getElem? empty
      rw [single, List.mem_singleton] at blank
      exact h (by rw [single, blank])
    rw [if_neg h, if_neg other, List.getElem?_map]

/-! ### The lines that a file tells -/

/-- Only without lines and with a single empty one nothing is written. -/
theorem stored_eq_nil_iff : stored lines = [] ↔ lines = [] ∨ lines = [[]] := by
  constructor
  · intro h
    by_cases single : lines = [[]]
    · exact .inr single
    · have rows := physicalLines_stored lines
      rw [h, if_neg single] at rows
      exact .inl (List.map_eq_nil_iff.1 rows.symm)
  · rintro (rfl | rfl) <;> rfl

/-- Two lists of lines are written alike only if they are equal or both leave the file empty. -/
theorem stored_eq_stored_iff :
    stored ls = stored ms ↔ ls = ms ∨ (ls = [] ∨ ls = [[]]) ∧ (ms = [] ∨ ms = [[]]) := by
  constructor
  · intro h
    by_cases empty : stored ls = []
    · exact .inr ⟨stored_eq_nil_iff.1 empty, stored_eq_nil_iff.1 (h ▸ empty)⟩
    · have full : ls ≠ [[]] := fun e => empty (stored_eq_nil_iff.2 (.inr e))
      have full' : ms ≠ [[]] := fun e => empty (h ▸ stored_eq_nil_iff.2 (.inr e))
      have rows := congrArg physicalLines h
      rw [physicalLines_stored, physicalLines_stored, if_neg full, if_neg full'] at rows
      exact .inl (row_injective.list_map rows)
  · rintro (rfl | ⟨hl, hm⟩)
    · rfl
    · rw [stored_eq_nil_iff.2 hl, stored_eq_nil_iff.2 hm]

/-- What is encoded is decoded again, and an encoded line has no line break. So a written file
tells its lines, but not whether there is a single empty line or none, which both leave it empty.
Its physical lines are the rows of its lines. In files of equally many lines that agree in one
place, the physical lines agree in that place, or both lack it, whatever stands in the others. -/
theorem codec_and_framing :
    (∀ s, decode (encode s) = s ∧ '\n' ∉ encode s ∧ '\r' ∉ encode s) ∧
      (∀ (t u : FileTree) (path : Text) (lines : List Text), write t path lines = .ok u →
        u.read path = .ok (stored lines)) ∧
      (∀ ls ms, stored ls = stored ms ↔
        ls = ms ∨ (ls = [] ∨ ls = [[]]) ∧ (ms = [] ∨ ms = [[]])) ∧
      (∀ lines, stored lines = [] ↔ lines = [] ∨ lines = [[]]) ∧
      (∀ lines, physicalLines (stored lines) = if lines = [[]] then [] else lines.map row) ∧
      ∀ (ls ms : List Text) (j : Nat), ls.length = ms.length → ls[j]? = ms[j]? →
        (physicalLines (stored ls))[j]? = (physicalLines (stored ms))[j]? := by
  refine ⟨fun s => ⟨decode_encode s, notMem_encode s⟩, fun t u path lines => read_of_write,
    fun ls ms => stored_eq_stored_iff, fun lines => stored_eq_nil_iff, physicalLines_stored, ?_⟩
  intro ls ms j length agree
  rw [getElem?_physicalLines_stored, getElem?_physicalLines_stored, length, agree]

/-- Lines with breaks and backslashes in them, and an empty one. -/
def broken : List Text := ["A='x\r\ny'".toList, [], "B=\\n\\".toList]

/-- Their last physical line stays what it is when the first line becomes two line feeds. -/
theorem codec_and_framing_broken :
    ∃ u, write ⟨[], []⟩ stem broken = .ok u ∧ u.read stem = .ok (stored broken) ∧
      (physicalLines (stored (broken.set 0 "\n\n".toList)))[2]? = some (row "B=\\n\\".toList) := by
  have written : write ⟨[], []⟩ stem broken =
      .ok ⟨[([stem], .file (stored broken) mode)], []⟩ := by
    decide +kernel
  obtain ⟨-, read, -, -, rows, apart⟩ := codec_and_framing
  refine ⟨_, written, read _ _ _ _ written, ?_⟩
  rw [apart (broken.set 0 "\n\n".toList) broken 2 (by decide) (by decide), rows,
    if_neg (by decide)]
  rfl

end SecretEnv.CacheFile
