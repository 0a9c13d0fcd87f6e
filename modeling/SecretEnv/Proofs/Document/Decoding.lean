import SecretEnv.Proofs.Document.Breaks
import SecretEnv.Proofs.Text.Replacement

/-!
# Lines of bytes and lines of characters

A file is divided into lines before its bytes are read as characters. It might as well be read
first and divided then.

* `Division`: a list taken apart into lines with their breaks; `exists_division`: every list
  can be;
* `Division.pieces`: the lines that it is divided into are those of a division;
* `Division.decodeLossy`: bytes taken apart are read as their lines are, one by one;
* `map_decodeLossy_pieces`: so it does not matter whether bytes are divided first or read first.
-/

namespace SecretEnv.Document

section Division

variable {α : Type} {cr lf : α} {xs : List α} {ended : List (List α × Break)} {last : List α}

/-- A list as lines with their breaks: there is no other break in it. -/
structure Division (cr lf : α) (xs : List α) (ended : List (List α × Break)) (last : List α) :
    Prop where
  whole : xs = joined cr lf ended last
  plain : ∀ l ∈ bare ended last, lf ∉ l ∧ cr ∉ l
  separate : Separate ended

/-- An element that is no break is put in front of the first line. -/
theorem Division.cons_plain (h : Division cr lf xs ended last) {x : α} (no_lf : x ≠ lf)
    (no_cr : x ≠ cr) : ∃ ended last, Division cr lf (x :: xs) ended last := by
  obtain ⟨rfl, plain, separate⟩ := h
  have front {l : List α} (hl : lf ∉ l ∧ cr ∉ l) : lf ∉ x :: l ∧ cr ∉ x :: l := by
    simp [hl, no_lf.symm, no_cr.symm]
  cases ended with
  | nil => exact ⟨[], x :: last, rfl, by simpa [bare] using front (plain last (by simp [bare])),
      List.isChain_nil⟩
  | cons p ended =>
    obtain ⟨l, b⟩ := p
    refine ⟨(x :: l, b) :: ended, last, rfl, ?_, ?_⟩
    · rw [bare, List.map_cons, List.cons_append, List.forall_mem_cons] at plain ⊢
      exact ⟨front plain.1, plain.2⟩
    · rw [Separate, List.isChain_cons] at separate ⊢
      exact separate

/-- A break is put in front of the first line, unless it is a CR in front of an LF. -/
theorem Division.cons_break (h : Division cr lf xs ended last) (b : Break)
    (apart : b = .cr → ended.head? ≠ some ([], .lf)) :
    Division cr lf (b.elements cr lf ++ xs) (([], b) :: ended) last := by
  obtain ⟨rfl, plain, separate⟩ := h
  refine ⟨rfl, ?_, ?_⟩
  · rw [bare, List.map_cons, List.cons_append, List.forall_mem_cons]
    exact ⟨by simp, plain⟩
  · refine List.isChain_cons.2 ⟨fun q hq e same => apart e ?_, separate⟩
    rw [← same]
    exact hq

/-- Without its first line and break the list is still taken apart. -/
theorem Division.behind {p : List α × Break} (h : Division cr lf xs (p :: ended) last) :
    Division cr lf (joined cr lf ended last) ended last := by
  refine ⟨rfl, fun l hl => h.plain l ?_, (List.isChain_cons.1 h.separate).2⟩
  rw [bare, List.map_cons, List.cons_append]
  exact List.mem_cons_of_mem _ hl

theorem exists_division [DecidableEq α] (cr lf : α) (xs : List α) :
    ∃ ended last, Division cr lf xs ended last := by
  induction xs with
  | nil => exact ⟨[], [], rfl, by simp [bare], List.isChain_nil⟩
  | cons x xs ih =>
    obtain ⟨ended, last, h⟩ := ih
    by_cases is_lf : x = lf
    · subst is_lf
      exact ⟨_, _, h.cons_break .lf (by simp)⟩
    · by_cases is_cr : x = cr
      · subst is_cr
        by_cases next : ended.head? = some ([], .lf)
        · -- together with the LF behind it this is one break
          obtain ⟨ended, rfl⟩ := List.head?_eq_some_iff.1 next
          rw [h.whole]
          exact ⟨_, _, h.behind.cons_break .crlf (by simp)⟩
        · exact ⟨_, _, h.cons_break .cr fun _ => next⟩
      · exact h.cons_plain is_lf is_cr

/-- A list is divided into the lines that it consists of. -/
theorem Division.pieces [DecidableEq α] (ne : cr ≠ lf) (h : Division cr lf xs ended last) :
    (unifyBreaks cr lf false xs).splitOn lf = bare ended last := by
  obtain ⟨rfl, plain, separate⟩ := h
  rw [unifyBreaks_joined ne plain separate false (by simp), List.splitOn_intercalate]
  · exact fun l hl => (plain l hl).1
  · simp [bare]

end Division

/-! ### Reading -/

/-- Lines as characters, with their breaks. -/
def decodeEnded (ended : List (Bytes × Break)) : List (Text × Break) :=
  ended.map fun p => (Utf8.decodeLossy p.1, p.2)

variable {ended : List (Bytes × Break)} {last : Bytes}

theorem bare_decodeEnded :
    bare (decodeEnded ended) (Utf8.decodeLossy last) = (bare ended last).map Utf8.decodeLossy := by
  simp [bare, decodeEnded]

/-- A break is read as the same break, and lines in front of it and behind it are read as if each
were alone. -/
theorem decodeLossy_append_break (l : Bytes) (b : Break) (rest : Bytes) :
    Utf8.decodeLossy (l ++ (b.elements 0x0D 0x0A ++ rest)) =
      Utf8.decodeLossy l ++ (b.elements '\r' '\n' ++ Utf8.decodeLossy rest) := by
  have feed (l rest : Bytes) : Utf8.decodeLossy (l ++ 0x0A :: rest) =
      Utf8.decodeLossy l ++ '\n' :: Utf8.decodeLossy rest :=
    Utf8.decodeLossy_append_ascii (by decide) l rest
  have carriage (l rest : Bytes) : Utf8.decodeLossy (l ++ 0x0D :: rest) =
      Utf8.decodeLossy l ++ '\r' :: Utf8.decodeLossy rest :=
    Utf8.decodeLossy_append_ascii (by decide) l rest
  cases b with
  | lf => exact feed l rest
  | cr => exact carriage l rest
  | crlf => exact (carriage l (0x0A :: rest)).trans (congrArg _ (congrArg _ (feed [] rest)))

theorem decodeLossy_joined (ended : List (Bytes × Break)) (last : Bytes) :
    Utf8.decodeLossy (joined 0x0D 0x0A ended last) =
      joined '\r' '\n' (decodeEnded ended) (Utf8.decodeLossy last) := by
  induction ended with
  | nil => rfl
  | cons p ended ih =>
    obtain ⟨l, b⟩ := p
    rw [joined, decodeLossy_append_break, ih]
    rfl

/-- Bytes taken apart into lines are read line by line. -/
theorem Division.decodeLossy {bs : Bytes} (h : Division 0x0D 0x0A bs ended last) :
    Division '\r' '\n' (Utf8.decodeLossy bs) (decodeEnded ended) (Utf8.decodeLossy last) := by
  obtain ⟨rfl, plain, separate⟩ := h
  refine ⟨decodeLossy_joined ended last, ?_, ?_⟩
  · rw [bare_decodeEnded]
    intro t ht
    obtain ⟨l, hl, rfl⟩ := List.mem_map.1 ht
    obtain ⟨no_lf, no_cr⟩ := plain l hl
    exact ⟨mt (Utf8.mem_decodeLossy_ascii (b := 0x0A) (by decide)).1 no_lf,
      mt (Utf8.mem_decodeLossy_ascii (b := 0x0D) (by decide)).1 no_cr⟩
  · -- an empty line is read of an empty one only, so no two breaks come together
    refine (List.isChain_map _).2 (separate.imp fun p q apart is_cr same => apart is_cr ?_)
    obtain ⟨empty, is_lf⟩ := Prod.mk.inj same
    exact Prod.ext (Utf8.decodeLossy_eq_nil_iff.1 empty) is_lf

/-- Bytes that are divided into lines, each of which is read, give the same as bytes that are
read and then divided, whether they are UTF-8 or not: the lines that the bytes consist of, as
each is read alone. Reading takes characters one by one, and a replacement character for each
ill-formed part. -/
theorem map_decodeLossy_pieces (bs : Bytes) :
    ((unifyBreaks 0x0D 0x0A false bs).splitOn 0x0A).map Utf8.decodeLossy =
        (unifyBreaks '\r' '\n' false (Utf8.decodeLossy bs)).splitOn '\n' ∧
      (∃ ended last, Division 0x0D 0x0A bs ended last ∧
        (unifyBreaks '\r' '\n' false (Utf8.decodeLossy bs)).splitOn '\n' =
          (bare ended last).map Utf8.decodeLossy) ∧
      ∀ part t, Utf8.decodeLossy part = t ↔ Utf8.Replaced part t := by
  obtain ⟨ended, last, h⟩ := exists_division 0x0D 0x0A bs
  have read := h.decodeLossy.pieces (by decide)
  rw [bare_decodeEnded] at read
  rw [h.pieces (by decide), read]
  exact ⟨rfl, ⟨ended, last, h, rfl⟩, fun part t => Utf8.decodeLossy_eq_iff⟩

/-- A sequence that a CR cuts off and a byte that begins none are replaced on their lines. -/
example : ((unifyBreaks 0x0D 0x0A false [0xE3, 0x81, 0x0D, 0xFF, 0x41]).splitOn 0x0A).map
    Utf8.decodeLossy = [[Utf8.replacement], [Utf8.replacement, 'A']] := by decide

end SecretEnv.Document
