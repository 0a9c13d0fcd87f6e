import Mathlib.Data.List.Chain
import SecretEnv.Proofs.Document.Lines

/-!
# Line breaks

Lines that end with LF, CRLF or CR, each with a break of its own.

* `joined` writes such lines, and a last one that no break ends;
* `unifyBreaks_joined`: with every break made a line feed they have line feeds
  between them, unless a CR and the LF of the next break come together;
* `lines_joined`: so they are the lines of the file, whatever stands in them;
* `entries_joined`: each line is read on its own, under its number.
-/

namespace SecretEnv.Document

/-- What ends a line. -/
inductive Break where
  | lf
  | crlf
  | cr
  deriving DecidableEq

section Joined

variable {α : Type} (cr lf : α)

/-- The elements of a break. -/
def Break.elements : Break → List α
  | .lf => [lf]
  | .crlf => [cr, lf]
  | .cr => [cr]

/-- Lines with their breaks behind them, and a last line. -/
def joined : List (List α × Break) → List α → List α
  | [], last => last
  | (l, b) :: ended, last => l ++ (b.elements cr lf ++ joined ended last)

/-- The lines in order. -/
def bare (ended : List (List α × Break)) (last : List α) : List (List α) :=
  ended.map Prod.fst ++ [last]

/-- No CR is followed at once by the LF of the next break, with which it would be one break. -/
def Separate (ended : List (List α × Break)) : Prop :=
  ended.IsChain fun p q => p.2 = .cr → q ≠ ([], .lf)

instance [DecidableEq α] (ended : List (List α × Break)) : Decidable (Separate ended) :=
  inferInstanceAs (Decidable (ended.IsChain _))

end Joined

section Unify

variable {α : Type} [DecidableEq α] {cr lf : α}

/-- A line without breaks stays as it is. Behind it a CR in front of it is forgotten, unless
the line is empty. -/
theorem unifyBreaks_append {l : List α} (plain : lf ∉ l ∧ cr ∉ l) (afterCr : Bool)
    (rest : List α) :
    unifyBreaks cr lf afterCr (l ++ rest) = l ++ unifyBreaks cr lf (afterCr && l.isEmpty) rest := by
  induction l generalizing afterCr with
  | nil => simp
  | cons x l ih =>
    obtain ⟨no_lf, no_cr⟩ := plain
    rw [List.mem_cons, not_or] at no_lf no_cr
    have step := ih ⟨no_lf.2, no_cr.2⟩ false
    rw [Bool.false_and] at step
    rw [List.cons_append, unifyBreaks, if_neg (Ne.symm no_cr.1),
      if_neg fun h => no_lf.1 h.1.symm, step]
    simp

/-- A break is made one line feed. -/
theorem unifyBreaks_break (ne : cr ≠ lf) {afterCr : Bool} {b : Break}
    (apart : afterCr = true → b ≠ .lf) (rest : List α) :
    unifyBreaks cr lf afterCr (b.elements cr lf ++ rest) =
      lf :: unifyBreaks cr lf (b = .cr) rest := by
  cases b with
  | lf =>
    have fresh : afterCr = false := by
      by_contra h
      exact apart (by simpa using h) rfl
    simp [Break.elements, unifyBreaks, ne.symm, fresh]
  | crlf => simp [Break.elements, unifyBreaks, ne.symm]
  | cr => simp [Break.elements, unifyBreaks]

/-- With every break made a line feed, lines have line feeds between them. -/
theorem unifyBreaks_joined (ne : cr ≠ lf) {ended : List (List α × Break)} {last : List α}
    (plain : ∀ l ∈ bare ended last, lf ∉ l ∧ cr ∉ l) (separate : Separate ended)
    (afterCr : Bool) (apart : afterCr = true → ended.head? ≠ some ([], .lf)) :
    unifyBreaks cr lf afterCr (joined cr lf ended last) =
      List.intercalate [lf] (bare ended last) := by
  -- the flag tells that a CR ended the line before, so the induction is for both its values
  induction ended generalizing afterCr with
  | nil =>
    have last_plain := plain last (by simp [bare])
    have whole := unifyBreaks_append last_plain afterCr []
    rw [List.append_nil] at whole
    rw [joined, whole]
    simp [bare, unifyBreaks]
  | cons p ended ih =>
    obtain ⟨l, b⟩ := p
    obtain ⟨next, separate⟩ := List.isChain_cons.1 separate
    have l_plain := plain l (by simp [bare])
    have rest_plain : ∀ m ∈ bare ended last, lf ∉ m ∧ cr ∉ m := by
      intro m hm
      exact plain m (by simpa [bare] using .inr (by simpa [bare] using hm))
    have l_apart : (afterCr && l.isEmpty) = true → b ≠ .lf := by
      rintro h rfl
      obtain ⟨h, empty⟩ := Bool.and_eq_true_iff.1 h
      rw [List.isEmpty_iff] at empty
      exact apart h (by rw [List.head?_cons, empty])
    have rest_apart : decide (b = .cr) = true → ended.head? ≠ some ([], .lf) := by
      intro h e
      exact next _ e (by simpa using h) rfl
    have rest := ih rest_plain separate (b = .cr) rest_apart
    have parts : bare ((l, b) :: ended) last = l :: bare ended last := rfl
    rw [joined, unifyBreaks_append l_plain, unifyBreaks_break ne l_apart, rest, parts,
      List.intercalate_cons_of_ne_nil (by simp [bare]), List.append_assoc, List.singleton_append]

end Unify

/-- A byte order mark at the front of a file is one at the front of its first line. -/
theorem prefix_joined_iff {mark : Bytes} (no_lf : 0x0A ∉ mark) (no_cr : 0x0D ∉ mark)
    (ended : List (Bytes × Break)) (last : Bytes) :
    mark <+: joined 0x0D 0x0A ended last ↔ ∃ l, (bare ended last).head? = some l ∧ mark <+: l := by
  cases ended with
  | nil => simp [joined, bare]
  | cons p ended =>
    obtain ⟨l, b⟩ := p
    cases b with
    | lf => simp [joined, bare, Break.elements, Parts.prefix_append_cons_iff no_lf]
    | crlf => simp [joined, bare, Break.elements, Parts.prefix_append_cons_iff no_cr]
    | cr => simp [joined, bare, Break.elements, Parts.prefix_append_cons_iff no_cr]

/-- What may stand in front of the first line: a byte order mark, or nothing if the line does not
begin with one itself. -/
def Front (front : Bytes) (ls : List Bytes) : Prop :=
  front = byteOrderMark ∨ front = [] ∧ ¬ ∃ l, ls.head? = some l ∧ byteOrderMark <+: l

/-- A file of lines, each with its break, has those lines. -/
theorem lines_joined {front : Bytes} {ended : List (Bytes × Break)} {last : Bytes}
    (plain : ∀ l ∈ bare ended last, 0x0A ∉ l ∧ 0x0D ∉ l) (separate : Separate ended)
    (start : Front front (bare ended last)) :
    lines (front ++ joined 0x0D 0x0A ended last) = bare ended last := by
  have unified := unifyBreaks_joined (by decide) plain separate false (by simp)
  have unmarked : (byteOrderMark.isPrefixOf? (front ++ joined 0x0D 0x0A ended last)).getD
      (front ++ joined 0x0D 0x0A ended last) = joined 0x0D 0x0A ended last := by
    rcases start with rfl | ⟨rfl, no_mark⟩
    · rw [Parts.isPrefixOf?_eq_some_iff.2 rfl, Option.getD_some]
    · have none_found : byteOrderMark.isPrefixOf? (joined 0x0D 0x0A ended last) = none := by
        refine Option.eq_none_iff_forall_ne_some.2 fun rest found => no_mark ?_
        rw [Parts.isPrefixOf?_eq_some_iff] at found
        exact (prefix_joined_iff (by decide) (by decide) ended last).1 ⟨rest, found.symm⟩
      rw [List.nil_append, none_found, Option.getD_none]
  rw [lines, unmarked, unified, List.splitOn_intercalate]
  · exact fun l hl => (plain l hl).1
  · simp [bare]

/-- Lines that are read on their own, each under its number. -/
def oneByOne (ls : List Bytes) : List Entry :=
  (ls.zipIdx 1).filterMap fun p => Entry.ofLine? (Utf8.decodeLossy p.1) p.2

theorem mem_oneByOne_iff {ls : List Bytes} {e : Entry} :
    e ∈ oneByOne ls ↔
      ∃ i l, ls[i]? = some l ∧ Entry.ofLine? (Utf8.decodeLossy l) (i + 1) = some e := by
  rw [oneByOne, List.mem_filterMap]
  constructor
  · rintro ⟨⟨l, n⟩, found, read⟩
    rw [List.mk_mem_zipIdx_iff_le_and_getElem?_sub] at found
    refine ⟨n - 1, l, found.2, ?_⟩
    rw [Nat.sub_add_cancel found.1]
    exact read
  · rintro ⟨i, l, found, read⟩
    refine ⟨(l, i + 1), ?_, read⟩
    rw [List.mk_mem_zipIdx_iff_le_and_getElem?_sub]
    exact ⟨by omega, by simpa using found⟩

/-- A line has no entry of its number if it is empty or a comment, and only then. -/
theorem notMem_oneByOne_iff {ls : List Bytes} {i : Nat} {l : Bytes} (found : ls[i]? = some l) :
    (∀ e ∈ oneByOne ls, e.line ≠ i + 1) ↔
      (Utf8.decodeLossy l).trim = [] ∨ (Utf8.decodeLossy l).trim.head? = some '#' := by
  rw [← Entry.ofLine?_eq_none_iff (Utf8.decodeLossy l) (i + 1)]
  constructor
  · intro unnumbered
    refine Option.eq_none_iff_forall_ne_some.2 fun e read => ?_
    exact unnumbered e (mem_oneByOne_iff.2 ⟨i, l, found, read⟩) (Entry.line_of_ofLine? read)
  · intro dropped e he numbered
    obtain ⟨j, m, found', read⟩ := mem_oneByOne_iff.1 he
    have number := Entry.line_of_ofLine? read
    obtain rfl : j = i := by omega
    obtain rfl : m = l := Option.some.inj (found'.symm.trans found)
    rw [dropped] at read
    exact nomatch read

/-- A file of lines, each with its break, is read line by line, and every line as if it were
alone. The number of an entry is that of its line, and only empty lines and comments have none. -/
theorem entries_joined {front : Bytes} {ended : List (Bytes × Break)} {last : Bytes}
    (plain : ∀ l ∈ bare ended last, 0x0A ∉ l ∧ 0x0D ∉ l) (separate : Separate ended)
    (start : Front front (bare ended last)) :
    entries (front ++ joined 0x0D 0x0A ended last) = oneByOne (bare ended last) ∧
      (∀ e ∈ entries (front ++ joined 0x0D 0x0A ended last), ∃ i l,
        (bare ended last)[i]? = some l ∧ e.line = i + 1 ∧
          Entry.ofLine? (Utf8.decodeLossy l) (i + 1) = some e) ∧
      ∀ i l, (bare ended last)[i]? = some l →
        ((∀ e ∈ entries (front ++ joined 0x0D 0x0A ended last), e.line ≠ i + 1) ↔
          (Utf8.decodeLossy l).trim = [] ∨ (Utf8.decodeLossy l).trim.head? = some '#') := by
  have whole : entries (front ++ joined 0x0D 0x0A ended last) = oneByOne (bare ended last) := by
    rw [entries, lines_joined plain separate start, entriesFrom_eq, oneByOne]
  rw [whole]
  refine ⟨rfl, ?_, fun i l found => notMem_oneByOne_iff found⟩
  intro e he
  obtain ⟨i, l, found, read⟩ := mem_oneByOne_iff.1 he
  exact ⟨i, l, found, Entry.line_of_ofLine? read, read⟩

/-- Lines with a break of each kind: an empty one after a CR, one that a sequence of UTF-8 ends
in its middle, and a comment. -/
def mixed : List (Bytes × Break) :=
  [(Utf8.encode "A=1".toList, .cr), ([], .crlf), ([0x42, 0x3D, 0xC3], .lf),
    (Utf8.encode " # B".toList, .cr)]

/-- The entries of those lines and of one more behind a byte order mark. -/
theorem entries_joined_mixed :
    entries (byteOrderMark ++ joined 0x0D 0x0A mixed (Utf8.encode "C".toList)) =
      [⟨1, "A".toList, "1".toList⟩, ⟨3, "B".toList, [Utf8.replacement]⟩, ⟨5, "C".toList, []⟩] := by
  have plain : ∀ l ∈ bare mixed (Utf8.encode "C".toList), 0x0A ∉ l ∧ 0x0D ∉ l := by decide
  have separate : Separate mixed := by decide
  rw [(entries_joined plain separate (.inl rfl)).1]
  decide

end SecretEnv.Document
