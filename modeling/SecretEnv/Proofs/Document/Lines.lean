import SecretEnv.Document
import SecretEnv.Proofs.Text.Parts
import SecretEnv.Proofs.Text.Trim
import SecretEnv.Proofs.Text.Utf8

/-!
# Lines of a written document

* `lines_encode`: a file of lines with line feeds between them has those lines,
  but for a byte order mark at its front;
* `entries_encode`: its entries are those of the lines, numbered from 1;
* `Entry.ofLine?_eq_none_iff`: which lines give no entry;
* `Entry.ofLine?_assignment`: what a line with an equals sign says.
-/

namespace SecretEnv

namespace Document

/-- The byte order mark as a character. -/
def mark : Char := Char.ofNat 0xFEFF

/-- The text without a byte order mark at its front. -/
def withoutMark (t : Text) : Text := if t.head? = some mark then t.tail else t

@[simp] theorem withoutMark_nil : withoutMark [] = [] := rfl

theorem withoutMark_cons_mark (t : Text) : withoutMark (mark :: t) = t := by
  simp [withoutMark]

theorem withoutMark_cons_of_ne {c : Char} (h : c ≠ mark) (t : Text) :
    withoutMark (c :: t) = c :: t := by
  simp [withoutMark, h]

/-- Only the front of a text can be a byte order mark. -/
theorem withoutMark_append_of_ne_nil {t : Text} (h : t ≠ []) (u : Text) :
    withoutMark (t ++ u) = withoutMark t ++ u := by
  obtain ⟨c, t, rfl⟩ := List.exists_cons_of_ne_nil h
  by_cases e : c = mark
  · subst e
    rw [List.cons_append, withoutMark_cons_mark, withoutMark_cons_mark]
  · rw [List.cons_append, withoutMark_cons_of_ne e, withoutMark_cons_of_ne e, List.cons_append]

theorem mem_of_mem_withoutMark {c : Char} {t : Text} (h : c ∈ withoutMark t) : c ∈ t := by
  rw [withoutMark] at h
  split at h
  · exact List.mem_of_mem_tail h
  · exact h

/-- The mark is written as its three bytes, and no other text begins with them. -/
theorem isPrefixOf?_byteOrderMark_encode (t : Text) :
    (byteOrderMark.isPrefixOf? (Utf8.encode t)).getD (Utf8.encode t) =
      Utf8.encode (withoutMark t) := by
  have marked (u : Text) : Utf8.encode (mark :: u) = byteOrderMark ++ Utf8.encode u := rfl
  cases h : byteOrderMark.isPrefixOf? (Utf8.encode t) with
  | some rest =>
    -- what the bytes behind the mark say is what follows it in the text
    rw [Parts.isPrefixOf?_eq_some_iff] at h
    have read : t = mark :: Utf8.decodeLossy rest := by
      rw [← Utf8.decodeLossy_encode t, h]
      exact Utf8.decodeLossyFrom_encodeChar mark rest
    have rest_eq : rest = Utf8.encode (Utf8.decodeLossy rest) := by
      rw [read, marked] at h
      exact (List.append_cancel_left h).symm
    rw [Option.getD_some, read, withoutMark_cons_mark, ← rest_eq]
  | none =>
    have unmarked : withoutMark t = t := by
      cases t with
      | nil => rfl
      | cons c u =>
        refine withoutMark_cons_of_ne (fun e => ?_) u
        rw [e, marked, Parts.isPrefixOf?_eq_some_iff.2 rfl] at h
        exact nomatch h
    rw [Option.getD_none, unmarked]

theorem unifyBreaks_of_notMem {α : Type} [DecidableEq α] {cr lf : α} {l : List α} (h : cr ∉ l) :
    unifyBreaks cr lf false l = l := by
  induction l with
  | nil => rfl
  | cons x l ih =>
    rw [List.mem_cons, not_or] at h
    rw [unifyBreaks, if_neg (Ne.symm h.1), if_neg (by simp), ih h.2]

theorem encode_intercalate (ls : List Text) :
    Utf8.encode (List.intercalate ['\n'] ls) = List.intercalate [0x0A] (ls.map Utf8.encode) :=
  Parts.flatMap_intercalate Utf8.encodeChar ['\n'] ls

/-- A mark at the front of a file is one at the front of its first line. -/
theorem withoutMark_intercalate (ls : List Text) :
    withoutMark (List.intercalate ['\n'] ls) =
      List.intercalate ['\n'] (ls.modifyHead withoutMark) := by
  match ls with
  | [] => rfl
  | [l] => simp
  | [] :: k :: ls => rfl
  | (c :: l) :: k :: ls =>
    rw [List.intercalate_cons_cons, List.append_assoc,
      withoutMark_append_of_ne_nil (List.cons_ne_nil c l), List.modifyHead_cons,
      List.intercalate_cons_cons, List.append_assoc]

theorem notMem_encode {t : Text} (h : '\n' ∉ t ∧ '\r' ∉ t) :
    (0x0A : UInt8) ∉ Utf8.encode t ∧ (0x0D : UInt8) ∉ Utf8.encode t := by
  refine ⟨fun m => h.1 ?_, fun m => h.2 ?_⟩
  · exact (Utf8.mem_encode_ascii (d := '\n') (by decide)).1 m
  · exact (Utf8.mem_encode_ascii (d := '\r') (by decide)).1 m

/-- A file of lines, with line feeds between them, has those lines. -/
theorem lines_encode {ls : List Text} (ne : ls ≠ []) (h : ∀ l ∈ ls, '\n' ∉ l ∧ '\r' ∉ l) :
    lines (Utf8.encode (List.intercalate ['\n'] ls)) =
      (ls.modifyHead withoutMark).map Utf8.encode := by
  have ne' : ls.modifyHead withoutMark ≠ [] := by simpa using ne
  have h' : ∀ l ∈ ls.modifyHead withoutMark, '\n' ∉ l ∧ '\r' ∉ l := by
    obtain ⟨k, ls, rfl⟩ := List.exists_cons_of_ne_nil ne
    rw [List.modifyHead_cons, List.forall_mem_cons]
    rw [List.forall_mem_cons] at h
    exact ⟨⟨fun m => h.1.1 (mem_of_mem_withoutMark m), fun m => h.1.2 (mem_of_mem_withoutMark m)⟩,
      h.2⟩
  have plain : (0x0D : UInt8) ∉
      List.intercalate [0x0A] ((ls.modifyHead withoutMark).map Utf8.encode) := by
    rw [← encode_intercalate]
    intro m
    rcases Parts.mem_of_mem_intercalate ((Utf8.mem_encode_ascii (d := '\r') (by decide)).1 m) with
      e | ⟨l, hl, e⟩
    · exact absurd e (by decide)
    · exact (h' l hl).2 e
  rw [lines, isPrefixOf?_byteOrderMark_encode, withoutMark_intercalate, encode_intercalate,
    unifyBreaks_of_notMem plain, List.splitOn_intercalate]
  · intro b hb
    obtain ⟨l, hl, rfl⟩ := List.mem_map.1 hb
    exact (notMem_encode (h' l hl)).1
  · simpa using ne

theorem entriesFrom_eq (n : Nat) (ls : List Bytes) :
    entriesFrom n ls =
      (ls.zipIdx n).filterMap fun p => Entry.ofLine? (Utf8.decodeLossy p.1) p.2 := by
  induction ls generalizing n with
  | nil => rfl
  | cons l ls ih =>
    rw [entriesFrom, ih, List.zipIdx_cons, List.filterMap_cons]
    cases Entry.ofLine? (Utf8.decodeLossy l) n <;> rfl

/-- The entries of a file of lines, with line feeds between them. -/
theorem entries_encode {ls : List Text} (ne : ls ≠ []) (h : ∀ l ∈ ls, '\n' ∉ l ∧ '\r' ∉ l) :
    entries (Utf8.encode (List.intercalate ['\n'] ls)) =
      ((ls.modifyHead withoutMark).zipIdx 1).filterMap fun p => Entry.ofLine? p.1 p.2 := by
  rw [entries, lines_encode ne h, entriesFrom_eq, List.zipIdx_map, List.filterMap_map]
  congr 1
  funext p
  simp

end Document

theorem Entry.line_of_ofLine? {t : Text} {n : Nat} {e : Entry} (h : Entry.ofLine? t n = some e) :
    e.line = n := by
  rw [ofLine?] at h
  dsimp only at h
  split at h
  · exact nomatch h
  · exact nomatch h
  · rw [← Option.some.inj h]
  · rw [← Option.some.inj h]
  · obtain ⟨p, -, rfl⟩ := Option.map_eq_some_iff.1 h
    rfl

theorem Entry.ofLine?_eq_none_iff (t : Text) (n : Nat) :
    Entry.ofLine? t n = none ↔ t.trim = [] ∨ t.trim.head? = some '#' := by
  simp only [ofLine?, LineKind.classify, Text.trim_trim]
  split_ifs with empty comment address equals
  · simp [empty]
  · simp [comment]
  · simp [empty, comment]
  · -- there is an equals sign to cut at
    have cut := mt Text.cut_eq_none_iff.1 (not_not.2 equals)
    simp [empty, comment, cut]
  · simp [empty, comment]

/-- What follows a character that no address begins with does not make an address. -/
theorem isAddress_append_cons {c : Char} (h : c ∉ Address.scheme) (a b : Text) :
    isAddress (a ++ c :: b) = isAddress a := by
  rw [isAddress, isAddress, Bool.eq_iff_iff, List.isPrefixOf_iff_prefix,
    List.isPrefixOf_iff_prefix, Parts.prefix_append_cons_iff h]

/-- A line with an equals sign: a comment, an address, or a key and a value. Blanks
around the key and behind the value do not count. -/
theorem Entry.ofLine?_assignment {a : Text} (h : '=' ∉ a) (b : Text) (n : Nat) :
    Entry.ofLine? (a ++ '=' :: b) n =
      if a.trimStart.head? = some '#' then none
      else if isAddress a.trimStart then some ⟨n, a.trimStart ++ '=' :: b.trimEnd, []⟩
      else some ⟨n, a.trim, b.trimEnd⟩ := by
  have solid : isBlank '=' = false := by decide
  have trimmed := Text.trim_append_cons solid a b
  have again : Text.trim (a.trimStart ++ '=' :: b.trimEnd) = a.trimStart ++ '=' :: b.trimEnd := by
    rw [Text.trim_append_cons solid, Text.trimStart_trimStart, Text.trimEnd_trimEnd]
  have comment : (a.trimStart ++ '=' :: b.trimEnd).head? = some '#' ↔
      a.trimStart.head? = some '#' := by
    cases a.trimStart <;> simp
  have address := isAddress_append_cons (c := '=') (by decide) a.trimStart b.trimEnd
  have notMem : '=' ∉ a.trimStart := fun m => h ((List.dropWhile_sublist _).subset m)
  have cut : Text.cut '=' (a.trimStart ++ '=' :: b.trimEnd) = some (a.trimStart, b.trimEnd) :=
    Text.cut_eq_some_iff.2 ⟨rfl, notMem⟩
  have key : a.trimStart.trim = a.trim := by rw [Text.trim, Text.trimStart_trimStart, Text.trim]
  simp only [Entry.ofLine?, LineKind.classify, trimmed, again, comment, address]
  rw [if_neg (by simp)]
  split_ifs with h1 h2 h3
  · rfl
  · rfl
  · simp only [cut, Option.map_some, key]
  · exact absurd (by simp) h3

end SecretEnv
