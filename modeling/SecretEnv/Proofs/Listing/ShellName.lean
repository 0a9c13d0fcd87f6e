import SecretEnv.Listing

/-!
# Shell names

The names of shell variables are ASCII words, so no character that a file or a
shell takes for something else occurs in one.
-/

namespace SecretEnv

/-- An ASCII letter. -/
def IsLetter (c : Char) : Prop := 'A' ≤ c ∧ c ≤ 'Z' ∨ 'a' ≤ c ∧ c ≤ 'z'

theorem isAlpha_iff {c : Char} : c.isAlpha = true ↔ IsLetter c := by
  have upper : c.isUpper = true ↔ 'A' ≤ c ∧ c ≤ 'Z' := by
    show decide (c.val ≥ 'A'.val ∧ c.val ≤ 'Z'.val) = true ↔ _
    rw [decide_eq_true_eq]
    rfl
  have lower : c.isLower = true ↔ 'a' ≤ c ∧ c ≤ 'z' := by
    show (decide (c.val ≥ 'a'.val) && decide (c.val ≤ 'z'.val)) = true ↔ _
    rw [Bool.and_eq_true, decide_eq_true_eq, decide_eq_true_eq]
    rfl
  show (c.isUpper || c.isLower) = true ↔ _
  rw [Bool.or_eq_true, upper, lower, IsLetter]

/-- Whether a character may stand in a word: an ASCII letter or digit, or an underscore. -/
def isWordChar (c : Char) : Bool := c = '_' || c.isAlphanum

theorem isWordChar_iff {c : Char} :
    isWordChar c = true ↔ c = '_' ∨ IsLetter c ∨ '0' ≤ c ∧ c ≤ '9' := by
  have digit : c.isDigit = true ↔ '0' ≤ c ∧ c ≤ '9' := by
    show (decide (c.val ≥ '0'.val) && decide (c.val ≤ '9'.val)) = true ↔ _
    rw [Bool.and_eq_true, decide_eq_true_eq, decide_eq_true_eq]
    rfl
  show (decide (c = '_') || (c.isAlpha || c.isDigit)) = true ↔ _
  rw [Bool.or_eq_true, Bool.or_eq_true, decide_eq_true_eq, isAlpha_iff, digit]

theorem isBlank_of_isWordChar {c : Char} (h : isWordChar c = true) : isBlank c = false := by
  have code : c.toNat = 95 ∨ 65 ≤ c.toNat ∧ c.toNat ≤ 90 ∨ 97 ≤ c.toNat ∧ c.toNat ≤ 122 ∨
      48 ≤ c.toNat ∧ c.toNat ≤ 57 := by
    rcases isWordChar_iff.1 h with rfl | (upper | lower) | digit
    · exact .inl rfl
    · exact .inr (.inl upper)
    · exact .inr (.inr (.inl lower))
    · exact .inr (.inr (.inr digit))
  rw [Bool.eq_false_iff]
  intro blank
  simp only [isBlank, Bool.or_eq_true, Bool.and_eq_true, decide_eq_true_eq, beq_iff_eq] at blank
  omega

variable {name : Text}

theorem isWordChar_of_mem (h : isShellName name = true) {c : Char} (hc : c ∈ name) :
    isWordChar c = true := by
  cases name with
  | nil => exact nomatch h
  | cons d t =>
    rw [isShellName, Bool.and_eq_true, Bool.or_eq_true, decide_eq_true_eq, isAlpha_iff,
      List.all_eq_true] at h
    rcases List.mem_cons.1 hc with rfl | hc
    · exact isWordChar_iff.2 (h.1.imp_right .inl)
    · exact h.2 c hc

theorem notMem_of_isShellName (h : isShellName name = true) {c : Char}
    (other : isWordChar c = false) : c ∉ name := by
  intro hc
  rw [isWordChar_of_mem h hc] at other
  exact nomatch other

theorem ne_nil_of_isShellName (h : isShellName name = true) : name ≠ [] := by
  rintro rfl
  exact nomatch h

theorem isAddress_of_isShellName (h : isShellName name = true) : isAddress name = false := by
  rw [Bool.eq_false_iff]
  intro address
  obtain ⟨t, rfl⟩ := List.isPrefixOf_iff_prefix.1 address
  exact notMem_of_isShellName h (c := ':') (by decide) (by simp [Address.scheme])

end SecretEnv
