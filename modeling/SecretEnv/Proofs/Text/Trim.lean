import SecretEnv.Proofs.Text.Parts
import SecretEnv.Text.Blank

/-!
# Trimmed texts

What `Text.trim` does to a text with a character inside that is no blank: the
part before loses its leading blanks, the part behind its trailing ones. Nothing
is lost where no blank is at an end (`trim_eq_self_iff`).
-/

namespace SecretEnv.Text

@[simp] theorem trimStart_trimStart (t : Text) : trimStart (trimStart t) = trimStart t :=
  List.dropWhile_idempotent _ _

@[simp] theorem trimEnd_trimEnd (t : Text) : trimEnd (trimEnd t) = trimEnd t := by
  simp [trimEnd, List.dropWhile_idempotent]

theorem trimStart_eq_self_iff {t : Text} :
    trimStart t = t ↔ ∀ c, t.head? = some c → isBlank c = false :=
  Parts.dropWhile_eq_self_iff

theorem trimEnd_eq_self_iff {t : Text} :
    trimEnd t = t ↔ ∀ c, t.getLast? = some c → isBlank c = false :=
  Parts.rdropWhile_eq_self_iff

theorem trimStart_append_cons {c : Char} (h : isBlank c = false) (a b : Text) :
    trimStart (a ++ c :: b) = trimStart a ++ c :: b := by
  rw [trimStart, List.dropWhile_append]
  split
  · next e =>
    rw [List.isEmpty_iff] at e
    rw [trimStart, e, List.dropWhile_cons_of_neg (by simp [h]), List.nil_append]
  · rfl

theorem trimEnd_append_cons {c : Char} (h : isBlank c = false) (a b : Text) :
    trimEnd (a ++ c :: b) = a ++ c :: trimEnd b := by
  have turned : (a ++ c :: b).reverse = b.reverse ++ c :: a.reverse := by simp
  have front := trimStart_append_cons h b.reverse a.reverse
  rw [trimStart, trimStart] at front
  rw [trimEnd, turned, front, trimEnd]
  simp

@[simp] theorem trimStart_trim (t : Text) : trimStart (trim t) = trim t := by
  have front := trimStart_trimStart t
  rw [trim]
  cases h : trimStart t with
  | nil => rfl
  | cons c u =>
    have solid : isBlank c = false := by
      by_contra blank
      rw [h, trimStart, List.dropWhile_cons_of_pos (by simpa using blank)] at front
      have short := (List.dropWhile_sublist isBlank (l := u)).length_le
      rw [front, List.length_cons] at short
      omega
    have behind := trimEnd_append_cons solid [] u
    rw [List.nil_append, List.nil_append] at behind
    rw [behind, trimStart, List.dropWhile_cons_of_neg (by simp [solid])]

@[simp] theorem trim_trim (t : Text) : trim (trim t) = trim t := by
  rw [trim, trimStart_trim, trim, trimEnd_trimEnd]

/-- A text without a blank at either end. -/
structure Trimmed (t : Text) : Prop where
  front : ∀ c, t.head? = some c → isBlank c = false
  back : ∀ c, t.getLast? = some c → isBlank c = false

theorem trim_eq_self_iff {t : Text} : trim t = t ↔ Trimmed t := by
  constructor
  · intro same
    have front : trimStart t = t := by
      rw [← same]
      exact trimStart_trim t
    have back : trimEnd t = t := by rwa [trim, front] at same
    exact ⟨trimStart_eq_self_iff.1 front, trimEnd_eq_self_iff.1 back⟩
  · rintro ⟨front, back⟩
    rw [trim, trimStart_eq_self_iff.2 front, trimEnd_eq_self_iff.2 back]

/-- A text is trimmed on both sides of a character that is no blank. -/
theorem trim_append_cons {c : Char} (h : isBlank c = false) (a b : Text) :
    trim (a ++ c :: b) = trimStart a ++ c :: trimEnd b := by
  rw [trim, trimStart_append_cons h, trimEnd_append_cons h]

theorem trimEnd_of_forall {t : Text} (h : ∀ c ∈ t, isBlank c = false) : trimEnd t = t := by
  rcases List.eq_nil_or_concat t with rfl | ⟨u, c, rfl⟩
  · rfl
  · rw [List.concat_eq_append]
    have solid : isBlank c = false := h c (by simp)
    exact trimEnd_append_cons solid u []

theorem trimEnd_prefix_self (t : Text) : trimEnd t <+: t := List.rdropWhile_prefix isBlank t

theorem mem_of_mem_trimEnd {t : Text} {c : Char} (h : c ∈ trimEnd t) : c ∈ t :=
  (trimEnd_prefix_self t).subset h

theorem mem_of_mem_trim {t : Text} {c : Char} (h : c ∈ trim t) : c ∈ t :=
  (List.dropWhile_sublist isBlank).subset (mem_of_mem_trimEnd h)

end SecretEnv.Text
