import Mathlib.Data.List.Basic
import SecretEnv.Secret

/-!
# Quotes around a text

* `Secret.Quoted` are the texts between two quotes, and `Secret.unwrapQuotes_cases` says that
  those and no others are unwrapped;
* `Secret.unwrapQuotes_of_head`: a text that does not begin with a quote is left whole;
* `Secret.mem_unwrapQuotes_iff`: no character but a quote is lost.
-/

namespace SecretEnv.Secret

variable {t u : Text} {c : Char}

theorem unquote?_eq_some_iff {quote : Char} :
    unquote? quote t = some u ↔ t = quote :: (u ++ [quote]) := by
  cases t with
  | nil => simp [unquote?]
  | cons c t =>
    simp only [unquote?, Option.ite_none_right_eq_some, Option.some.injEq, List.cons.injEq]
    constructor
    · rintro ⟨⟨rfl, last⟩, rfl⟩
      exact ⟨rfl, (List.dropLast_append_getLast? _ last).symm⟩
    · rintro ⟨rfl, rfl⟩
      exact ⟨⟨rfl, List.getLast?_concat⟩, List.dropLast_concat⟩

/-- Whether a text has a quote at either end, both of the same kind. -/
def Quoted (t : Text) : Prop := ∃ u, t = '"' :: (u ++ ['"']) ∨ t = '\'' :: (u ++ ['\''])

/-- Of a quoted text what stands between the quotes is left, and any other text is left whole. -/
theorem unwrapQuotes_cases (t : Text) :
    (t = '"' :: (unwrapQuotes t ++ ['"']) ∨ t = '\'' :: (unwrapQuotes t ++ ['\''])) ∨
      (¬ Quoted t ∧ unwrapQuotes t = t) := by
  unfold unwrapQuotes
  cases double : unquote? '"' t with
  | some u => exact .inl (.inl (unquote?_eq_some_iff.1 double))
  | none =>
    cases single : unquote? '\'' t with
    | some u => exact .inl (.inr (unquote?_eq_some_iff.1 single))
    | none =>
      refine .inr ⟨?_, rfl⟩
      rintro ⟨u, e | e⟩
      · exact nomatch double.symm.trans (unquote?_eq_some_iff.2 e)
      · exact nomatch single.symm.trans (unquote?_eq_some_iff.2 e)

theorem length_unwrapQuotes_of_quoted (h : Quoted t) :
    t.length = (unwrapQuotes t).length + 2 := by
  rcases unwrapQuotes_cases t with (e | e) | ⟨bare, -⟩
  · simpa using congrArg List.length e
  · simpa using congrArg List.length e
  · exact absurd h bare

theorem unwrapQuotes_of_not_quoted (h : ¬ Quoted t) : unwrapQuotes t = t := by
  rcases unwrapQuotes_cases t with (e | e) | ⟨-, same⟩
  · exact absurd ⟨_, .inl e⟩ h
  · exact absurd ⟨_, .inr e⟩ h
  · exact same

theorem unwrapQuotes_eq_self_iff : unwrapQuotes t = t ↔ ¬ Quoted t := by
  constructor
  · intro same quoted
    have shorter := length_unwrapQuotes_of_quoted quoted
    rw [same] at shorter
    omega
  · exact unwrapQuotes_of_not_quoted

theorem length_unwrapQuotes_le (t : Text) : (unwrapQuotes t).length ≤ t.length := by
  by_cases quoted : Quoted t
  · have shorter := length_unwrapQuotes_of_quoted quoted
    omega
  · exact Nat.le_of_eq (congrArg List.length (unwrapQuotes_of_not_quoted quoted))

theorem unwrapQuotes_of_head (h : ∀ c ∈ t.head?, c ≠ '"' ∧ c ≠ '\'') : unwrapQuotes t = t := by
  refine unwrapQuotes_of_not_quoted ?_
  rintro ⟨u, rfl | rfl⟩
  · exact (h '"' rfl).1 rfl
  · exact (h '\'' rfl).2 rfl

/-- A character that is no quote is in a text exactly if it is in it without quotes. -/
theorem mem_unwrapQuotes_iff (double : c ≠ '"') (single : c ≠ '\'') :
    c ∈ unwrapQuotes t ↔ c ∈ t := by
  rcases unwrapQuotes_cases t with (e | e) | ⟨-, same⟩
  · conv_rhs => rw [e]
    simp [double]
  · conv_rhs => rw [e]
    simp [single]
  · rw [same]

end SecretEnv.Secret
