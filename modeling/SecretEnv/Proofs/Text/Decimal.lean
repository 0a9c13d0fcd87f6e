import Mathlib.Data.List.Induction
import Mathlib.Tactic.SplitIfs
import SecretEnv.Text

/-!
# Decimal numerals

The numeral of a number holds digits only, and at least one; it begins with a zero only where it
is the numeral of zero. Different numbers have different numerals. What is read as a number are
the numerals that may begin with zeros:

* `Text.Numeral`: digits, and the number that they write;
* `decimal?_eq_some_iff`: `Text.decimal?` reads these and nothing else.
-/

namespace SecretEnv.Text

theorem decimal_ne_nil (n : Nat) : decimal n ≠ [] := Nat.toDigits_ne_nil

theorem isDigit_of_mem_decimal {n : Nat} {c : Char} (h : c ∈ decimal n) : c.isDigit = true :=
  Nat.isDigit_of_mem_toDigits (by decide) (by decide) h

theorem notMem_decimal {c : Char} (h : c.isDigit = false) (n : Nat) : c ∉ decimal n := by
  intro mem
  rw [isDigit_of_mem_decimal mem] at h
  cases h

theorem decimal_injective {m n : Nat} (h : decimal m = decimal n) : m = n := by
  have values := congrArg decimal? h
  rw [decimal?_decimal, decimal?_decimal] at values
  exact Option.some.inj values

/-- Only zero begins with a zero. -/
theorem eq_zero_of_head?_decimal {n : Nat} (h : (decimal n).head? = some '0') : n = 0 := by
  -- all digits but the last are the numeral of the tenth part
  induction n using Nat.strongRecOn with
  | _ n ih =>
    unfold decimal at h
    rcases Nat.lt_or_ge n 10 with small | large
    · have digit : ∀ d < 10, Nat.digitChar d = '0' → d = 0 := by decide
      rw [Nat.toDigits_of_lt_base small] at h
      exact digit n small (Option.some.inj h)
    · have first : (Nat.toDigits 10 (n / 10)).head?.isSome :=
        List.isSome_head?.2 Nat.toDigits_ne_nil
      rw [Nat.toDigits_of_base_le (by decide) large, List.head?_append,
        Option.or_of_isSome first] at h
      have tenth := ih (n / 10) (by omega) h
      omega

/-! ### Digits with leading zeros -/

/-- A text of ASCII digits, at least one, and the number that they write. -/
inductive Numeral : Text → Nat → Prop
  | digit {d : Nat} (small : d < 10) : Numeral [Nat.digitChar d] d
  | concat {t : Text} {n d : Nat} (front : Numeral t n) (small : d < 10) :
      Numeral (t ++ [Nat.digitChar d]) (10 * n + d)

theorem exists_digitChar {c : Char} (h : c.isDigit = true) :
    ∃ d < 10, c = Nat.digitChar d ∧ c.toNat - '0'.toNat = d := by
  obtain ⟨low, high⟩ := Char.isDigit_iff_toNat.1 h
  have zero : '0'.toNat = 48 := rfl
  have nine : '9'.toNat = 57 := rfl
  have small : c.toNat - '0'.toNat < 10 := by omega
  refine ⟨c.toNat - '0'.toNat, small, Char.toNat_inj.1 ?_, rfl⟩
  rw [Nat.toNat_digitChar_of_lt_ten small]
  omega

namespace Numeral

variable {t : Text} {n : Nat}

theorem ne_nil (h : Numeral t n) : t ≠ [] := by
  cases h with
  | digit => exact List.cons_ne_nil _ _
  | concat => exact List.concat_ne_nil _ _

theorem isDigit (h : Numeral t n) : ∀ c ∈ t, c.isDigit = true := by
  have written {d : Nat} (small : d < 10) : ∀ c ∈ [Nat.digitChar d], c.isDigit = true := by
    intro c hc
    rw [List.mem_singleton.1 hc, Nat.isDigit_digitChar, decide_eq_true small]
  induction h with
  | digit small => exact written small
  | concat _ small ih => exact List.forall_mem_append.2 ⟨ih, written small⟩

/-- The value is what the digits come to from left to right. -/
theorem ofDigitChars_eq (h : Numeral t n) : Nat.ofDigitChars 10 t 0 = n := by
  have value {d m : Nat} (small : d < 10) :
      Nat.ofDigitChars 10 [Nat.digitChar d] m = 10 * m + d := by
    rw [Nat.ofDigitChars_cons, Nat.toNat_digitChar_of_lt_ten small]
    show 10 * m + (48 + d - 48) = 10 * m + d
    omega
  induction h with
  | digit small => simpa using value (m := 0) small
  | concat _ small ih => rw [Nat.ofDigitChars_append, ih, value small]

theorem of_isDigit (ne : t ≠ []) (digits : ∀ c ∈ t, c.isDigit = true) :
    Numeral t (Nat.ofDigitChars 10 t 0) := by
  induction t using List.reverseRecOn with
  | nil => exact absurd rfl ne
  | append_singleton t c ih =>
    obtain ⟨front, last⟩ := List.forall_mem_append.1 digits
    obtain ⟨d, small, rfl, value⟩ := exists_digitChar (last c List.mem_cons_self)
    have step : Nat.ofDigitChars 10 (t ++ [Nat.digitChar d]) 0 =
        10 * Nat.ofDigitChars 10 t 0 + d := by
      rw [Nat.ofDigitChars_append, Nat.ofDigitChars_cons, value]
      rfl
    rw [step]
    by_cases first : t = []
    · have none_before : 10 * Nat.ofDigitChars 10 [] 0 + d = d := by simp
      rw [first, none_before]
      exact .digit small
    · exact .concat (ih first front) small

theorem not_cons {c : Char} (h : c.isDigit = false) : ¬ Numeral (c :: t) n := by
  intro numeral
  rw [numeral.isDigit c List.mem_cons_self] at h
  cases h

theorem unique {m : Nat} (h : Numeral t m) (h' : Numeral t n) : m = n :=
  h.ofDigitChars_eq.symm.trans h'.ofDigitChars_eq

end Numeral

/-- Numerals are what has a decimal value. -/
theorem decimal?_eq_some_iff {t : Text} {n : Nat} : decimal? t = some n ↔ Numeral t n := by
  unfold decimal?
  constructor
  · intro h
    split_ifs at h with digits
    obtain rfl := Option.some.inj h
    exact .of_isDigit digits.1 (List.all_eq_true.1 digits.2)
  · intro h
    rw [if_pos ⟨h.ne_nil, List.all_eq_true.2 h.isDigit⟩, h.ofDigitChars_eq]

end SecretEnv.Text
