import Mathlib.Tactic.SplitIfs
import SecretEnv.Json.Parser
import SecretEnv.Json.Printer

/-!
# The texts of strings

* `Json.StringText w s`: between quotes, the characters `w` stand for the string `s`;
* `stringTail?_eq_some_iff`: this is what the reader reads;
* `stringText_escape`: this is what the printer writes.
-/

namespace SecretEnv.Json

/-- Between quotes, the characters `w` stand for the string `s`. -/
inductive StringText : (w s : Text) → Prop
  | nil : StringText [] []
  | plain {c : Char} {w s : Text} (allowed : ¬ (c.toNat < 0x20 ∨ c = '\\')) (other : c ≠ '"')
      (rest : StringText w s) : StringText (c :: w) (c :: s)
  | escape {e c : Char} {w s : Text} (read : simpleEscape? e = some c)
      (rest : StringText w s) : StringText ('\\' :: e :: w) (c :: s)
  | code {a b c d : Char} {n : Nat} {w s : Text} (read : hexFour? a b c d = some n)
      (high : ¬ (0xD800 ≤ n ∧ n < 0xDC00)) (low : ¬ (0xDC00 ≤ n ∧ n < 0xE000))
      (rest : StringText w s) :
      StringText ('\\' :: 'u' :: a :: b :: c :: d :: w) (Char.ofNat n :: s)
  | pair {a b c d a' b' c' d' : Char} {n m : Nat} {w s : Text}
      (first : hexFour? a b c d = some n) (high : 0xD800 ≤ n ∧ n < 0xDC00)
      (second : hexFour? a' b' c' d' = some m) (low : 0xDC00 ≤ m ∧ m < 0xE000)
      (rest : StringText w s) :
      StringText ('\\' :: 'u' :: a :: b :: c :: d :: '\\' :: 'u' :: a' :: b' :: c' :: d' :: w)
        (Char.ofNat (0x10000 + (n - 0xD800) * 0x400 + (m - 0xDC00)) :: s)

/-! ### Reading -/

theorem consChar_eq_some_iff {c : Char} {o : Option (Text × Text)} {s r : Text} :
    consChar c o = some (s, r) ↔ ∃ t, s = c :: t ∧ o = some (t, r) := by
  cases o with
  | none => exact ⟨nofun, nofun⟩
  | some p =>
    obtain ⟨t, u⟩ := p
    constructor
    · intro h
      obtain ⟨rfl, rfl⟩ := Prod.mk.inj (Option.some.inj h)
      exact ⟨t, rfl, rfl⟩
    · rintro ⟨t, rfl, h⟩
      obtain ⟨rfl, rfl⟩ := Prod.mk.inj (Option.some.inj h)
      rfl

/-- What was read as a string stood for it. -/
theorem exists_stringText {t s r : Text} (h : stringTail? t = some (s, r)) :
    ∃ w, t = w ++ '"' :: r ∧ StringText w s := by
  fun_induction stringTail? t generalizing s
  case case2 t =>
    obtain ⟨rfl, rfl⟩ := Prod.mk.inj (Option.some.inj h)
    exact ⟨[], rfl, .nil⟩
  case case5 first high _ _ _ _ _ _ second low ih =>
    obtain ⟨s, rfl, rest⟩ := consChar_eq_some_iff.1 h
    obtain ⟨w, rfl, text⟩ := ih rest
    exact ⟨_, rfl, .pair first high second low text⟩
  case case9 read high low ih =>
    obtain ⟨s, rfl, rest⟩ := consChar_eq_some_iff.1 h
    obtain ⟨w, rfl, text⟩ := ih rest
    exact ⟨_, rfl, .code read high low text⟩
  case case11 read ih =>
    obtain ⟨s, rfl, rest⟩ := consChar_eq_some_iff.1 h
    obtain ⟨w, rfl, text⟩ := ih rest
    exact ⟨_, rfl, .escape read text⟩
  case case13 quote _ _ allowed ih =>
    obtain ⟨s, rfl, rest⟩ := consChar_eq_some_iff.1 h
    obtain ⟨w, rfl, text⟩ := ih rest
    exact ⟨_, rfl, .plain allowed quote text⟩
  all_goals cases h

theorem stringTail?_escape {e c : Char} (read : simpleEscape? e = some c) (t : Text) :
    stringTail? ('\\' :: e :: t) = consChar c (stringTail? t) := by
  have letter : e ≠ 'u' := by
    rintro rfl
    cases read
  rw [stringTail?.eq_def]
  split
  · next h => cases h
  · next h => cases h
  · next h => exact absurd (List.cons.inj (List.cons.inj h).2).1 letter
  · next h =>
    obtain ⟨rfl, rfl⟩ := List.cons.inj (List.cons.inj h).2
    simp only [read]
  · next other h =>
    obtain ⟨rfl, rfl⟩ := List.cons.inj h
    exact absurd rfl (other e t rfl)

/-- What stands for a string is read as it, up to the closing quote. -/
theorem StringText.stringTail? {w s : Text} (h : StringText w s) (r : Text) :
    stringTail? (w ++ '"' :: r) = some (s, r) := by
  induction h with
  | nil => rfl
  | @plain c w s allowed other _ ih =>
    obtain ⟨-, backslash⟩ := not_or.1 allowed
    rw [List.cons_append, Json.stringTail?.eq_def]
    split
    · next h => cases h
    · next h => exact absurd (List.cons.inj h).1 other
    · next h => exact absurd (List.cons.inj h).1 backslash
    · next h => exact absurd (List.cons.inj h).1 backslash
    · next h =>
      obtain ⟨rfl, rfl⟩ := List.cons.inj h
      rw [if_neg allowed, ih]
      rfl
  | escape read _ ih =>
    rw [List.cons_append, List.cons_append, stringTail?_escape read, ih]
    rfl
  | code read high low _ ih =>
    simp only [List.cons_append, Json.stringTail?, read, if_neg high, if_neg low, ih, consChar]
  | pair first high second low _ ih =>
    simp only [List.cons_append, Json.stringTail?, first, second, if_pos high, if_pos low, ih,
      consChar]

/-- A string is read exactly from what stands for it and a closing quote. -/
theorem stringTail?_eq_some_iff {t s r : Text} :
    stringTail? t = some (s, r) ↔ ∃ w, t = w ++ '"' :: r ∧ StringText w s := by
  constructor
  · exact exists_stringText
  · rintro ⟨w, rfl, text⟩
    exact text.stringTail? r

/-! ### Writing -/

theorem hexDigit?_digitChar : ∀ n < 16, Text.hexDigit? (Nat.digitChar n) = some n := by
  decide

theorem hexFour?_control {n : Nat} (small : n < 0x20) :
    hexFour? '0' '0' (Nat.digitChar (n / 16)) (Nat.digitChar (n % 16)) = some n := by
  have zero : Text.hexDigit? '0' = some 0 := rfl
  have high := hexDigit?_digitChar (n / 16) (by omega)
  have low := hexDigit?_digitChar (n % 16) (by omega)
  have value : ((0 * 16 + 0) * 16 + n / 16) * 16 + n % 16 = n := by omega
  simp only [hexFour?, zero, high, low, Option.bind_eq_bind, Option.bind_some, value]

/-- A character stands for itself in the way it is written. -/
theorem StringText.cons (c : Char) {w s : Text} (rest : StringText w s) :
    StringText (escapeChar c ++ w) (c :: s) := by
  unfold escapeChar
  split_ifs with quote backslash backspace formfeed feed ret tab control
  · subst quote
    exact .escape rfl rest
  · subst backslash
    exact .escape rfl rest
  · subst backspace
    exact .escape rfl rest
  · subst formfeed
    exact .escape rfl rest
  · subst feed
    exact .escape rfl rest
  · subst ret
    exact .escape rfl rest
  · subst tab
    exact .escape rfl rest
  · have same : Char.ofNat c.toNat = c := Char.ofNat_toNat c
    have text := StringText.code (hexFour?_control control) (by omega) (by omega) rest
    rwa [same] at text
  · exact .plain (not_or.2 ⟨control, backslash⟩) quote rest

/-- A string stands between quotes as it is written. -/
theorem stringText_escape (s : Text) : StringText (s.flatMap escapeChar) s := by
  induction s with
  | nil => exact .nil
  | cons c s ih => exact .cons c ih

end SecretEnv.Json
