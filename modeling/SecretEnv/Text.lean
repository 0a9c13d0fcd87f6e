/-!
# Text and bytes

A text is the list of its characters, so that every function on it is a list
function and every law about it an induction.

* `Text.cut` divides a text at the first occurrence of a character;
* `Text.mentions` looks for one text inside another;
* `Text.decimal` and `Text.decimal?` write and read decimal numerals;
* `Text.hexDigit?` reads one hexadecimal digit.

Division at every occurrence is `List.splitOn`, a leading part is taken off by
`List.isPrefixOf?`, and parts are put together by `List.intercalate`.
-/

namespace SecretEnv

/-- A text: its characters in order. -/
abbrev Text := List Char

/-- Raw file or program output. -/
abbrev Bytes := List UInt8

namespace Text

/-- The parts before and after the first `c`, or nothing if `c` does not occur. -/
def cut (c : Char) : Text → Option (Text × Text)
  | [] => none
  | d :: t => if d = c then some ([], t) else (cut c t).map fun (a, b) => (d :: a, b)

@[simp] theorem cut_nil (c : Char) : cut c [] = none := rfl

theorem cut_cons (c d : Char) (t : Text) :
    cut c (d :: t) = if d = c then some ([], t) else (cut c t).map fun (a, b) => (d :: a, b) := rfl

/-- A text is cut at its first `c`, and the `c` itself is left out. -/
theorem cut_eq_some_iff {c : Char} {t a b : Text} :
    cut c t = some (a, b) ↔ t = a ++ c :: b ∧ c ∉ a := by
  induction t generalizing a with
  | nil => simp
  | cons d t ih =>
    rw [cut_cons]
    by_cases h : d = c
    · subst h
      cases a with
      | nil => simp [eq_comm]
      | cons e a =>
        simp only [if_true, Option.some.injEq, Prod.mk.injEq, List.cons_append, List.cons.injEq,
          List.mem_cons, not_or]
        exact ⟨fun h => (by simp at h), fun h => absurd h.1.1 h.2.1⟩
    · cases a with
      | nil => simp [h]
      | cons e a =>
        simp only [h, if_false, Option.map_eq_some_iff, Prod.mk.injEq, Prod.exists,
          List.cons.injEq, List.cons_append, List.mem_cons, not_or]
        constructor
        · rintro ⟨a', b', hc, ⟨rfl, rfl⟩, rfl⟩
          obtain ⟨ht, ha⟩ := ih.1 hc
          exact ⟨⟨rfl, ht⟩, Ne.symm h, ha⟩
        · rintro ⟨⟨rfl, ht⟩, -, ha⟩
          exact ⟨a, b, ih.2 ⟨ht, ha⟩, ⟨rfl, rfl⟩, rfl⟩

theorem cut_eq_none_iff {c : Char} {t : Text} : cut c t = none ↔ c ∉ t := by
  induction t with
  | nil => simp
  | cons d t ih =>
    rw [cut_cons]
    by_cases h : d = c
    · simp [h]
    · simp [h, ih, Ne.symm h]

/-- Whether `part` occurs somewhere in the text. -/
def mentions : Text → (part : Text) → Bool
  | [], part => part.isEmpty
  | c :: t, part => part.isPrefixOf (c :: t) || mentions t part

/-- A text mentions what stands between two parts of it. -/
theorem mentions_iff_infix {t part : Text} : t.mentions part = true ↔ part <:+: t := by
  induction t with
  | nil => rw [mentions, List.isEmpty_iff, List.infix_nil]
  | cons c t ih =>
    rw [mentions, Bool.or_eq_true, List.isPrefixOf_iff_prefix, ih, List.infix_cons_iff]

/-- The text `t` with every `c` replaced by `r`. -/
def replace (t : Text) (c : Char) (r : Text) : Text :=
  t.flatMap fun d => if d = c then r else [d]

/-- The decimal numeral of a natural number, without leading zeros. -/
def decimal (n : Nat) : Text := Nat.toDigits 10 n

/-- The value of a nonempty run of ASCII digits; leading zeros are allowed. -/
def decimal? (t : Text) : Option Nat :=
  if t ≠ [] ∧ t.all Char.isDigit then some (Nat.ofDigitChars 10 t 0) else none

@[simp] theorem decimal?_decimal (n : Nat) : decimal? (decimal n) = some n := by
  have digits : (Nat.toDigits 10 n).all Char.isDigit = true :=
    List.all_eq_true.2 fun c hc => Nat.isDigit_of_mem_toDigits (by decide) (by decide) hc
  simp [decimal?, decimal, digits, Nat.toDigits_ne_nil, Nat.ofDigitChars_ten_toDigits]

/-- The value of a hexadecimal digit in either case. -/
def hexDigit? (c : Char) : Option Nat :=
  if c.isDigit then some (c.toNat - 48)
  else if 'a' ≤ c ∧ c ≤ 'f' then some (c.toNat - 87)
  else if 'A' ≤ c ∧ c ≤ 'F' then some (c.toNat - 55)
  else none

end Text
end SecretEnv
