import SecretEnv.Json

/-!
# JSON numerals

A numeral is read in one pass into a significand of 64 bits and a decimal
exponent.

* An integer that fits 64 bits is that integer; minus zero is not an integer.
* Every other numeral is a binary64 number: the significand rounded, then
  multiplied or divided by a rounded power of ten.
* Digits for which the significand has no room count only towards the exponent,
  and then only before the point.

A numeral beyond the largest finite number is refused.
-/

namespace SecretEnv.Json

/-- The value of an ASCII digit. -/
def digitValue (c : Char) : Nat := c.toNat - 48

/-- Take digits into the significand while it fits 64 bits; the other digits
are left over. -/
def absorb : Nat → Text → Nat × Text
  | s, [] => (s, [])
  | s, c :: cs =>
    if s * 10 + digitValue c < wordLimit then absorb (s * 10 + digitValue c) cs else (s, c :: cs)

/-- The number divided by `10 ^ k`, by at most `10 ^ 308` at a time. The first
argument bounds the number of divisions. -/
def divTenPow : Nat → Binary64 → Nat → Option Binary64
  | 0, x, _ => some x
  | n + 1, x, k =>
    if x.units = 0 then some x
    else do
      let p ← Binary64.ofNat? (Nat.pow 10 (min k 308))
      let y ← x.div? p
      if k ≤ 308 then some y else divTenPow n y (k - 308)

/-- The magnitude of `s * 10 ^ e`, or nothing if it is too large. -/
def scale (s : Nat) (e : Int) : Option Binary64 := do
  let x ← Binary64.ofNat? s
  if x.units = 0 then some x
  else if e < 0 then divTenPow (e.natAbs / 308 + 1) x e.natAbs
  else if 308 < e then none
  else x.mul? (← Binary64.ofNat? (Nat.pow 10 e.toNat))

/-- The binary64 number of a sign, a significand and a decimal exponent. -/
def double? (negative : Bool) (s : Nat) (e : Int) : Option Number :=
  (scale s e).map fun x => .double { x with negative }

/-- The number of a numeral with neither point nor exponent. -/
def integer? (negative : Bool) (digits : Text) : Option Number :=
  let (s, excess) := absorb 0 digits
  if excess ≠ [] then double? negative s excess.length
  else if !negative then some (.integer s)
  else if 0 < s ∧ s ≤ signedLimit then some (.integer (-s))
  else double? negative s 0

/-- The digits that a text begins with, and the rest. -/
def spanDigits (t : Text) : Text × Text := t.span Char.isDigit

/-- The exponent after its letter, and the rest. -/
def exponent? : Text → Option (Int × Text)
  | '-' :: t => unsigned t fun n => -n
  | '+' :: t => unsigned t fun n => n
  | t => unsigned t fun n => n
where
  /-- A run of digits, with a sign put to its value. -/
  unsigned (t : Text) (sign : Int → Int) : Option (Int × Text) :=
    (Text.decimal? (spanDigits t).1).map fun n => (sign n, (spanDigits t).2)

/-- Read a numeral without its minus sign. -/
def unsignedNumeral? (negative : Bool) (t : Text) : Option (Number × Text) := do
  let (whole, t) := spanDigits t
  if whole = [] ∨ (whole.head? = some '0' ∧ 1 < whole.length) then none
  let (s, excess) := absorb 0 whole
  match t with
  | '.' :: t =>
    let (places, t) := spanDigits t
    if places = [] then none
    let (s, skipped) := absorb s places
    let e : Int := excess.length - (places.length - skipped.length : Nat)
    match t with
    | 'e' :: t | 'E' :: t =>
      let (k, t) ← exponent? t
      (double? negative s (e + k)).map (·, t)
    | t => (double? negative s e).map (·, t)
  | 'e' :: t | 'E' :: t =>
    let (k, t) ← exponent? t
    (double? negative s (excess.length + k)).map (·, t)
  | t => (integer? negative whole).map (·, t)

/-- Read the numeral that a text begins with. -/
def numeral? : Text → Option (Number × Text)
  | '-' :: t => unsignedNumeral? true t
  | t => unsignedNumeral? false t

end SecretEnv.Json
