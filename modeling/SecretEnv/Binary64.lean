/-!
# Binary64

The finite numbers of the format binary64, and three operations on them, in
exact arithmetic. All are multiples of `2 ^ -1074`, so a magnitude is counted
in that unit.

* `Binary64.ofRatio?` rounds a quotient of natural numbers, ties to even;
* `Binary64.ofNat?`, `Binary64.mul?` and `Binary64.div?` are exact results,
  rounded once.

A result beyond the largest finite number is `none`.
-/

namespace SecretEnv

/-- The number `± significand * 2 ^ exponent * 2 ^ -1074`. The significand has 53
bits, or fewer if the exponent is zero; the exponent is at most 2045. -/
structure Binary64 where
  negative : Bool
  significand : Nat
  exponent : Nat
  deriving DecidableEq

namespace Binary64

/-- The number one in units of `2 ^ -1074`. -/
def one : Nat := Nat.pow 2 1074

/-- The least significand of 53 bits. -/
def leastFull : Nat := 0x10000000000000

/-- The magnitude in units of `2 ^ -1074`. -/
def units (x : Binary64) : Nat := x.significand * Nat.pow 2 x.exponent

/-- The least `p` with `a / d < 2 ^ (p + 53)`. -/
def unitExponent (a d : Nat) : Nat :=
  let p := a.log2 - (d.log2 + 52)
  if 0 < p ∧ a < d * Nat.pow 2 (p + 52) then p - 1 else p

/-- The natural number nearest to `a / d`, of two the even one. -/
def nearest (a d : Nat) : Nat :=
  let q := a / d
  let r := a % d
  if 2 * r < d then q else if d < 2 * r then q + 1 else if q % 2 = 0 then q else q + 1

/-- The number nearest to `a / d` units. -/
def ofRatio? (negative : Bool) (a d : Nat) : Option Binary64 :=
  let p := unitExponent a d
  let m := nearest a (d * Nat.pow 2 p)
  let carried := m = 2 * leastFull
  let p := if carried then p + 1 else p
  if p ≤ 2045 then some ⟨negative, if carried then leastFull else m, p⟩ else none

/-- The number nearest to a natural number. -/
def ofNat? (n : Nat) : Option Binary64 := ofRatio? false (n * one) 1

/-- The product. -/
def mul? (x y : Binary64) : Option Binary64 :=
  ofRatio? (x.negative != y.negative) (x.units * y.units) one

/-- The quotient by a number that is not zero. -/
def div? (x y : Binary64) : Option Binary64 :=
  if y.units = 0 then none
  else ofRatio? (x.negative != y.negative) (x.units * one) y.units

end Binary64
end SecretEnv
