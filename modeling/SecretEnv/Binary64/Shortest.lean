import SecretEnv.Binary64
import SecretEnv.Text

/-!
# Shortest decimals

`Binary64.shortest` is the decimal with the fewest digits that is nearer to a
number than to its neighbours, and of those with as few digits the nearest.
`Binary64.render` writes it.

The decimals with a given last place form a grid. If a point of a grid rounds to
the number, so does one of the two grid points around the number, and only these
are looked at, on one grid after the other.
-/

namespace SecretEnv.Binary64

/-- The decimal `digits * 10 ^ place`. -/
structure Decimal where
  digits : Nat
  place : Int
  deriving DecidableEq

/-- Whether `10 ^ k` is at most `u` units. -/
def tenPowLe (k : Int) (u : Nat) : Bool :=
  Nat.pow 10 k.toNat * one ≤ u * Nat.pow 10 (-k).toNat

/-- The place of the leading digit of `u` units, for positive `u`. The binary
logarithm gives it up to one place. -/
def leadingPlace (u : Nat) : Int :=
  let guess := (((u.log2 : Int) - 1074) * 30103) / 100000
  if tenPowLe (guess + 1) u then guess + 1 else if tenPowLe guess u then guess else guess - 1

/-- The decimal at a place that rounds to `x`, if there is one; of two the
nearer, and of two as near the even one. All is scaled by four, so that the
halves of the gaps around `x` are whole. -/
def atPlace (x : Binary64) (place : Int) : Option Decimal :=
  let unit := 4 * one * Nat.pow 10 place.toNat
  let scale := Nat.pow 10 (-place).toNat
  let gap := Nat.pow 2 x.exponent
  let value := 4 * x.units * scale
  let gapBelow := if x.significand = leastFull ∧ 0 < x.exponent then gap else 2 * gap
  let low := (4 * x.units - gapBelow) * scale
  let high := (4 * x.units + 2 * gap) * scale
  let inside (n : Nat) : Bool :=
    if x.significand % 2 = 0 then low ≤ n * unit && n * unit ≤ high
    else low < n * unit && n * unit < high
  let down := value / unit
  let up := down + 1
  let below := value - down * unit
  let above := up * unit - value
  let nearer := if below < above then down else if above < below then up
    else if down % 2 = 0 then down else up
  if inside down && inside up then some ⟨nearer, place⟩
  else if inside down then some ⟨down, place⟩
  else if inside up then some ⟨up, place⟩
  else none

/-- The first decimal found from a place on downwards. -/
def search (x : Binary64) : Nat → Int → Decimal
  | 0, place => ⟨0, place⟩
  | n + 1, place => (atPlace x place).getD (search x n (place - 1))

/-- The shortest decimal of a number that is not zero; 17 digits are always enough. -/
def shortest (x : Binary64) : Decimal := search x 17 (leadingPlace x.units)

/-- The digits without the zeros at their end. -/
def trimZeros (digits : Text) : Text := (digits.reverse.dropWhile (· = '0')).reverse

/-- The magnitude of a decimal, whose leading digit has the place `lead`: in
positional notation from `10 ^ -5` up to below `10 ^ 16`, otherwise in
scientific notation with a signed exponent. -/
def renderDigits (digits : Text) (lead : Int) : Text :=
  let zeros (n : Nat) : Text := List.replicate n '0'
  if -5 ≤ lead ∧ lead < 0 then ['0', '.'] ++ zeros (-lead - 1).toNat ++ digits
  else if 0 ≤ lead ∧ lead ≤ 15 then
    let whole := lead.toNat + 1
    if digits.length ≤ whole then digits ++ zeros (whole - digits.length) ++ ['.', '0']
    else digits.take whole ++ '.' :: digits.drop whole
  else
    digits.take 1 ++ (if digits.length ≤ 1 then [] else '.' :: digits.drop 1) ++
      ['e', if lead < 0 then '-' else '+'] ++ Text.decimal lead.natAbs

/-- The shortest text that reads back as the number. -/
def render (x : Binary64) : Text :=
  let sign : Text := if x.negative then ['-'] else []
  if x.units = 0 then sign ++ ['0', '.', '0']
  else
    let d := x.shortest
    let digits := Text.decimal d.digits
    sign ++ renderDigits (trimZeros digits) (d.place + (digits.length - 1 : Nat))

end SecretEnv.Binary64
