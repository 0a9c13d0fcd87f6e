/-!
# Ranges of code points

A property of characters is a list of closed ranges of code points in ascending
order; `CodeRanges.holds` says whether a character has it.
-/

namespace SecretEnv

/-- Closed ranges of code points. -/
abbrev CodeRanges := List (Nat × Nat)

/-- Whether a code point lies in one of the ranges. -/
def CodeRanges.holds (ranges : CodeRanges) (c : Char) : Bool :=
  ranges.any fun (low, high) => low ≤ c.toNat && c.toNat ≤ high

end SecretEnv
