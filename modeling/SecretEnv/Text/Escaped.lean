import SecretEnv.Text
import SecretEnv.Text.Printable

/-!
# Escaped text

Text inside a message is written so that it stays on one line and shows every
character that would not show by itself.

* `Escaped.quoted` writes a text between double quotes;
* `Escaped.bare` writes it without, so that either kind of quote is escaped.

Both write the usual control characters by a letter and any other unprintable
character by its code point.
-/

namespace SecretEnv.Text.Escaped

/-- A code point in lower-case hexadecimal, as `\u` and a number in braces. -/
def codePoint (c : Char) : Text :=
  ['\\', 'u', '\x7b'] ++ Nat.toDigits 16 c.toNat ++ ['\x7d']

/-- One character. A mark that would join the character before it is shown as a
code point if `marks` is set. -/
def char (marks single : Bool) (c : Char) : Text :=
  if c.toNat = 0 then ['\\', '0']
  else if c = '\t' then ['\\', 't']
  else if c = '\r' then ['\\', 'r']
  else if c = '\n' then ['\\', 'n']
  else if c = '\\' ∨ c = '"' ∨ (single ∧ c = '\'') then ['\\', c]
  else if marks && isJoiningMark c then codePoint c
  else if isPrintable c then [c]
  else codePoint c

/-- The text without quotes; a mark at its front has nothing to join. -/
def bare : Text → Text
  | [] => []
  | c :: t => char true true c ++ t.flatMap (char false true)

/-- The text between double quotes. -/
def quoted (t : Text) : Text := '"' :: t.flatMap (char true false) ++ ['"']

end SecretEnv.Text.Escaped
