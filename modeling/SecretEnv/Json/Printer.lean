import SecretEnv.Binary64.Shortest
import SecretEnv.Json

/-!
# Writing JSON

`Json.render` writes a value without blanks. A string shows every character as
it is but for the quote, the backslash and the controls below U+0020.
`Json.plain` is the text that a value stands for outside JSON: a string without
its quotes, any other value as JSON.
-/

namespace SecretEnv.Json

/-- A number: the integer in decimal, or the shortest text of the double. -/
def Number.render : Number → Text
  | .integer n => (if n < 0 then ['-'] else []) ++ Text.decimal n.natAbs
  | .double x => x.render

/-- One character of a string. -/
def escapeChar (c : Char) : Text :=
  if c = '"' then ['\\', '"']
  else if c = '\\' then ['\\', '\\']
  else if c = '\x08' then ['\\', 'b']
  else if c = '\x0c' then ['\\', 'f']
  else if c = '\n' then ['\\', 'n']
  else if c = '\r' then ['\\', 'r']
  else if c = '\t' then ['\\', 't']
  else if c.toNat < 0x20 then
    ['\\', 'u', '0', '0', Nat.digitChar (c.toNat / 16), Nat.digitChar (c.toNat % 16)]
  else [c]

/-- A string between quotes. -/
def renderString (t : Text) : Text := '"' :: t.flatMap escapeChar ++ ['"']

mutual

/-- The value without blanks. -/
def render : Json → Text
  | .null => "null".toList
  | .bool true => "true".toList
  | .bool false => "false".toList
  | .number n => n.render
  | .string t => renderString t
  | .array [] => ['[', ']']
  | .array (v :: vs) => '[' :: render v ++ renderItems vs
  | .object [] => ['\x7b', '\x7d']
  | .object ((name, v) :: ms) => '\x7b' :: renderString name ++ ':' :: render v ++ renderMembers ms

/-- The items after the first, and the closing bracket. -/
def renderItems : List Json → Text
  | [] => [']']
  | v :: vs => ',' :: render v ++ renderItems vs

/-- The members after the first, and the closing brace. -/
def renderMembers : List (Text × Json) → Text
  | [] => ['\x7d']
  | (name, v) :: ms => ',' :: renderString name ++ ':' :: render v ++ renderMembers ms

end

/-- The text that a value stands for. -/
def plain : Json → Text
  | .string t => t
  | v => v.render

end SecretEnv.Json
