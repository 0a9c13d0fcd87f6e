import SecretEnv.Json.Numeral

/-!
# Reading JSON

`Json.parse?` reads a text that is one JSON value, as RFC 8259 has it.

* Only space, tab, line feed and carriage return may stand around values.
* A string holds no raw control character below U+0020, and surrogates come in
  pairs.
* Of members with one name the last counts.
* At most 127 containers are nested.

The readers below take the rest of the text and give what they have read with
what is left. Their first argument bounds the steps: every second step uses up a
character.

They do not say why a text is refused. The words for that belong to the JSON
library, and come in as `Json.Words`.
-/

namespace SecretEnv.Json

/-- What the JSON library says of a text that it refuses; nothing if its words are left out. -/
class Words where
  refusal? : Text → Option Text

/-- Without other words there are none. -/
instance (priority := low) Words.silent : Words := ⟨fun _ => none⟩

/-- The text without the blanks of JSON at its front. -/
def skipSpace (t : Text) : Text :=
  t.dropWhile fun c => c = ' ' || c = '\t' || c = '\n' || c = '\r'

/-- The value of four hexadecimal digits. -/
def hexFour? (a b c d : Char) : Option Nat := do
  let a ← Text.hexDigit? a
  let b ← Text.hexDigit? b
  let c ← Text.hexDigit? c
  let d ← Text.hexDigit? d
  some (((a * 16 + b) * 16 + c) * 16 + d)

/-- The character of a backslash and one letter. -/
def simpleEscape? : Char → Option Char
  | '"' => some '"'
  | '\\' => some '\\'
  | '/' => some '/'
  | 'b' => some '\x08'
  | 'f' => some '\x0c'
  | 'n' => some '\n'
  | 'r' => some '\r'
  | 't' => some '\t'
  | _ => none

/-- A character in front of the string that has been read after it. -/
def consChar (c : Char) : Option (Text × Text) → Option (Text × Text)
  | some (s, rest) => some (c :: s, rest)
  | none => none

/-- Read a string after its opening quote. -/
def stringTail? : Text → Option (Text × Text)
  | [] => none
  | '"' :: t => some ([], t)
  | '\\' :: 'u' :: a :: b :: c :: d :: t =>
    match hexFour? a b c d with
    | none => none
    | some n =>
      if 0xD800 ≤ n ∧ n < 0xDC00 then
        match t with
        | '\\' :: 'u' :: a :: b :: c :: d :: t =>
          match hexFour? a b c d with
          | none => none
          | some m =>
            if 0xDC00 ≤ m ∧ m < 0xE000 then
              consChar (Char.ofNat (0x10000 + (n - 0xD800) * 0x400 + (m - 0xDC00))) (stringTail? t)
            else none
        | _ => none
      else if 0xDC00 ≤ n ∧ n < 0xE000 then none
      else consChar (Char.ofNat n) (stringTail? t)
  | '\\' :: e :: t =>
    match simpleEscape? e with
    | none => none
    | some c => consChar c (stringTail? t)
  | c :: t => if c.toNat < 0x20 ∨ c = '\\' then none else consChar c (stringTail? t)

mutual

/-- Read a value; `depth` more containers may be nested. -/
def value? : Nat → Nat → Text → Option (Json × Text)
  | 0, _, _ => none
  | fuel + 1, depth, t =>
    match skipSpace t with
    | 'n' :: 'u' :: 'l' :: 'l' :: t => some (.null, t)
    | 't' :: 'r' :: 'u' :: 'e' :: t => some (.bool true, t)
    | 'f' :: 'a' :: 'l' :: 's' :: 'e' :: t => some (.bool false, t)
    | '"' :: t => (stringTail? t).map fun (s, t) => (.string s, t)
    | '[' :: t =>
      if depth = 0 then none
      else match skipSpace t with
        | ']' :: t => some (.array [], t)
        | t => (items? fuel (depth - 1) t).map fun (items, t) => (.array items, t)
    | '\x7b' :: t =>
      if depth = 0 then none
      else match skipSpace t with
        | '\x7d' :: t => some (.object [], t)
        | t => (members? fuel (depth - 1) t).map fun (members, t) => (ofMembers members, t)
    | t => (numeral? t).map fun (n, t) => (.number n, t)

/-- Read the items of an array that is not empty, and its closing bracket. -/
def items? : Nat → Nat → Text → Option (List Json × Text)
  | 0, _, _ => none
  | fuel + 1, depth, t =>
    match value? fuel depth t with
    | none => none
    | some (v, t) =>
      match skipSpace t with
      | ']' :: t => some ([v], t)
      | ',' :: t => (items? fuel depth t).map fun (vs, t) => (v :: vs, t)
      | _ => none

/-- Read the members of an object that is not empty, and its closing brace. -/
def members? : Nat → Nat → Text → Option (List (Text × Json) × Text)
  | 0, _, _ => none
  | fuel + 1, depth, t =>
    match skipSpace t with
    | '"' :: t =>
      match stringTail? t with
      | none => none
      | some (name, t) =>
        match skipSpace t with
        | ':' :: t =>
          match value? fuel depth t with
          | none => none
          | some (v, t) =>
            match skipSpace t with
            | '\x7d' :: t => some ([(name, v)], t)
            | ',' :: t => (members? fuel depth t).map fun (ms, t) => ((name, v) :: ms, t)
            | _ => none
        | _ => none
    | _ => none

end

/-- How many containers may be nested. -/
def maxDepth : Nat := 127

/-- Read a text that is one value. -/
def parse? (t : Text) : Option Json :=
  match value? (2 * t.length + 1) maxDepth t with
  | some (v, rest) => if skipSpace rest = [] then some v else none
  | none => none

end SecretEnv.Json
