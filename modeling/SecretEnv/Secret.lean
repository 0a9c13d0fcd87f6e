import SecretEnv.Json.Parser
import SecretEnv.Json.Path
import SecretEnv.Json.Printer
import SecretEnv.Text.Blank
import SecretEnv.TextMap

/-!
# Secrets as variables

A fetched secret is a text. It becomes variables in one of two ways.

* `Secret.expand` makes one variable of every scalar inside a JSON object or
  array, and one of any other secret;
* `Secret.scalar` makes one cleaned value of the secret, or of the value that a
  path leads to inside it.

`Json.leaves` lists the scalars of a value with the names that they get.
-/

namespace SecretEnv

/-- Variables: names and values. -/
abbrev Variables := TextMap

/-- A name inside another; inside the empty name it stays as it is. -/
def joinName (outer inner : Text) : Text := if outer = [] then inner else outer ++ '_' :: inner

namespace Json

mutual

/-- The scalars of a value with their names: members in the order of the object,
items by their index. A scalar has the name of the whole. -/
def leaves (name : Text) : Json → List (Text × Text)
  | .array items => itemLeaves name 0 items
  | .object members => memberLeaves name members
  | v => [(name, v.plain)]

/-- The scalars of the items from an index on. -/
def itemLeaves (name : Text) : Nat → List Json → List (Text × Text)
  | _, [] => []
  | i, v :: vs => leaves (joinName name (Text.decimal i)) v ++ itemLeaves name (i + 1) vs

/-- The scalars of the members. -/
def memberLeaves (name : Text) : List (Text × Json) → List (Text × Text)
  | [] => []
  | (member, v) :: ms => leaves (joinName name member) v ++ memberLeaves name ms

end

/-- Add the scalars of a value to variables. -/
def expandInto (vars : Variables) (name : Text) (v : Json) : Variables :=
  vars.insertAll (v.leaves name)

end Json

namespace Secret

/-- The text without control characters and without blanks but the space. -/
def clean (t : Text) : Text := t.filter fun c => c = ' ' || !(isControl c || isBlank c)

/-- The text between two quotes of a kind, if it stands between two. -/
def unquote? (quote : Char) : Text → Option Text
  | [] => none
  | c :: t => if c = quote ∧ t.getLast? = some quote then some t.dropLast else none

/-- The text without one pair of double or else single quotes around it. -/
def unwrapQuotes (t : Text) : Text :=
  (unquote? '"' t).getD ((unquote? '\'' t).getD t)

/-- The variables of a secret. Only an object or array is divided; any other
secret is one variable of the given name, or of the other name if that is empty. -/
def expand (name fallback raw : Text) : Variables :=
  let key := if name = [] then fallback else name
  match Json.parse? raw with
  | some v =>
    if v.isContainer then v.expandInto TextMap.empty name
    else TextMap.empty.insert key v.plain
  | none => TextMap.empty.insert key raw

end Secret

/-- Why no single value can be taken from a secret. -/
inductive ScalarError where
  | notJson
  | path (source : PathError)
  deriving DecidableEq

namespace Secret

/-- The text of a value that a path leads to; only a string is cleaned. -/
def foundText : Json → Text
  | .string t => clean t
  | v => v.plain

/-- One value from a secret: all of it, or what a dotted path leads to. -/
def scalar (raw : Text) : Option Text → Except ScalarError Text
  | none => .ok (unwrapQuotes (clean raw))
  | some key =>
    match Json.parse? raw with
    | none => .error .notJson
    | some root =>
      match root.navigate (Json.segments key) with
      | .ok found => .ok (unwrapQuotes (foundText found))
      | .error e => .error (.path e)

end Secret
end SecretEnv
