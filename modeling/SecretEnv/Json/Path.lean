import SecretEnv.Json

/-!
# Paths into JSON values

A path is a list of segments. A segment names a member of an object or an item
of an array: items count from 0, after a minus sign from the end, and a minus
sign alone is the last item.

* `Json.segments` divides a dotted path;
* `Json.navigate` follows a path and tells which segment fails and why.
-/

namespace SecretEnv

/-- Why a path leads nowhere; the position is that of the failing segment. -/
inductive PathError where
  | keyNotFound (segment : Text) (position : Nat)
  | indexOutOfBounds (segment : Text) (length position : Nat)
  | invalidIndex (segment : Text) (position : Nat)
  | notNavigable (position : Nat)
  deriving DecidableEq

/-- The error in words. -/
def PathError.message : PathError → Text
  | .keyNotFound segment position =>
    "key '".toList ++ segment ++ "' not found at path position ".toList ++ Text.decimal position
  | .indexOutOfBounds segment length position =>
    "array index '".toList ++ segment ++ "' out of bounds for length ".toList ++
      Text.decimal length ++ " at path position ".toList ++ Text.decimal position
  | .invalidIndex segment position =>
    "invalid array index '".toList ++ segment ++ "' at path position ".toList ++
      Text.decimal position
  | .notNavigable position =>
    "cannot navigate into a scalar at path position ".toList ++ Text.decimal position

namespace Json

/-- The segments of a dotted path; empty ones count. -/
def segments (path : Text) : List Text := path.splitOn '.'

/-- A numeral of 64 bits without a minus sign, perhaps with a plus sign. -/
def unsignedIndex? (t : Text) : Option Nat :=
  let digits := match t with
    | '+' :: t => t
    | t => t
  (Text.decimal? digits).filter (· < wordLimit)

/-- A numeral of 64 bits with a sign, or without. -/
def signedIndex? (t : Text) : Option Int :=
  match t with
  | '-' :: t => ((Text.decimal? t).filter (· ≤ signedLimit)).map fun n => -(n : Int)
  | '+' :: t => ((Text.decimal? t).filter (· < signedLimit)).map fun n => (n : Int)
  | t => ((Text.decimal? t).filter (· < signedLimit)).map fun n => (n : Int)

/-- The item that a segment names in an array of a given length. -/
def arrayIndex (segment : Text) (length position : Nat) : Except PathError Nat :=
  match segment with
  | ['-'] =>
    if length = 0 then .error (.indexOutOfBounds segment length position) else .ok (length - 1)
  | '-' :: back =>
    match signedIndex? back with
    | none => .error (.invalidIndex segment position)
    | some n =>
      if 0 < n ∧ n ≤ length then .ok (length - n.toNat)
      else .error (.indexOutOfBounds segment length position)
  | _ =>
    match unsignedIndex? segment with
    | none => .error (.invalidIndex segment position)
    | some n =>
      if n < length then .ok n else .error (.indexOutOfBounds segment length position)

/-- The value that one segment leads to. -/
def step (v : Json) (segment : Text) (position : Nat) : Except PathError Json :=
  match v with
  | .object members =>
    match members.lookup segment with
    | some v => .ok v
    | none => .error (.keyNotFound segment position)
  | .array items =>
    match arrayIndex segment items.length position with
    | .error e => .error e
    | .ok i =>
      match items[i]? with
      | some v => .ok v
      | none => .error (.indexOutOfBounds segment items.length position)
  | _ => .error (.notNavigable position)

/-- Follow a path whose first segment has a given position. -/
def navigateFrom (position : Nat) (v : Json) : List Text → Except PathError Json
  | [] => .ok v
  | segment :: path =>
    match step v segment position with
    | .ok w => navigateFrom (position + 1) w path
    | .error e => .error e

/-- Follow a path. -/
def navigate (v : Json) (path : List Text) : Except PathError Json := navigateFrom 0 v path

end Json
end SecretEnv
