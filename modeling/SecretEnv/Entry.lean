import SecretEnv.Text

/-!
# Entries

An entry is what one line of a document says: a key with a value, or a key
alone. A bare address is a key alone.
-/

namespace SecretEnv

/-- One line of a document that is neither blank nor a comment. -/
structure Entry where
  /-- The number of the line, from 1. -/
  line : Nat
  key : Text
  value : Text
  deriving DecidableEq

namespace Entry

/-- Whether key and value are both empty. -/
def isEmpty (e : Entry) : Bool := e.key.isEmpty && e.value.isEmpty

/-- Whether key and value are both given. -/
def isAssignment (e : Entry) : Bool := !e.key.isEmpty && !e.value.isEmpty

/-- The text that may be an address: the value of an assignment, otherwise the key. -/
def candidate (e : Entry) : Text := if e.isAssignment then e.value else e.key

/-- What the names of the entry's variables begin with: the key of an assignment. -/
def namePrefix (e : Entry) : Text := if e.isAssignment then e.key else []

end Entry
end SecretEnv
