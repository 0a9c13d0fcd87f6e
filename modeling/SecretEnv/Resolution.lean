import SecretEnv.Address.Parser
import SecretEnv.Entry
import SecretEnv.Listing
import SecretEnv.Registry

/-!
# Resolving entries

An entry whose candidate is the address of a served platform stands for what the
secret holds; any other entry stands for itself. `Entry.address?` and
`Entry.resolved` say so without a registry, and `Registry.resolve` runs them
over the entries of a document.

The first secret that cannot be fetched or read stops the run.
-/

namespace SecretEnv

/-- What stops a run, with the line of the entry. -/
inductive ResolveError where
  | secretFetchFailed (line : Nat) (address : Text) (source : BackendError)
  | notJson (line : Nat) (address key : Text)
  | keyNotFound (line : Nat) (address key : Text) (source : PathError)
  deriving DecidableEq

namespace ResolveError

/-- The line of the entry. -/
def line : ResolveError → Nat
  | secretFetchFailed line _ _ | notJson line _ _ | keyNotFound line _ _ _ => line

/-- The error in words. -/
def message : ResolveError → Text
  | secretFetchFailed line address source =>
    "failed to retrieve secret for line ".toList ++ Text.decimal line ++ " (".toList ++ address ++
      "): ".toList ++ source.message
  | notJson line address key =>
    "line ".toList ++ Text.decimal line ++ ": cannot read key '".toList ++ key ++
      "' from ".toList ++ address ++ ": secret is not JSON".toList
  | keyNotFound line address key source =>
    "line ".toList ++ Text.decimal line ++ ": key '".toList ++ key ++
      "' does not exist in ".toList ++ address ++ ": ".toList ++ source.message

end ResolveError

namespace Entry

/-- The entry as a variable of its own; without a key it is none. -/
def literal (e : Entry) : Variables :=
  if e.key = [] then TextMap.empty else TextMap.empty.insert e.key e.value

/-- The address that the entry holds. -/
def address? (e : Entry) : Option Address :=
  match Address.parse e.candidate with
  | .ok a => some a
  | .error _ => none

/-- The error of an entry whose secret gives no single value. -/
def scalarError (e : Entry) (a : Address) : ScalarError → ResolveError
  | .notJson => .notJson e.line a.render (a.key.getD [])
  | .path source => .keyNotFound e.line a.render (a.key.getD []) source

/-- The variables of a secret that was fetched for the entry. It is kept as one
value if `whole` is set or a key is asked for. -/
def secretVariables (whole : Bool) (e : Entry) (a : Address) (raw : Text) :
    Except ResolveError Variables :=
  if !whole && !a.hasKey then .ok (Secret.expand e.namePrefix a.name raw)
  else
    match Secret.scalar raw a.key with
    | .ok value =>
      let name := if e.namePrefix = [] then a.key.getD a.name else e.namePrefix
      .ok (TextMap.empty.insert name value)
    | .error err => .error (e.scalarError a err)

/-- The variables of an entry with an address, by what came back for it. -/
def resolved (whole : Bool) (e : Entry) (a : Address) :
    Option (Except BackendError Text) → Except ResolveError Variables
  | none => .ok e.literal
  | some (.ok raw) => e.secretVariables whole a raw
  | some (.error source) => .error (.secretFetchFailed e.line a.render source)

end Entry

namespace Registry

/-- Resolve one entry. -/
def resolveEntry (whole : Bool) (e : Entry) (g : Registry) :
    Except ResolveError Variables × Registry :=
  match e.address? with
  | none => (.ok e.literal, g)
  | some a => (e.resolved whole a (g.fetch a).1, (g.fetch a).2)

/-- Resolve entries and merge their variables into what there is. -/
def resolveInto (whole : Bool) (vars : Variables) :
    List Entry → Registry → Except ResolveError Variables × Registry
  | [], g => (.ok vars, g)
  | e :: es, g =>
    match resolveEntry whole e g with
    | (.ok new, g) => resolveInto whole (vars.extend new) es g
    | (.error err, g) => (.error err, g)

/-- Resolve entries in order, so that later variables replace earlier ones. -/
def resolve (whole : Bool) (es : List Entry) (g : Registry) :
    Except ResolveError Variables × Registry :=
  resolveInto whole TextMap.empty es g

/-- Resolve entries and write the variables as lines. -/
def resolveLines (whole : Bool) (style : LineStyle) (es : List Entry) (g : Registry) :
    Except ResolveError (List Text) × Registry :=
  match resolve whole es g with
  | (.ok vars, g) => (.ok (Listing.lines style vars), g)
  | (.error err, g) => (.error err, g)

end Registry
end SecretEnv
