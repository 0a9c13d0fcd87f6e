import SecretEnv.FileTree
import SecretEnv.Json.Parser
import SecretEnv.Json.Printer
import SecretEnv.Registry

/-!
# Fixtures

A fixture is a file with a JSON object that stands in for the secrets of all
platforms: its members are cache keys or names with the secrets under them. A
string is a secret as it is; any other value is one as JSON. Of a text that is no
object the JSON library says why, at the end of the message.
-/

namespace SecretEnv.Fixture

/-- The secrets of a text. -/
def secrets? (text : Text) : Option TextMap :=
  match Json.parse? text with
  | some (.object members) => some (TextMap.ofPairs (members.map fun (name, v) => (name, v.plain)))
  | _ => none

/-- What is wrong with the text of a fixture. -/
def refusal [words : Json.Words] (path text : Text) : Text :=
  "invalid fixture ".toList ++ path ++
    ((words.refusal? text).map (": ".toList ++ ·)).getD []

/-- Read a fixture. -/
def load [Json.Words] (t : FileTree) (path : Text) : Except BackendError TextMap :=
  match t.readText path with
  | .error e =>
    .error (.client "static".toList ("cannot read ".toList ++ path ++ ": ".toList ++ e.message))
  | .ok text =>
    match secrets? text with
    | some secrets => .ok secrets
    | none => .error (.client "static".toList (refusal path text))

/-- The platforms that a fixture serves. -/
def platforms : List Text := [Platform.aws, Platform.googleCloud]

/-- Let the secrets serve those platforms. -/
def register (g : Registry) (secrets : TextMap) : Registry :=
  platforms.foldl (fun g p => g.register p (.memory secrets)) g

end SecretEnv.Fixture
