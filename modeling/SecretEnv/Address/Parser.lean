import SecretEnv.Address.Printer
import SecretEnv.Text.Blank

/-!
# Reading addresses

`Address.parse` reads `sem://platform:service/account/name?version=&key=&region=`.

* Blanks around the text do not count.
* Everything after the second slash of the path is the name.
* Of parameters with one name the first counts, and an empty value counts as
  none given. Other parameters are skipped.
-/

namespace SecretEnv.Address

/-- The four parts of a path, none of which may be empty. -/
def components? (path : Text) : Option (Text × Text × Text × Text) := do
  let (head, rest) ← Text.cut '/' path
  let (account, name) ← Text.cut '/' rest
  let (platform, service) ← Text.cut ':' head
  if platform = [] ∨ service = [] ∨ account = [] ∨ name = [] then none
  else some (platform, service, account, name)

/-- The value of the first parameter of a name, if there is one and it is not empty. -/
def param? (params : List (Text × Text)) (name : Text) : Option Text :=
  (params.lookup name).bind Text.nonEmpty?

/-- The address with what the parameters give. -/
def withParams (a : Address) (params : List (Text × Text)) : Address :=
  { a with
    version := (param? params versionParam).getD a.version
    key := param? params keyParam
    region := (param? params regionParam).or a.region }

/-- Path and query of an address without its scheme. -/
def splitQuery (rest : Text) : Text × Text := (Text.cut '?' rest).getD (rest, [])

/-- Read an address. -/
def parse (text : Text) : Except AddressError Address :=
  match scheme.isPrefixOf? text.trim with
  | none => .error (.missingPrefix scheme)
  | some rest =>
    match components? (splitQuery rest).1 with
    | none => .error .missingFields
    | some (platform, service, account, name) =>
      .ok ((new platform service account name).withParams (FormUrl.parse (splitQuery rest).2))

end SecretEnv.Address
