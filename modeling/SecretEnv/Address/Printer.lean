import SecretEnv.Address
import SecretEnv.Text.FormUrl

/-!
# Written addresses

`Address.render` writes the address in full: the scheme, the path, and as
form-encoded parameters those of version, key and region that are not empty.
-/

namespace SecretEnv.Address

/-- The names of the parameters. -/
def versionParam : Text := "version".toList
def keyParam : Text := "key".toList
def regionParam : Text := "region".toList

/-- The parameters that the written address names. -/
def params (a : Address) : List (Text × Text) :=
  [(versionParam, a.version), (keyParam, a.key.getD []), (regionParam, a.region.getD [])].filter
    fun p => p.2 ≠ []

/-- The part between the scheme and the parameters. -/
def path (a : Address) : Text :=
  a.platform ++ ':' :: a.service ++ '/' :: a.account ++ '/' :: a.name

/-- The address as text. -/
def render (a : Address) : Text :=
  scheme ++ a.path ++ if a.params = [] then [] else '?' :: FormUrl.render a.params

end SecretEnv.Address
