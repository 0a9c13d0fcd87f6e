import SecretEnv.Text

/-!
# Secret addresses

An address names one version of one secret that a platform keeps, and perhaps
one value inside it.

* `Address.new` takes version and region from the platform's defaults;
* `Address.cacheKey` is what a platform's cache files a secret under;
* `AddressError` says why a text is no address.
-/

namespace SecretEnv

namespace Platform

/-- The platform of AWS Secrets Manager. -/
def aws : Text := "aws".toList

/-- The platform of Google Cloud Secret Manager. -/
def googleCloud : Text := "googlecloud".toList

/-- The version meant by an address that names none; empty if the platform has none. -/
def defaultVersion (platform : Text) : Text :=
  if platform = aws then "AWSCURRENT".toList
  else if platform = googleCloud then "latest".toList
  else []

/-- The region meant by an address that names none; empty if the platform has none. -/
def defaultRegion (platform : Text) : Text :=
  if platform = aws then "ap-northeast-1".toList else []

end Platform

/-- The text itself, unless it is empty. -/
def Text.nonEmpty? (t : Text) : Option Text := if t = [] then none else some t

/-- A reference to a secret. -/
structure Address where
  /-- Who keeps the secret. -/
  platform : Text
  /-- The platform's service. -/
  service : Text
  /-- The profile or project that owns the secret. -/
  account : Text
  /-- The secret's name, which may hold slashes. -/
  name : Text
  /-- The version label; empty if the platform has no default and none is given. -/
  version : Text
  /-- The dotted path of a value inside the secret. -/
  key : Option Text
  /-- The region that holds the secret. -/
  region : Option Text
  deriving DecidableEq

namespace Address

/-- The address with a platform's defaults. -/
def new (platform service account name : Text) : Address where
  platform := platform
  service := service
  account := account
  name := name
  version := Platform.defaultVersion platform
  key := none
  region := (Platform.defaultRegion platform).nonEmpty?

/-- The address with a version, be it empty. -/
def withVersion (a : Address) (version : Text) : Address := { a with version }

/-- The address with a key; the empty key is none. -/
def withKey (a : Address) (key : Text) : Address := { a with key := key.nonEmpty? }

/-- The address with a region; the empty region is none. -/
def withRegion (a : Address) (region : Text) : Address := { a with region := region.nonEmpty? }

/-- Whether a value inside the secret is asked for. -/
def hasKey (a : Address) : Bool := a.key.isSome

/-- Whether platform, service, account and name are all given. -/
def isComplete (a : Address) : Bool :=
  !a.platform.isEmpty && !a.service.isEmpty && !a.account.isEmpty && !a.name.isEmpty

/-- What a cache files the secret under. Every platform has a cache of its own,
so the platform is left out; the key is left out because it selects a part of
what was fetched. -/
def cacheKey (a : Address) : Text :=
  List.intercalate ['|'] [a.account, a.service, a.name, a.version, a.region.getD []]

/-- What every written address begins with. -/
def scheme : Text := ['s', 'e', 'm', ':', '/', '/']

end Address

/-- Whether a text begins like an address. -/
def isAddress (t : Text) : Bool := Address.scheme.isPrefixOf t

/-- Why a text is no address. -/
inductive AddressError where
  | missingPrefix (expected : Text)
  | missingFields
  deriving DecidableEq

/-- The error in words. -/
def AddressError.message : AddressError → Text
  | .missingPrefix expected =>
    "invalid address: must start with '".toList ++ expected ++ ['\'']
  | .missingFields =>
    ("invalid address: missing required fields " ++
      "(expected '<platform>:<service>/<account>/<secret>')").toList

end SecretEnv
