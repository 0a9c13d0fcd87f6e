import SecretEnv.Address
import SecretEnv.Program
import SecretEnv.Text.Blank
import SecretEnv.Text.Utf8
import SecretEnv.TextMap

/-!
# Backends

A backend answers an address with the secret as text, or with an error.

* `Backend.memory` holds its secrets, under cache keys or names;
* `Backend.gcloud` asks the program `gcloud` for them;
* `Backend.service` is any other one, such as that of aws, by its answers.

A backend answers an address the same way each time. One whose secrets change, or
that fails now and then, is outside of this.
-/

namespace SecretEnv

/-- Why a backend has no answer. -/
inductive BackendError where
  /-- The backend cannot be set up. -/
  | client (platform reason : Text)
  /-- The request failed. -/
  | request (platform reason : Text)
  /-- The secret has no text. -/
  | emptyValue (name : Text)
  | notFound (name : Text)
  deriving DecidableEq

/-- The error in words. -/
def BackendError.message : BackendError → Text
  | .client platform reason => platform ++ " client setup failed: ".toList ++ reason
  | .request platform reason => platform ++ " request failed: ".toList ++ reason
  | .emptyValue name => "secret '".toList ++ name ++ "' has no string value".toList
  | .notFound name => "secret not found: ".toList ++ name

/-- Where the program `gcloud` is. -/
inductive Gcloud where
  /-- It was looked for among the installed programs. -/
  | installed (found : Option Program)
  /-- It was named, and may not exist. -/
  | named (program : Option Program)

namespace Gcloud

/-- The arguments that ask for a secret. An address without a version means the
default one. -/
def arguments (a : Address) : List Text :=
  ["secrets".toList, "versions".toList, "access".toList,
    if a.version = [] then Platform.defaultVersion Platform.googleCloud else a.version,
    "--secret=".toList ++ a.name, "--project=".toList ++ a.account]

/-- The secret in what the program has left behind. -/
def read (name : Text) (out : Outcome) : Except BackendError Text :=
  if out.exit ≠ some 0 then
    let stderr := Utf8.decodeLossy out.stderr
    if stderr.mentions "NOT_FOUND".toList then .error (.notFound name)
    else .error (.request Platform.googleCloud
      ("gcloud secrets versions access failed: ".toList ++ Text.trim stderr))
  else if out.stdout = [] then .error (.emptyValue name)
  else match Utf8.decode out.stdout with
    | .ok secret => .ok secret
    | .error e => .error (.request Platform.googleCloud ("UTF-8 error: ".toList ++ e.message))

/-- Start the program. -/
def start (args : List Text) : Gcloud → Except BackendError Outcome
  | .installed none =>
    .error (.client Platform.googleCloud
      ("gcloud CLI not found. Install it from " ++
        "https://cloud.google.com/sdk/docs/install").toList)
  | .installed (some p) => started (Program.start (some p) args)
  | .named p => started (Program.start p args)
where
  /-- A start that failed, as an error of the backend. -/
  started : Except Text Outcome → Except BackendError Outcome
    | .ok out => .ok out
    | .error reason =>
      .error (.client Platform.googleCloud ("failed to spawn gcloud: ".toList ++ reason))

/-- Fetch a secret. -/
def fetch (g : Gcloud) (a : Address) : Except BackendError Text :=
  match g.start (arguments a) with
  | .ok out => read a.name out
  | .error e => .error e

end Gcloud

/-- Where the secrets of a platform come from. -/
inductive Backend where
  | memory (secrets : TextMap)
  | gcloud (program : Gcloud)
  | service (answers : Address → Except BackendError Text)

/-- The answer to an address. In memory a secret is looked up under the cache key
first, then under its name. -/
def Backend.answer : Backend → Address → Except BackendError Text
  | .memory secrets, a =>
    match (secrets.get? a.cacheKey).or (secrets.get? a.name) with
    | some secret => .ok secret
    | none => .error (.notFound a.name)
  | .gcloud g, a => g.fetch a
  | .service answers, a => answers a

end SecretEnv
