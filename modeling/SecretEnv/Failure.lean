import SecretEnv.CacheFile
import SecretEnv.Resolution

/-!
# Failures

What can end a command early, in words, and the advice that goes with it.
-/

namespace SecretEnv

/-- Why a command has failed. -/
inductive Failure where
  | resolve (source : ResolveError)
  /-- The input could not be read to its end. -/
  | scan (reason : Text)
  | cacheFile (source : CacheFileError)
  | backend (source : BackendError)
  | inputNotFound (path : Text)
  /-- Any other failure of the system. -/
  | io (reason : Text)
  deriving DecidableEq

namespace Failure

/-- The failure in words. -/
def message : Failure → Text
  | resolve source => source.message
  | scan reason => "error scanning input: ".toList ++ reason
  | cacheFile source => source.message
  | backend source => source.message
  | inputNotFound path => "input file not found: ".toList ++ path
  | io reason => "io error: ".toList ++ reason

/-- What the user can do. -/
def advice? : Failure → Option Text
  | cacheFile (.notFound _) => some "run: sem update".toList
  | cacheFile (.notIgnored path) =>
    some ("add \"".toList ++ path ++ "\" to .gitignore and commit it".toList)
  | inputNotFound _ => some "create the file or pass --input <path>".toList
  | resolve (.secretFetchFailed _ _ _) =>
    some "check your cloud credentials and the secret address".toList
  | _ => none

end Failure

/-- The entries of a stream that gives some bytes and then ends, or fails for a reason. -/
def Document.ofStream (bytes : Bytes) (failure? : Option Text) : Except Failure (List Entry) :=
  match failure? with
  | none => .ok (entries bytes)
  | some reason => .error (.scan reason)

end SecretEnv
