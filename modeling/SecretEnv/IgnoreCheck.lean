import SecretEnv.CacheFile
import SecretEnv.Program
import SecretEnv.Text.Blank

/-!
# The ignore check

A cache file holds secrets in clear text, so git is asked first whether it
ignores the file.
-/

namespace SecretEnv

/-- What git says about a path. -/
inductive IgnoreStatus where
  | ignored
  | notIgnored
  /-- There is no git, or no repository. -/
  | untracked
  deriving DecidableEq

namespace IgnoreStatus

/-- The arguments that ask about a path. -/
def arguments (path : Text) : List Text :=
  ["check-ignore".toList, "--quiet".toList, path]

/-- What an answer of git means: 0 and 1 are a yes and a no, and all else is a
failure, unless git complains that there is no repository. -/
def read (out : Outcome) : Except CacheFileError IgnoreStatus :=
  if out.exit = some 0 then .ok .ignored
  else if out.exit = some 1 then .ok .notIgnored
  else
    let stderr := Utf8.decodeLossy out.stderr
    if stderr.mentions "not a git repository".toList then .ok .untracked
    else .error (.git (Text.trim stderr))

/-- Ask git, if it is installed. -/
def check (git : Option Program) (path : Text) : Except CacheFileError IgnoreStatus :=
  match git with
  | none => .ok .untracked
  | some _ =>
    match Program.start git (arguments path) with
    | .ok out => read out
    | .error reason => .error (.git reason)

end IgnoreStatus
end SecretEnv
