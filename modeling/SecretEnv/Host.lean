import SecretEnv.Console
import SecretEnv.FileTree
import SecretEnv.Json.Parser
import SecretEnv.Program

/-!
# Hosts and runs

A command runs on a host: its files, its environment, its programs and the words of
the JSON library. What comes of a run is what the command says, how it ends and the
files that it leaves.
-/

namespace SecretEnv

/-- What a command finds. -/
structure Host where
  files : FileTree
  environment : TextMap
  git : Option Program
  gcloud : Option Program
  [words : Json.Words]

/-- What comes of a run. -/
structure Run where
  notices : List Notice
  failure : Option Failure
  files : FileTree

namespace Run

/-- A run that has ended well. -/
def done (notices : List Notice) (files : FileTree) : Run := ⟨notices, none, files⟩

/-- A run that has failed after some notices, and has left the files as they were. -/
def fail (host : Host) (notices : List Notice) (reason : Failure) : Run :=
  ⟨notices ++ [.failed reason], some reason, host.files⟩

/-- The exit code. -/
def exit (r : Run) : Nat := if r.failure.isSome then 1 else 0

@[simp] theorem exit_done (notices : List Notice) (files : FileTree) :
    (done notices files).exit = 0 := rfl

@[simp] theorem exit_fail (host : Host) (notices : List Notice) (reason : Failure) :
    (fail host notices reason).exit = 1 := rfl

end Run
end SecretEnv
