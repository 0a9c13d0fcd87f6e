import SecretEnv.CommandLine.Parser
import SecretEnv.Load
import SecretEnv.Update

/-!
# Sessions

`Session.run` is the whole program: it reads the command line, then the log
filter, and runs the command.
-/

namespace SecretEnv

/-- What the program leaves behind. The texts of help, of usage errors, of broken
filters and of completions are not part of it. -/
structure Session where
  exit : Nat
  stdout : Text
  stderr : Text
  files : FileTree

namespace Session

/-- What a run comes to on the console of its host. -/
def ofRun (h : Host) (r : Run) : Session :=
  let c := Console.ofEnvironment h.environment
  ⟨r.exit, c.stdout r.notices, c.stderr r.notices, r.files⟩

/-- Run a command. -/
def command (h : Host) : Command → Session
  | .update o => ofRun h (Update.run o h)
  | .load o => ofRun h (Load.run o h)
  | .completions _ => ⟨0, [], [], h.files⟩

/-- The exit code where the log filter breaks off inside a character. -/
def tornExit : Nat := 101

/-- Run the program with its arguments. Of the log the error stream has the warnings only: the
lines of the levels below, and so all that `Invocation.verbose` adds, are left out. -/
def run (h : Host) (args : List Text) : Session :=
  match CommandLine.parse h.environment args with
  | .ok invocation =>
    if LogFilter.isTorn (h.environment.get? Console.filterVariable) then
      ⟨tornExit, [], [], h.files⟩
    else command h invocation.command
  | .error e => ⟨if e.isAnswer then 0 else 2, [], [], h.files⟩

end Session
end SecretEnv
