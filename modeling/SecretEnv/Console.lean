import SecretEnv.Failure
import SecretEnv.LogFilter
import SecretEnv.Text.Escaped

/-!
# The console

A command says what it has to say as notices. `Console.stdout` and
`Console.stderr` are the texts of a list of notices.

* The lines of variables and the news of success go to the standard output, so
  that a shell can evaluate what is printed; all else goes to the other stream.
* Colours and the log depend on the environment.
-/

namespace SecretEnv

/-- Something that a command says. -/
inductive Notice where
  /-- So many variables were written to a cache file. -/
  | updated (count : Nat) (path : Text)
  /-- No repository watches over a cache file. -/
  | untracked (path : Text)
  /-- A variable has a name that no shell takes. -/
  | notShellName (name : Text)
  /-- A variable was left out for its name. -/
  | skipped (name : Text)
  /-- The line of a variable. -/
  | line (text : Text)
  | failed (reason : Failure)
  deriving DecidableEq

/-- What the environment makes of the output. -/
structure Console where
  /-- Symbols and paths have colours. -/
  colour : Bool
  /-- Warnings are logged. -/
  warnings : Bool
  /-- The log has colours. -/
  logColour : Bool
  deriving DecidableEq

namespace Console

/-- The variables that the console depends on. -/
def noColourVariable : Text := "NO_COLOR".toList
def forceColourVariable : Text := "CLICOLOR_FORCE".toList
def filterVariable : Text := "SEM_LOG".toList

/-- The console of an environment. The output is no terminal, so colours have to be
asked for, and may be forbidden. The log has them unless they are forbidden. -/
def ofEnvironment (env : TextMap) : Console where
  colour :=
    !env.contains noColourVariable && (env.get? forceColourVariable).any fun v => v ≠ ['0']
  warnings := LogFilter.showsWarnings (env.get? filterVariable)
  logColour := (env.get? noColourVariable).getD [] = []

/-- A text between the escape sequences of a display attribute and of its end. -/
def display (code : Nat) (t : Text) : Text :=
  ['\x1b', '['] ++ Text.decimal code ++ 'm' :: t ++ ['\x1b', '[', '0', 'm']

/-- The codes of the attributes. -/
def italic : Nat := 3
def dimmed : Nat := 2
def red : Nat := 31
def green : Nat := 32
def yellow : Nat := 33
def cyan : Nat := 36

/-- A text in a colour, if there are colours. -/
def paint (c : Console) (code : Nat) (t : Text) : Text :=
  if c.colour then display code t else t

/-- A text in the log with an attribute, if the log has any. -/
def paintLog (c : Console) (code : Nat) (t : Text) : Text :=
  if c.logColour then display code t else t

/-- A symbol in its colour, and what it announces. -/
def marked (c : Console) (symbol : Char) (code : Nat) (t : Text) : Text :=
  c.paint code [symbol] ++ ' ' :: t ++ ['\n']

/-- What a notice says on the standard output. -/
def stdoutOf (c : Console) : Notice → Text
  | .updated count path =>
    c.marked '✓' green ("updated ".toList ++ Text.decimal count ++
      " environment variables in ".toList ++ c.paint cyan path)
  | .line text => text ++ ['\n']
  | _ => []

/-- What a notice says on the error stream. -/
def stderrOf (c : Console) : Notice → Text
  | .untracked path =>
    c.marked '⚠' yellow ("not inside a git repository, make sure ".toList ++ c.paint cyan path ++
      " is never committed".toList)
  | .notShellName name =>
    c.marked '⚠' yellow ('\'' :: Text.Escaped.bare name ++
      "' is not a valid shell variable name, `sem load -e` will skip it".toList)
  | .skipped name =>
    if c.warnings then
      c.paintLog yellow " WARN".toList ++
        " skipping variable that is not a valid shell name ".toList ++
        c.paintLog italic "key".toList ++ c.paintLog dimmed ['='] ++
        Text.Escaped.bare name ++ ['\n']
    else []
  | .failed reason =>
    c.marked '✗' red reason.message ++
      match reason.advice? with
      | some advice => c.marked '→' cyan (c.paint cyan advice)
      | none => []
  | _ => []

/-- The standard output of notices. -/
def stdout (c : Console) (notices : List Notice) : Text := notices.flatMap c.stdoutOf

/-- The error stream of notices. -/
def stderr (c : Console) (notices : List Notice) : Text := notices.flatMap c.stderrOf

theorem stdout_append (c : Console) (l m : List Notice) :
    c.stdout (l ++ m) = c.stdout l ++ c.stdout m := List.flatMap_append

/-- The lines of variables are printed as they are, each with a line feed. -/
theorem stdout_lines (c : Console) (lines : List Text) :
    c.stdout (lines.map .line) = lines.flatMap (· ++ ['\n']) := by
  rw [stdout, List.flatMap_map]
  rfl

theorem stdout_skipped (c : Console) (names : List Text) :
    c.stdout (names.map .skipped) = [] := by
  rw [stdout, List.flatMap_map]
  exact List.flatMap_eq_nil_iff.2 fun _ _ => rfl

end Console
end SecretEnv
