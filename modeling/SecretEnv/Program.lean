import SecretEnv.Text

/-!
# Other programs

A program is what it does with its arguments. It may not exist, and it cannot be
started with an argument that holds a NUL character.

It does the same whenever it is started with the same arguments: a program that
keeps a state, or reads anything else, is outside of this.
-/

namespace SecretEnv

/-- What a program has left behind. -/
structure Outcome where
  stdout : Bytes
  stderr : Bytes
  /-- The exit code; a program that a signal has ended has none. -/
  exit : Option Nat
  deriving DecidableEq

/-- A program, by what its arguments make it do. -/
abbrev Program := List Text → Outcome

namespace Program

/-- Whether a program can be started with these arguments. -/
def accepts (args : List Text) : Bool := args.all fun a => !a.contains (Char.ofNat 0)

/-- Why a program cannot be started with an argument that holds NUL. -/
def nulArgument : Text := "nul byte found in provided data".toList

/-- Why a program that does not exist cannot be started. -/
def missing : Text := "No such file or directory (os error 2)".toList

/-- Start a program that may not exist. -/
def start (program : Option Program) (args : List Text) : Except Text Outcome :=
  if !accepts args then .error nulArgument
  else match program with
    | none => .error missing
    | some run => .ok (run args)

end Program
end SecretEnv
