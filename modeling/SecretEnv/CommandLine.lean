import SecretEnv.TextMap

/-!
# The command line

What a command line asks for, and what can be wrong with it.
-/

namespace SecretEnv

/-- A shell that completions can be written for. -/
inductive Shell where
  | bash | elvish | fish | powershell | zsh
  deriving DecidableEq

/-- The shells by their names. -/
def Shell.names : List (Text × Shell) :=
  [("bash".toList, .bash), ("elvish".toList, .elvish), ("fish".toList, .fish),
    ("powershell".toList, .powershell), ("zsh".toList, .zsh)]

/-- The name of a shell. -/
def Shell.name : Shell → Text
  | .bash => "bash".toList
  | .elvish => "elvish".toList
  | .fish => "fish".toList
  | .powershell => "powershell".toList
  | .zsh => "zsh".toList

/-- What an update is asked to do. -/
structure UpdateOptions where
  /-- The document to resolve. -/
  input : Text
  /-- Where to find the service of a platform. No backend here has a use for it. -/
  endpointUrl : Option Text
  /-- Write values without quotes. -/
  noQuotes : Bool
  /-- Keep a JSON secret as one value. -/
  noExpandJson : Bool
  deriving DecidableEq

/-- What a load is asked to do. -/
structure LoadOptions where
  /-- The document whose cache file to read. -/
  input : Text
  /-- Print commands `export`. -/
  withExport : Bool
  /-- Leave out what the environment sets. -/
  onlyUnset : Bool
  deriving DecidableEq

/-- A command. -/
inductive Command where
  | update (options : UpdateOptions)
  | load (options : LoadOptions)
  | completions (shell : Shell)
  deriving DecidableEq

/-- A command line that is as it should be. -/
structure Invocation where
  /-- Log more. -/
  verbose : Bool
  command : Command
  deriving DecidableEq

/-- Why a command line is no invocation. -/
inductive UsageError where
  | helpWanted
  | versionWanted
  /-- There is nothing on the command line. -/
  | helpForNothing
  | missingSubcommand
  | invalidSubcommand
  | unknownArgument
  /-- An option is given twice. -/
  | argumentConflict
  /-- A shell that is not known, or an option without its value. -/
  | invalidValue
  /-- A value for a flag, which has none. -/
  | tooManyValues
  | missingRequiredArgument
  deriving DecidableEq

/-- Whether the user has asked for what is shown instead. -/
def UsageError.isAnswer : UsageError → Bool
  | .helpWanted | .versionWanted => true
  | _ => false

end SecretEnv
