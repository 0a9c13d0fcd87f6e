import SecretEnv.CommandLine
import SecretEnv.Text

/-!
# Reading command lines

`CommandLine.parse` reads the arguments from left to right.

* A flag stands alone and counts once. An option has a value, attached to it or
  in the next argument; a value that is due is settled when the next flag or
  option comes, or at the end.
* Short names may share one dash, an option last.
* After two dashes there are only positional arguments.
* The environment stands in for an option that is not given.

Of several errors the leftmost is reported, except that an unknown argument goes
before a value that is due.
-/

namespace SecretEnv.CommandLine

/-- A flag. -/
inductive Flag where
  | verbose | help | version | noQuotes | noExpandJson | withExport | onlyUnset
  deriving DecidableEq

/-- An option with a value. -/
inductive ValueOption where
  | input | endpointUrl
  deriving DecidableEq

/-- What a name stands for. -/
inductive Switch where
  | flag (f : Flag)
  | option (o : ValueOption)
  deriving DecidableEq

/-- What a command understands: its long and short names, and whether it takes the
name of a shell. -/
structure Grammar where
  long : List (Text × Switch)
  short : List (Char × Switch)
  takesShell : Bool

/-- What may stand before the command. -/
def topGrammar : Grammar where
  long := [("verbose".toList, .flag .verbose), ("help".toList, .flag .help),
    ("version".toList, .flag .version)]
  short := [('v', .flag .verbose), ('h', .flag .help), ('V', .flag .version)]
  takesShell := false

/-- The arguments of an update. -/
def updateGrammar : Grammar where
  long := [("verbose".toList, .flag .verbose), ("help".toList, .flag .help),
    ("input".toList, .option .input), ("endpoint-url".toList, .option .endpointUrl),
    ("no-quotes".toList, .flag .noQuotes), ("no-expand-json".toList, .flag .noExpandJson)]
  short := [('v', .flag .verbose), ('h', .flag .help), ('i', .option .input),
    ('q', .flag .noQuotes)]
  takesShell := false

/-- The arguments of a load. -/
def loadGrammar : Grammar where
  long := [("verbose".toList, .flag .verbose), ("help".toList, .flag .help),
    ("input".toList, .option .input), ("with-export".toList, .flag .withExport),
    ("only-unset".toList, .flag .onlyUnset)]
  short := [('v', .flag .verbose), ('h', .flag .help), ('i', .option .input),
    ('e', .flag .withExport)]
  takesShell := false

/-- The arguments of completions. -/
def completionsGrammar : Grammar where
  long := [("verbose".toList, .flag .verbose), ("help".toList, .flag .help)]
  short := [('v', .flag .verbose), ('h', .flag .help)]
  takesShell := true

/-- Something whose value is not settled. -/
inductive Pending where
  /-- An option whose value is to come. -/
  | due (o : ValueOption)
  /-- An option and the argument after it. -/
  | option (o : ValueOption) (value : Text)
  /-- The argument that should name a shell. -/
  | shell (name : Text)
  deriving DecidableEq

/-- What has been read. -/
structure Reading where
  flags : List Flag := []
  options : List (ValueOption × Text) := []
  shell : Option Shell := none
  pending : Option Pending := none
  /-- Two dashes have been read. -/
  trailing : Bool := false
  /-- The place of the shell is taken. -/
  shellTaken : Bool := false
  deriving DecidableEq

namespace Reading

/-- Whether an option has been given. -/
def has (r : Reading) (f : Flag) : Bool := f ∈ r.flags

/-- The value of an option. -/
def value? (r : Reading) (o : ValueOption) : Option Text := r.options.lookup o

/-- Give an option its value. -/
def setOption (r : Reading) (o : ValueOption) (value : Text) : Except UsageError Reading :=
  if (r.value? o).isSome then .error .argumentConflict
  else .ok { r with options := (o, value) :: r.options }

/-- Settle what is pending. -/
def settle (r : Reading) : Except UsageError Reading :=
  match r.pending with
  | none => .ok r
  | some (.due _) => .error .invalidValue
  | some (.option o value) => setOption { r with pending := none } o value
  | some (.shell name) =>
    match Shell.names.lookup name with
    | some shell => .ok { r with pending := none, shell := some shell }
    | none => .error .invalidValue

/-- Read a flag. -/
def addFlag (r : Reading) (f : Flag) : Except UsageError Reading := do
  let r ← r.settle
  match f with
  | .help => .error .helpWanted
  | .version => .error .versionWanted
  | f => if r.has f then .error .argumentConflict else .ok { r with flags := f :: r.flags }

/-- Read an option with a value attached to it, or with one to come. -/
def addOption (r : Reading) (o : ValueOption) (value : Option Text) :
    Except UsageError Reading := do
  let r ← r.settle
  match value with
  | some value => r.setOption o value
  | none => .ok { r with pending := some (.due o) }

/-- Read a long name, with the value that an equals sign attaches to it. -/
def addLong (g : Grammar) (r : Reading) (name : Text) (value : Option Text) :
    Except UsageError Reading :=
  match g.long.lookup name with
  | none => .error .unknownArgument
  | some (.option o) => r.addOption o value
  | some (.flag f) => if value.isSome then .error .tooManyValues else r.addFlag f

/-- Read short names behind one dash. What follows an option is its value, with or
without an equals sign before it. -/
def addShort (g : Grammar) (r : Reading) : Text → Except UsageError Reading
  | [] => .ok r
  | c :: rest =>
    match g.short.lookup c with
    | none => .error .unknownArgument
    | some (.flag f) =>
      match r.addFlag f with
      | .ok r => addShort g r rest
      | .error e => .error e
    | some (.option o) =>
      match rest with
      | [] => r.addOption o none
      | '=' :: value => r.addOption o (some value)
      | value => r.addOption o (some value)

/-- Read an argument that is no flag or option: a value that is due, or the name of
a shell. -/
def addPlain (g : Grammar) (r : Reading) (arg : Text) : Except UsageError Reading :=
  match r.pending, r.trailing with
  | some (.due o), false => .ok { r with pending := some (.option o arg) }
  | _, _ =>
    if g.takesShell && !r.shellTaken then do
      let r ← r.settle
      .ok { r with pending := some (.shell arg), shellTaken := true }
    else .error .unknownArgument

/-- Read an argument. -/
def add (g : Grammar) (r : Reading) (arg : Text) : Except UsageError Reading :=
  if r.trailing then r.addPlain g arg
  else match arg with
    | ['-', '-'] => .ok { r with trailing := true }
    | '-' :: '-' :: long =>
      match Text.cut '=' long with
      | some (name, value) => r.addLong g name (some value)
      | none => r.addLong g long none
    | '-' :: c :: rest => r.addShort g (c :: rest)
    | _ => r.addPlain g arg

/-- Read arguments to the end. -/
def addAll (g : Grammar) (r : Reading) : List Text → Except UsageError Reading
  | [] => r.settle
  | arg :: args =>
    match r.add g arg with
    | .ok r => addAll g r args
    | .error e => .error e

end Reading

/-- The name of a command. -/
inductive Subcommand where
  | update | load | completions | help
  deriving DecidableEq

/-- The commands by their names. -/
def subcommands : List (Text × Subcommand) :=
  [("update".toList, .update), ("load".toList, .load), ("completions".toList, .completions),
    ("help".toList, .help)]

/-- The document that is resolved if none is named. -/
def defaultInput : Text := ".env".toList

/-- The variables that stand in for options. -/
def inputVariable : Text := "SEM_INPUT".toList
def endpointVariable : Text := "SEM_ENDPOINT_URL".toList

/-- The document: that of the command line, else that of the environment. -/
def inputOf (env : TextMap) (r : Reading) : Text :=
  ((r.value? .input).or (env.get? inputVariable)).getD defaultInput

/-- The answer to a request for help: a command has no commands below it. -/
def help : List Text → UsageError
  | [] => .helpWanted
  | [name] => if (subcommands.lookup name).isSome then .helpWanted else .invalidSubcommand
  | _ => .invalidSubcommand

/-- Read the arguments of a command. -/
def parseCommand (env : TextMap) (args : List Text) :
    Subcommand → Except UsageError (Bool × Command)
  | .update => do
    let r ← Reading.addAll updateGrammar {} args
    .ok (r.has .verbose, .update {
      input := inputOf env r
      endpointUrl := (r.value? .endpointUrl).or (env.get? endpointVariable)
      noQuotes := r.has .noQuotes
      noExpandJson := r.has .noExpandJson })
  | .load => do
    let r ← Reading.addAll loadGrammar {} args
    .ok (r.has .verbose, .load {
      input := inputOf env r
      withExport := r.has .withExport
      onlyUnset := r.has .onlyUnset })
  | .completions => do
    let r ← Reading.addAll completionsGrammar {} args
    match r.shell with
    | some shell => .ok (r.has .verbose, .completions shell)
    | none => .error .missingRequiredArgument
  | .help => .error (help args)

/-- Read what stands before the command, and then the command. -/
def parseTop (env : TextMap) (r : Reading) : List Text → Except UsageError Invocation
  | [] => if r.flags = [] then .error .helpForNothing else .error .missingSubcommand
  | arg :: args =>
    match subcommands.lookup arg with
    | some command =>
      if r.trailing then .error .unknownArgument
      else match parseCommand env args command with
        | .ok (verbose, command) => .ok ⟨r.has .verbose || verbose, command⟩
        | .error e => .error e
    | none =>
      if r.trailing || arg.head? ≠ some '-' || arg = ['-'] then .error .invalidSubcommand
      else match r.add topGrammar arg with
        | .ok r => parseTop env r args
        | .error e => .error e

/-- Read a command line in an environment. -/
def parse (env : TextMap) (args : List Text) : Except UsageError Invocation :=
  parseTop env {} args

end SecretEnv.CommandLine
