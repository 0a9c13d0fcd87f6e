import SecretEnv.Session

/-!
# The command line

The program as it is started. It looks at the files and variables that its
arguments are about, runs the session on what it has seen, and puts the cache file
in its place.

No other program is started from here. Git answers only outside of repositories, so
an update inside of one is refused, and gcloud fails. Nothing is written that git has
not been asked about.
-/

namespace SecretEnv.Main

/-- The variables that change what the program does. -/
def settings : List Text :=
  [CommandLine.inputVariable, CommandLine.endpointVariable, Update.fixtureVariable,
    Console.filterVariable, Console.noColourVariable, Console.forceColourVariable]

/-- Those of some variables that are set. -/
def lookUp (names : List Text) : IO TextMap :=
  names.foldlM (fun env name => do
    match ← IO.getEnv (String.ofList name) with
    | some value => return env.insert name value.toList
    | none => return env) TextMap.empty

/-- A path name up to each of its slashes, and all of it. -/
def stages (name : Text) : List Text :=
  ((List.range (name.length + 1)).filter fun n => n = name.length || name[n]? = some '/').map
    name.take

/-- Take what there is on the way of a path name into the tree. What is there and cannot be
read ends the program. -/
def observe (t : FileTree) (name : Text) : IO FileTree :=
  (stages name).foldlM (fun t stage => do
    match t.find stage, ← (IO.FS.readBinFile (String.ofList stage)).toBaseIO with
    | .error .nameTooLong, _ | _, .error (.noFileOrDirectory ..) => return t
    | _, .ok content => return t.addFile (t.path stage) content.toList none
    | _, .error (.inappropriateType ..) => return t.addDirectory (t.path stage)
    | _, .error e => throw e) t

/-- Whether there is anything under a path name. -/
def isThere (name : Text) : IO Bool := do
  match ← (IO.FS.readBinFile (String.ofList name)).toBaseIO with
  | .error (.noFileOrDirectory ..) => return false
  | _ => return true

/-- A program that gives no other answer than that it has failed. -/
def failing (reason : Text) : Program := fun _ => ⟨[], Utf8.encode reason, none⟩

/-- Git in a directory. A repository is one that is named, or that a directory on the way holds. -/
def git (here : List Text) : IO Program := do
  let holders := (List.range (here.length + 1)).map here.take
  let named := (← IO.getEnv "GIT_DIR").isSome
  let held ← holders.anyM fun dir =>
    isThere ('/' :: List.intercalate ['/'] (dir ++ [".git".toList]))
  return failing <| String.toList <|
    if named || held then "git is not started from here" else "not a git repository"

/-- Gcloud, wherever it is asked. -/
def gcloud : Program := failing "gcloud is not started from here".toList

/-- The document that a command is about. -/
def input? : Command → Option Text
  | .update o => some o.input
  | .load o => some o.input
  | .completions _ => none

/-- The host of a command: its settings, the files that it may read, and those of the
variables in its cache file that are set. -/
def host (settings : TextMap) (command : Option Command) : IO Host := do
  let here := (← IO.currentDir).toString.toList
  let root := FileTree.workspace []
  let path := root.path here
  let empty := FileTree.workspace path
  match command.bind input? with
  | none => return ⟨empty, settings, none, none⟩
  | some input =>
    let cache := CacheFile.name input
    let fixture := (settings.get? Update.fixtureVariable).toList
    let files ← (input :: cache :: fixture).foldlM observe empty
    let names := match CacheFile.read files cache with
      | .ok vars => vars.keys.filter fun n => !n.isEmpty && !n.contains '=' && !n.contains '\x00'
      | .error _ => []
    return ⟨files, (← lookUp names).extend settings, some (← git path), some gcloud⟩

/-- Write the cache file of a document as a session leaves it, for its owner only. -/
def keep (files : FileTree) (input : Text) : IO Unit := do
  let cache := CacheFile.name input
  match files.read cache with
  | .ok content =>
    IO.FS.withFile (String.ofList cache) .write fun file => do
      IO.setAccessRights (String.ofList cache) { user := { read := true, write := true } }
      file.write ⟨content.toArray⟩
  | .error _ => return

/-- Run the program. -/
def run (args : List Text) : IO UInt32 := do
  let settings ← lookUp settings
  let command := match CommandLine.parse settings args with
    | .ok invocation => some invocation.command
    | .error _ => none
  let host ← host settings command
  let session := Session.run host args
  if session.files ≠ host.files then (command.bind input?).forM (keep session.files)
  (← IO.getStdout).putStr (String.ofList session.stdout)
  (← IO.getStderr).putStr (String.ofList session.stderr)
  return UInt32.ofNat session.exit

end SecretEnv.Main

/-- Run the program with the arguments of the command line. -/
def main (args : List String) : IO UInt32 := SecretEnv.Main.run (args.map String.toList)
