import SecretEnv.Document
import SecretEnv.FileTree
import SecretEnv.TextMap

/-!
# Cache files

A cache file holds resolved variables, one line each, for its owner only.

* `CacheFile.name` is the name of the cache file of an input file; it has no
  slash, so the file is in the working directory;
* `CacheFile.encode` and `CacheFile.decode` write a line so that it is one line
  of the file, and read it back;
* `CacheFile.write` and `CacheFile.read` write lines and read variables.
-/

namespace SecretEnv

/-- What goes wrong with a cache file. -/
inductive CacheFileError where
  | notFound (path : Text)
  /-- Git would commit the file. -/
  | notIgnored (path : Text)
  | read (path reason : Text)
  | write (path reason : Text)
  /-- Git could not be asked. -/
  | git (reason : Text)
  deriving DecidableEq

/-- The error in words. -/
def CacheFileError.message : CacheFileError → Text
  | .notFound path => "cache file not found: ".toList ++ path
  | .notIgnored path => "cache file '".toList ++ path ++ "' is not ignored by git".toList
  | .read path reason => "failed to read '".toList ++ path ++ "': ".toList ++ reason
  | .write path reason => "failed to write '".toList ++ path ++ "': ".toList ++ reason
  | .git reason => "error checking git ignore status: ".toList ++ reason

namespace CacheFile

/-- What every name of a cache file begins with. -/
def stem : Text := ".cache".toList

/-- A path with underscores for its slashes and backslashes. -/
def flatten (path : Text) : Text := path.map fun c => if c = '/' ∨ c = '\\' then '_' else c

/-- The name of the cache file of an input file. -/
def name (input : Text) : Text :=
  let flat := flatten input
  if flat.head? = some '.' then stem ++ flat else stem ++ '.' :: flat

/-- The permissions of a cache file: its owner reads and writes it. -/
def mode : Nat := 0o600

/-- One character of a line. -/
def encodeChar (c : Char) : Text :=
  if c = '\\' then ['\\', '\\']
  else if c = '\n' then ['\\', 'n']
  else if c = '\r' then ['\\', 'r']
  else [c]

/-- A line without line breaks: they and the backslash are escaped. -/
def encode (line : Text) : Text := line.flatMap encodeChar

/-- The text that a line stands for. An unknown escape stands for itself, and so
does a backslash at the end. -/
def decode : Text → Text
  | [] => []
  | '\\' :: '\\' :: t => '\\' :: decode t
  | '\\' :: 'n' :: t => '\n' :: decode t
  | '\\' :: 'r' :: t => '\r' :: decode t
  | '\\' :: c :: t => '\\' :: c :: decode t
  | c :: t => c :: decode t

/-- The content of the file: lines with line feeds between them, and one at the
end unless that is all there is. -/
def content (lines : List Text) : Text :=
  let text := List.intercalate ['\n'] (lines.map encode)
  if text = [] then [] else text ++ ['\n']

/-- Write lines. -/
def write (t : FileTree) (path : Text) (lines : List Text) : Except CacheFileError FileTree :=
  match t.write path (Utf8.encode (content lines)) mode with
  | .ok t => .ok t
  | .error e => .error (.write path e.message)

/-- The variables of the entries that have a key. -/
def ofEntries (entries : List Entry) : TextMap :=
  .ofPairs ((entries.filter fun e => e.key ≠ []).map fun e => (decode e.key, decode e.value))

/-- Read variables. -/
def read (t : FileTree) (path : Text) : Except CacheFileError TextMap :=
  match t.read path with
  | .ok bytes => .ok (ofEntries (Document.entries bytes))
  | .error .notFound => .error (.notFound path)
  | .error e => .error (.read path e.message)

end CacheFile
end SecretEnv
