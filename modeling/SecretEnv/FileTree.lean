import SecretEnv.Text.Ascending
import SecretEnv.Text.Utf8

/-!
# File trees

The files and directories of a host, as values, with the working directory from
which path names start.

* `FileTree.locate` follows a path name through the tree;
* `FileTree.read` and `FileTree.write` read and replace the content of a file;
* `FileTree.addFile`, `FileTree.addDirectory`, `FileTree.remove` and
  `FileTree.names` build and inspect a tree.

A path is the list of names from the root down. The root is a directory of every
tree, and its own parent.

A tree holds files and directories only, no links. The mode of a file is what a
write leaves on it: no read and no write asks for it, so nothing fails for want of
a permission.
-/

namespace SecretEnv

/-- Why an operation on a file fails. -/
inductive FileError where
  | notFound
  | notDirectory
  | isDirectory
  | nameTooLong
  /-- The path name holds a NUL character. -/
  | nulInName
  /-- The content is not UTF-8. -/
  | notText
  deriving DecidableEq

/-- The error in words. -/
def FileError.message : FileError → Text
  | .notFound => "No such file or directory (os error 2)".toList
  | .notDirectory => "Not a directory (os error 20)".toList
  | .isDirectory => "Is a directory (os error 21)".toList
  | .nameTooLong => "File name too long (os error 36)".toList
  | .nulInName => "file name contained an unexpected NUL byte".toList
  | .notText => "stream did not contain valid UTF-8".toList

/-- What a path leads to. -/
inductive Item where
  | file (content : Bytes) (mode : Nat)
  | directory
  deriving DecidableEq

/-- The content of an item. -/
def Item.read : Item → Except FileError Bytes
  | .file content _ => .ok content
  | .directory => .error .isDirectory

/-- Items under their paths, and the path of the working directory. -/
structure FileTree where
  items : List (List Text × Item)
  here : List Text
  deriving DecidableEq

namespace FileTree

/-- The item at a path. -/
def item? (t : FileTree) (path : List Text) : Option Item :=
  if path = [] then some .directory else t.items.lookup path

/-- Put an item at a path, in the place of one that is there. -/
def put (t : FileTree) (path : List Text) (item : Item) : FileTree :=
  { t with items := go t.items }
where
  /-- The items with that one among them. -/
  go : List (List Text × Item) → List (List Text × Item)
    | [] => [(path, item)]
    | p :: rest => if p.1 = path then (path, item) :: rest else p :: go rest

/-! ### Path names -/

/-- The longest name of an item, in bytes. -/
def maxName : Nat := 255

/-- The longest path name, in bytes. -/
def maxPath : Nat := 4095

/-- Where a path name starts: at the root if it is absolute. -/
def start (t : FileTree) (name : Text) : List Text :=
  if name.head? = some '/' then [] else t.here

/-- Whether a component of a path name stays where it is. -/
def isStay (c : Text) : Bool := c = [] || c = ['.']

/-- Whether a component of a path name goes back. -/
def isBack (c : Text) : Bool := c = ['.', '.']

/-- Where a component leads from a directory. -/
def advance (path : List Text) (c : Text) : List Text :=
  if isStay c then path else if isBack c then path.dropLast else path ++ [c]

/-- Follow components. Each step starts from a directory; what the last one leads
to need not exist. -/
def walk (t : FileTree) (path : List Text) : List Text → Except FileError (List Text)
  | [] => .ok path
  | c :: cs =>
    match t.item? path with
    | none => .error .notFound
    | some (.file _ _) => .error .notDirectory
    | some .directory =>
      if maxName < (Utf8.encode c).length then .error .nameTooLong
      else walk t (advance path c) cs

/-- Whether a path name can be looked up at all. -/
def checkName (name : Text) : Except FileError Unit :=
  if name.contains (Char.ofNat 0) then .error .nulInName
  else if name = [] then .error .notFound
  else if maxPath < (Utf8.encode name).length then .error .nameTooLong
  else .ok ()

/-- Follow a path name. -/
def locate (t : FileTree) (name : Text) : Except FileError (List Text) :=
  match checkName name with
  | .ok () => t.walk (t.start name) (name.splitOn '/')
  | .error e => .error e

/-- The path that a path name means, whether or not there is anything on the way. -/
def path (t : FileTree) (name : Text) : List Text :=
  (name.splitOn '/').foldl advance (t.start name)

/-! ### Reading and writing -/

/-- The item that a path name leads to. -/
def find (t : FileTree) (name : Text) : Except FileError Item :=
  match t.locate name with
  | .error e => .error e
  | .ok path =>
    match t.item? path with
    | some item => .ok item
    | none => .error .notFound

/-- The content of a file. -/
def read (t : FileTree) (name : Text) : Except FileError Bytes :=
  match t.find name with
  | .ok item => item.read
  | .error e => .error e

/-- The content of a file as text. -/
def readText (t : FileTree) (name : Text) : Except FileError Text :=
  match t.read name with
  | .error e => .error e
  | .ok content =>
    match Utf8.decode content with
    | .ok text => .ok text
    | .error _ => .error .notText

/-- The components of a path name without those that slashes at its end make. -/
def components (name : Text) : List Text :=
  ((name.splitOn '/').reverse.dropWhile (· = [])).reverse

/-- The path of the file that a path name says to write. A name that can only be
that of a directory is refused. -/
def target (t : FileTree) (name : Text) : Except FileError (List Text) :=
  match checkName name with
  | .error e => .error e
  | .ok () =>
    let last := (components name).getLast?.getD []
    match t.walk (t.start name) (components name).dropLast with
    | .error e => .error e
    | .ok folder =>
      match t.item? folder with
      | none => .error .notFound
      | some (.file _ _) => .error .notDirectory
      | some .directory =>
        if isStay last ∨ isBack last ∨ name.getLast? = some '/' then .error .isDirectory
        else if maxName < (Utf8.encode last).length then .error .nameTooLong
        else .ok (folder ++ [last])

/-- Write a file with a mode: it is created, or its content and mode replaced. -/
def write (t : FileTree) (name : Text) (content : Bytes) (mode : Nat) :
    Except FileError FileTree :=
  match t.target name with
  | .error e => .error e
  | .ok path =>
    match t.item? path with
    | some .directory => .error .isDirectory
    | _ => .ok (t.put path (.file content mode))

/-! ### Building and inspecting -/

/-- The paths on the way to a path, from below the root on, and the path itself. -/
def wayTo (path : List Text) : List (List Text) :=
  (List.range path.length).map fun n => path.take (n + 1)

/-- Make a directory, and those on the way to it. -/
def addDirectory (t : FileTree) (path : List Text) : FileTree :=
  ((wayTo path).filter fun p => t.item? p = none).foldl (fun t p => t.put p .directory) t

/-- The mode of a file that is made without saying which. -/
def usualMode : Nat := 0o644

/-- The mode of the file at a path, be it made now or already there. -/
def modeAt (t : FileTree) (path : List Text) : Nat :=
  match t.item? path with
  | some (.file _ mode) => mode
  | _ => usualMode

/-- Put a file into the tree, and the directories on the way to it. A mode that is not
given stays as it is. -/
def addFile (t : FileTree) (path : List Text) (content : Bytes) (mode : Option Nat) : FileTree :=
  (t.addDirectory path.dropLast).put path (.file content (mode.getD (t.modeAt path)))

/-- The tree of an empty working directory. -/
def workspace (here : List Text) : FileTree := addDirectory ⟨[], here⟩ here

/-- The tree without an item and all below it. -/
def remove (t : FileTree) (path : List Text) : FileTree :=
  { t with items := t.items.filter fun p => !path.isPrefixOf p.1 }

/-- The names in the working directory, in ascending order. -/
def names (t : FileTree) : List Text :=
  Text.ascending (t.items.filterMap fun p => (t.here.isPrefixOf? p.1).bind List.head?)

end FileTree
end SecretEnv
