import SecretEnv.CommandLine
import SecretEnv.Fixture
import SecretEnv.Host
import SecretEnv.IgnoreCheck

/-!
# Updating

`Update.run` resolves a document into its cache file.

Git is asked first, then the document is read, the backends are set up and the
entries resolved; only then is anything written. Whatever fails leaves the files
as they were.
-/

namespace SecretEnv.Update

/-- What the ignore check lets happen: the notices before all others. -/
def guard (git : Option Program) (cache : Text) : Except Failure (List Notice) :=
  match IgnoreStatus.check git cache with
  | .ok .ignored => .ok []
  | .ok .notIgnored => .error (.cacheFile (.notIgnored cache))
  | .ok .untracked => .ok [.untracked cache]
  | .error e => .error (.cacheFile e)

/-- The entries of the document. A directory can be opened, but not read. -/
def entries (files : FileTree) (input : Text) : Except Failure (List Entry) :=
  match files.find input with
  | .error .notFound => .error (.inputNotFound input)
  | .error e => .error (.io e.message)
  | .ok item =>
    match item.read with
    | .error e => .error (.scan e.message)
    | .ok bytes => .ok (Document.entries bytes)

/-- The variable that names a fixture. -/
def fixtureVariable : Text := "SEM_TEST_SECRETS".toList

/-- The backends: the program `gcloud` for its platform, unless a fixture takes over. -/
def registry (h : Host) : Except Failure Registry :=
  let g := Registry.empty.register Platform.googleCloud (.gcloud (.installed h.gcloud))
  match h.environment.get? fixtureVariable with
  | none => .ok g
  | some path =>
    match @Fixture.load h.words h.files path with
    | .ok secrets => .ok (Fixture.register g secrets)
    | .error e => .error (.backend e)

/-- The entries of the document and the variables that they resolve to. -/
def resolved (o : UpdateOptions) (h : Host) : Except Failure (List Entry × Variables) := do
  let es ← entries h.files o.input
  let g ← registry h
  match (g.resolve o.noExpandJson es).1 with
  | .ok vars => .ok (es, vars)
  | .error e => .error (.resolve e)

/-- The names that no shell takes. -/
def oddNames (vars : Variables) : List Text :=
  vars.keys.filter fun name => !isAddress name && !isShellName name

/-- How the variables are written. -/
def style (o : UpdateOptions) (es : List Entry) : LineStyle where
  quotes := !o.noQuotes
  compactJson := o.noExpandJson
  preferred := es.map Entry.key

/-- Resolve the document into its cache file. -/
def run (o : UpdateOptions) (h : Host) : Run :=
  let cache := CacheFile.name o.input
  match guard h.git cache with
  | .error e => .fail h [] e
  | .ok first =>
    match resolved o h with
    | .error e => .fail h first e
    | .ok (es, vars) =>
      let notices := first ++ (oddNames vars).map .notShellName
      let lines := Listing.lines (style o es) vars
      match CacheFile.write h.files cache lines with
      | .error e => .fail h notices (.cacheFile e)
      | .ok files => .done (notices ++ [.updated lines.length cache]) files

end SecretEnv.Update
