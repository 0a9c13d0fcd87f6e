import SecretEnv.CommandLine
import SecretEnv.Host
import SecretEnv.Listing

/-!
# Loading

`Load.run` prints the variables of a cache file.
-/

namespace SecretEnv.Load

/-- Whether an environment sets a variable. It can set none with the empty name, or
with an equals sign or NUL in its name. -/
def isSet (env : TextMap) (name : Text) : Bool :=
  !name.isEmpty && !name.contains '=' && !name.contains (Char.ofNat 0) && env.contains name

/-- The variables to print. -/
def selected (o : LoadOptions) (env : TextMap) (vars : Variables) : Variables :=
  if o.onlyUnset then vars.filterKeys fun name => !isSet env name else vars

/-- How they are printed. -/
def style (o : LoadOptions) : LineStyle := { exported := o.withExport }

/-- What is said about the variables: first those left out, then the lines. -/
def notices (o : LoadOptions) (vars : Variables) : List Notice :=
  (Listing.skipped (style o) vars).map .skipped ++ (Listing.lines (style o) vars).map .line

/-- Print the variables of the cache file. -/
def run (o : LoadOptions) (h : Host) : Run :=
  match CacheFile.read h.files (CacheFile.name o.input) with
  | .ok vars => .done (notices o (selected o h.environment vars)) h.files
  | .error e => .fail h [] (.cacheFile e)

end SecretEnv.Load
