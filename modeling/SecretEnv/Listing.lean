import SecretEnv.Address
import SecretEnv.Secret
import SecretEnv.Text.Ascending

/-!
# Variables as lines

`Listing.lines` writes variables as lines `NAME=value`, one for each, in
ascending order of the names.

* An option selects quotes around the value or a whole shell command `export`.
* In the form for the shell a variable without a shell name is left out;
  `Listing.skipped` names those.
-/

namespace SecretEnv

/-- Whether a text is the name of a shell variable: ASCII letters, digits and
underscores, without a digit in front. -/
def isShellName : Text → Bool
  | [] => false
  | c :: t => (c = '_' || c.isAlpha) && t.all fun c => c = '_' || c.isAlphanum

/-- How variables are written. -/
structure LineStyle where
  /-- Single quotes around the value. -/
  quotes : Bool := false
  /-- A shell command that exports the variable. -/
  exported : Bool := false
  /-- Keep variables whose name begins like an address. -/
  addresses : Bool := false
  /-- Write a value that is a JSON object or array without blanks. -/
  compactJson : Bool := false
  /-- Names to look at first. They are put in order with all others. -/
  preferred : List Text := []
  deriving DecidableEq

namespace Listing

/-- The names of all variables in order. -/
def orderedNames (vars : Variables) (preferred : List Text) : List Text :=
  Text.ascending (preferred.filter vars.contains ++ vars.keys)

/-- The text of a JSON object or array without blanks. -/
def compact? (value : Text) : Option Text :=
  (Json.parse? value).bind fun v => if v.isContainer then some v.render else none

/-- A text for use between the single quotes of a shell: each of its own single
quotes ends the quotes, stands behind a backslash, and opens them again. -/
def escapeSingleQuotes (t : Text) : Text := t.replace '\'' ['\'', '\\', '\'', '\'']

/-- The value that a line shows: without one pair of quotes around it. -/
def shownValue (style : LineStyle) (value : Text) : Text :=
  let value := Secret.unwrapQuotes value
  if style.compactJson then (compact? value).getD value else value

/-- The line of one variable. -/
def line (style : LineStyle) (name value : Text) : Text :=
  let value := shownValue style value
  if style.exported then
    "export ".toList ++ name ++ ['=', '\''] ++ escapeSingleQuotes value ++ ['\'']
  else if style.quotes then name ++ ['=', '\''] ++ value ++ ['\'']
  else name ++ '=' :: value

/-- The names that may be written, before the shell has its say. -/
def candidates (style : LineStyle) (vars : Variables) : List Text :=
  (orderedNames vars style.preferred).filter fun n => style.addresses || !isAddress n

/-- Whether the style can write a variable of this name. -/
def writable (style : LineStyle) (name : Text) : Bool := !style.exported || isShellName name

/-- The lines of the variables. -/
def lines (style : LineStyle) (vars : Variables) : List Text :=
  ((candidates style vars).filter (writable style)).filterMap fun n =>
    (vars.get? n).map (line style n)

/-- The names that the form for the shell leaves out. -/
def skipped (style : LineStyle) (vars : Variables) : List Text :=
  (candidates style vars).filter fun n => !writable style n

/-- Lines as one text, with line feeds between them. -/
def render (lines : List Text) : Text := List.intercalate ['\n'] lines

end Listing
end SecretEnv
