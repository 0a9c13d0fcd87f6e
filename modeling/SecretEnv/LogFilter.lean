import SecretEnv.LogFilter.Directive

/-!
# The log filter

A filter is a list of directives with commas between them.
`LogFilter.showsWarnings` says whether it lets the warnings of the listing
through, and `LogFilter.isTorn` whether no command can run under it.

* A directive holds for an event if the target of the event begins with its target
  and the event has its field. One that asks for a span or for a value holds for
  none, as the program opens no span.
* Of those that hold the most specific decides: the one with the longer target,
  then one with a field, then the one whose field comes last by name. Of two that
  are equal in all this the later decides.
* A text that is no filter counts as no filter, and without one warnings show. The
  empty filter lets errors through only.
-/

namespace SecretEnv.LogFilter

/-- What is known of an event before it is logged. -/
structure Event where
  target : Text
  fields : List Text
  deriving DecidableEq

/-- The warning of the listing. -/
def listingWarning : Event where
  target := "sem::core::format".toList
  fields := ["message".toList, "key".toList]

/-- Whether a directive holds for an event. -/
def Directive.holdsFor (d : Directive) (e : Event) : Bool :=
  d.span.isNone && d.target.isPrefixOf e.target &&
    d.field.all fun f => !f.valued && e.fields.contains f.name

/-- The name of the field of a directive; it is empty if there is none. -/
def Directive.fieldName (d : Directive) : Text := (d.field.map (·.name)).getD []

/-- Whether a directive gives way to another that holds for the same event. -/
def Directive.yieldsTo (d e : Directive) : Bool :=
  d.target.length < e.target.length ||
    d.target.length = e.target.length && !(e.fieldName < d.fieldName)

/-- The directive that decides among an earlier choice and a later directive. -/
def moreSpecific (choice : Option Directive) (d : Directive) : Option Directive :=
  match choice with
  | none => some d
  | some e => if e.yieldsTo d then some d else some e

/-- The directive that decides on an event. -/
def decider? (ds : List Directive) (e : Event) : Option Directive :=
  (ds.filter (·.holdsFor e)).foldl moreSpecific none

/-- Whether directives let the warning of the listing through. -/
def directivesShow (ds : List Directive) : Bool :=
  (decider? ds listingWarning).any (·.level.admitsWarnings)

/-- Read the directives of a filter up to the first that is refused. -/
def directives (text : Text) : Except Refusal (List Directive) :=
  ((text.splitOn ',').filter (· ≠ [])).mapM Directive.parse

/-- Whether the warnings of the listing are shown under a filter, if there is one. -/
def showsWarnings : Option Text → Bool
  | none => true
  | some text =>
    match directives text with
    | .ok ds => directivesShow ds
    | .error _ => true

/-- Whether reading a filter, if there is one, fails inside a character. -/
def isTorn : Option Text → Bool
  | none => false
  | some text =>
    match directives text with
    | .error .torn => true
    | _ => false

end SecretEnv.LogFilter
