import SecretEnv.LogFilter.Pattern

/-!
# Directives of a log filter

A directive is a level, or `target[span{field=value}]=level` with most of it left
out. `Directive.parse` reads one.

* A target or a span alone lets everything through, and so does an equals sign
  with no level after it.
* A level is a number, or a name in whatever case.
* A value is a truth value, a number or a pattern.
* The parts of a directive are found in its text without the blanks around it, and
  are taken by their byte positions from the text with them. So blanks in front
  move every part, and blanks at the end belong to the last one. A part whose ends
  then fall inside a character cannot be taken.
-/

namespace SecretEnv.LogFilter

/-- How much a directive lets through. -/
inductive Level where
  | off | error | warn | info | debug | trace
  deriving DecidableEq

/-- Whether a level lets warnings through. -/
def Level.admitsWarnings : Level → Bool
  | .off | .error => false
  | .warn | .info | .debug | .trace => true

/-- The levels by their names. -/
def levelNames : List (Text × Level) :=
  [("off".toList, .off), ("error".toList, .error), ("warn".toList, .warn),
    ("info".toList, .info), ("debug".toList, .debug), ("trace".toList, .trace)]

/-- The levels by their numbers. -/
def numberedLevels : List Level := [.off, .error, .warn, .info, .debug, .trace]

/-- The level of a number, or of a name in whatever case. -/
def Level.ofText? (t : Text) : Option Level :=
  let digits := match t with
    | '+' :: t => t
    | t => t
  match Text.decimal? digits with
  | some n => numberedLevels[n]?
  | none => levelNames.lookup (t.map Char.toLower)

/-- The level after an equals sign; none given means all. -/
def Level.given? (t : Text) : Option Level := if t = [] then some .trace else Level.ofText? t

/-! ### Values of fields -/

/-- Whether a text is an exponent: nothing, or a whole number after an `e`. -/
def isExponent : Text → Bool
  | [] => true
  | _ :: '+' :: t | _ :: '-' :: t | _ :: t => t ≠ [] && t.all Char.isDigit

/-- The names of numbers that have no digits. -/
def numberNames : List Text := ["inf".toList, "infinity".toList, "nan".toList]

/-- Whether a text is a number without a sign: digits with at most one point among
them and an exponent, or a name in whatever case. -/
def isNumber (t : Text) : Bool :=
  let digits := t.takeWhile fun c => c ≠ 'e' && c ≠ 'E'
  let places := digits.filter (· ≠ '.')
  (places ≠ [] && places.all Char.isDigit && digits.count '.' ≤ 1 &&
      isExponent (t.drop digits.length)) ||
    numberNames.contains (t.map Char.toLower)

/-- Whether a text is a value. Truth values and numbers are patterns too, except for a
number with a plus sign. -/
def isValue (t : Text) : Bool :=
  Pattern.isValid t ||
    match t with
    | '+' :: t => isNumber t
    | _ => false

/-- A field that a directive asks for. -/
structure Field where
  name : Text
  /-- The directive also asks for a value. -/
  valued : Bool
  deriving DecidableEq

/-- Read a field. Of several equals signs the first two bound the value. -/
def Field.ofText? (t : Text) : Option Field :=
  match t, t.splitOn '=' with
  | [], _ => none
  | _, name :: value :: _ => if isValue value then some ⟨name, true⟩ else none
  | t, _ => some ⟨t, false⟩

/-! ### Reading -/

/-- A rule of a filter. An empty target stands for all. -/
structure Directive where
  target : Text
  /-- The span that has to be open. -/
  span : Option Text
  field : Option Field
  level : Level
  deriving DecidableEq

/-- Why a text is not read as a directive. -/
inductive Refusal where
  /-- It has not the form of one. -/
  | malformed
  /-- One of its parts ends inside a character. -/
  | torn
  deriving DecidableEq

/-- What there is; a text that gives nothing is malformed. -/
def orMalformed {α : Type} (a : Option α) : Except Refusal α := a.elim (.error .malformed) .ok

/-- The first so many bytes of a text and what follows them, unless they end inside a
character. -/
def splitBytes? : Nat → Text → Option (Text × Text)
  | 0, t => some ([], t)
  | _ + 1, [] => none
  | n + 1, c :: t =>
    if c.utf8Size ≤ n + 1 then
      (splitBytes? (n + 1 - c.utf8Size) t).map fun (a, b) => (c :: a, b)
    else none

/-- The rest of a text from a byte position on. -/
def partFrom (t : Text) (low : Nat) : Except Refusal Text :=
  match splitBytes? low t with
  | some (_, rest) => .ok rest
  | none => .error .torn

/-- The part of a text between two byte positions. -/
def part (t : Text) (low high : Nat) : Except Refusal Text := do
  match splitBytes? (high - low) (← partFrom t low) with
  | some (middle, _) => .ok middle
  | none => .error .torn

/-- The first of some characters from a byte position on, with its own position, and
what follows it. -/
def seek? (stops : List Char) : (position : Nat) → Text → Option (Nat × Char × Text)
  | _, [] => none
  | n, c :: t => if stops.contains c then some (n, c, t) else seek? stops (n + c.utf8Size) t

/-- Whether a character may begin a directive without a bracket. -/
def beginsDirective (c : Char) : Bool := c = '-' || c = ':' || c = '_' || isAlphanumeric c

/-- Read a level from a byte position on. -/
def levelFrom (whole : Text) (position : Nat) : Except Refusal Level := do
  orMalformed (Level.given? (← partFrom whole position))

/-- Read what follows the closing bracket: nothing or a level. Here and below `rest` is
what remains to be read, from a byte position on, and parts are taken from `whole`. -/
def closing (whole : Text) (position : Nat) : (rest : Text) → Except Refusal Level
  | [] => .ok .trace
  | '=' :: _ => levelFrom whole (position + 1)
  | _ => .error .malformed

/-- Read a field and what follows it, after the opening brace. -/
def fielded (target : Text) (span : Option Text) (whole : Text) (position : Nat) (rest : Text) :
    Except Refusal Directive := do
  let (n, _, rest) ← orMalformed (seek? ['\x7d'] position rest)
  let field ← orMalformed (Field.ofText? (← part whole position n))
  match rest with
  | ']' :: rest =>
    let level ← closing whole (n + 2) rest
    .ok { target, span, field := some field, level }
  | _ => .error .malformed

/-- Read a span and what follows it, after the opening bracket. A span without a field
may have the empty name. -/
def spanned (target : Text) (whole : Text) (position : Nat) (rest : Text) :
    Except Refusal Directive := do
  let (n, stop, rest) ← orMalformed (seek? [']', '\x7b'] position rest)
  let name ← part whole position n
  if stop = ']' then
    let level ← closing whole (n + 1) rest
    .ok { target, span := some name, field := none, level }
  else fielded target (if name = [] then none else some name) whole (n + 1) rest

/-- Read a directive. A text without brackets and equals signs is a level if it can be,
and else a target. -/
def Directive.parse (whole : Text) : Except Refusal Directive :=
  match whole.trim with
  | [] => .error .malformed
  | '[' :: rest => spanned [] whole 1 rest
  | c :: rest =>
    if !beginsDirective c then .error .malformed
    else
      match seek? ['=', '['] c.utf8Size rest with
      | none =>
        match Level.ofText? whole with
        | some level => .ok { target := [], span := none, field := none, level }
        | none => .ok { target := whole, span := none, field := none, level := .trace }
      | some (n, stop, rest) => do
        let target ← part whole 0 n
        if stop = '[' then spanned target whole (n + 1) rest
        else
          let level ← levelFrom whole (n + 1)
          .ok { target, span := none, field := none, level }

end SecretEnv.LogFilter
