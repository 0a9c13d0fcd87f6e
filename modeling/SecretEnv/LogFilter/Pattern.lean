import SecretEnv.Text
import SecretEnv.Text.Alphanumeric
import SecretEnv.Text.Blank

/-!
# Patterns

A pattern is a regular expression: literals, escapes, classes in brackets, groups,
alternatives and repetitions. `Pattern.isValid` says whether a text is one.

* Flags hold from where they are set to the end of their group. The flag `x` makes
  blanks and comments not count, `i` ignores case, and without `u` the pattern
  knows ASCII only.
* No table of characters is at hand. So with `u` nothing may ask for the case of a
  character, for a class named by a letter or for the bounds of a word.
* Without `u` nothing may stand for a part of a character: no dot, no complement,
  and no byte above 7F.
* There are no repetitions by number and no references to groups.
* Parts lie inside each other up to `maxDepth` levels deep. A group, a class, a
  repetition, a choice, a sequence of several parts and an operation on classes make
  one level each.
-/

namespace SecretEnv.LogFilter.Pattern

/-- The flags that decide what may stand in a pattern. -/
structure Flags where
  verbose : Bool
  ignoreCase : Bool
  ascii : Bool
  deriving DecidableEq

/-- The flags at the start of a pattern. -/
def Flags.initial : Flags := ⟨false, false, false⟩

/-- Set or clear a flag. -/
def Flags.set (f : Flags) (on : Bool) : Char → Flags
  | 'x' => { f with verbose := on }
  | 'i' => { f with ignoreCase := on }
  | 'u' => { f with ascii := !on }
  | _ => f

/-- The flags after the letters of a group; those behind a minus sign are cleared. -/
def Flags.apply (f : Flags) (letters : Text) : Flags :=
  match Text.cut '-' letters with
  | some (on, off) => off.foldl (·.set false ·) (on.foldl (·.set true ·) f)
  | none => letters.foldl (·.set true ·) f

/-- The letters of the flags. -/
def flagLetters : Text := "imsUuRx".toList

/-- Whether a text lists flags: each once, with at most one minus sign and not at the end. -/
def areFlags (letters : Text) : Bool :=
  letters.all (fun c => c = '-' || flagLetters.contains c) && decide letters.Nodup &&
    letters.getLast? ≠ some '-'

/-- The text without the blanks and comments at its front. -/
def skipRemarks (inComment : Bool) : Text → Text
  | [] => []
  | c :: t =>
    if inComment then skipRemarks (c ≠ '\n') t
    else if isBlank c then skipRemarks false t
    else if c = '#' then skipRemarks true t
    else c :: t

/-- The text from where the pattern goes on. -/
def Flags.skip (f : Flags) (t : Text) : Text := if f.verbose then skipRemarks false t else t

/-! ### Escapes -/

/-- What an escape or a character outside brackets stands for. -/
inductive Atom where
  | literal (c : Char)
  /-- A class named by a letter. -/
  | shorthand
  /-- A place in the text. -/
  | place
  deriving DecidableEq

/-- Read a hexadecimal numeral of so many digits after a value. -/
def hexadecimal? (f : Flags) : (digits : Nat) → (value : Nat) → Text → Option (Nat × Text)
  | 0, v, t => some (v, t)
  | n + 1, v, t =>
    match f.skip t with
    | [] => none
    | c :: t => (Text.hexDigit? c).bind fun d => hexadecimal? f n (16 * v + d) t

/-- Read a code point of so many digits. One of two digits is a byte in a pattern that
knows ASCII only. -/
def codePoint? (f : Flags) (digits : Nat) (t : Text) : Option (Atom × Text) := do
  let (v, t) ← hexadecimal? f digits 0 t
  if v.isValidChar && !(f.ascii && digits = 2 && 0x80 ≤ v) then
    some (.literal (Char.ofNat v), t)
  else none

/-- Read an escape after its backslash. Any ASCII character but a letter or a digit may
be escaped to stand for itself. -/
def escape? (f : Flags) : Text → Option (Atom × Text)
  | [] => none
  | c :: t =>
    match c with
    | 'x' => codePoint? f 2 t
    | 'u' => codePoint? f 4 t
    | 'U' => codePoint? f 8 t
    | 'd' | 's' | 'w' => if f.ascii then some (.shorthand, t) else none
    | 'b' | 'B' | '<' | '>' => if f.ascii then some (.place, t) else none
    | 'A' | 'z' => some (.place, t)
    | 'a' => some (.literal '\x07', t)
    | 'f' => some (.literal '\x0c', t)
    | 't' => some (.literal '\t', t)
    | 'n' => some (.literal '\n', t)
    | 'r' => some (.literal '\r', t)
    | 'v' => some (.literal '\x0b', t)
    | _ => if c.toNat < 0x80 && !c.isAlphanum then some (.literal c, t) else none

/-- Whether an atom may stand where its case could matter. -/
def Flags.admits (f : Flags) : Atom → Bool
  | .literal _ => !f.ignoreCase || f.ascii
  | .shorthand | .place => true

/-! ### Depth -/

/-- How many levels of parts may lie inside each other. -/
def maxDepth : Nat := 250

/-- The parts of a sequence: how many there are, and how deep the deepest is. -/
structure Parts where
  count : Nat
  deepest : Nat
  deriving DecidableEq

/-- No parts. -/
def Parts.empty : Parts := ⟨0, 0⟩

/-- The parts with one more. -/
def Parts.add (p : Parts) (depth : Nat) : Parts := ⟨p.count + 1, max p.deepest depth⟩

/-- The depth of a sequence; a part alone makes no level of its own. -/
def Parts.depth (p : Parts) : Nat := if p.count ≤ 1 then p.deepest else p.deepest + 1

/-! ### Classes -/

/-- Read a member of a class: its character, or nothing for a class named by a letter. -/
def member? (f : Flags) (t : Text) : Option (Option Char × Text) := do
  let (atom, t) ← match t with
    | [] => none
    | '\\' :: t => escape? f t
    | c :: t => some (.literal c, t)
  match atom with
  | .literal c =>
    if f.admits atom && (!f.ascii || c.toNat < 0x80) then some (some c, t) else none
  | .shorthand => some (none, t)
  | .place => none

/-- The next character that counts. Of a comment only its sign is passed over. -/
def Flags.ahead? (f : Flags) (t : Text) : Option Char :=
  if f.verbose then
    match t.dropWhile isBlank with
    | '#' :: t => (t.dropWhile isBlank).head?
    | t => t.head?
  else t.head?

/-- Read a member, or a range of characters. A minus sign makes no range if another one
or a closing bracket is ahead of it. -/
def range? (f : Flags) (t : Text) : Option Text := do
  let (low, t) ← member? f t
  match f.skip t with
  | '-' :: t =>
    if f.ahead? t = some '-' || f.ahead? t = some ']' then some ('-' :: t)
    else
      let (high, t) ← member? f (f.skip t)
      match low, high with
      | some low, some high => if low ≤ high then some t else none
      | _, _ => none
  | t => some t

/-- The names of the classes of ASCII characters. -/
def classNames : List Text :=
  ["alnum".toList, "alpha".toList, "ascii".toList, "blank".toList, "cntrl".toList,
    "digit".toList, "graph".toList, "lower".toList, "print".toList, "punct".toList,
    "space".toList, "upper".toList, "word".toList, "xdigit".toList]

/-- Read the rest of a class by its name, such as `[:alpha:]`, after the first bracket:
whether it is a complement, and what follows. -/
def named? : Text → Option (Bool × Text)
  | ':' :: t => do
    let (negated, t) := match t with
      | '^' :: t => (true, t)
      | t => (false, t)
    let (name, t) ← Text.cut ':' t
    match t with
    | ']' :: t => if classNames.contains name then some (negated, t) else none
    | _ => none
  | _ => none

/-- How far a class has been read. -/
inductive Stage where
  /-- Up to its bracket. -/
  | opened
  /-- Up to the sign of a complement. -/
  | negated
  /-- Up to minus signs at its front. -/
  | dashed
  | inside
  deriving DecidableEq

/-- What has been read of a class. -/
structure Class where
  /-- The members since the last operator. -/
  members : Parts
  /-- The depth of the operand before it. -/
  operand : Option Nat
  deriving DecidableEq

/-- A class that has just been opened. -/
def Class.empty : Class := ⟨.empty, none⟩

/-- The class with one more member. -/
def Class.add (c : Class) (depth : Nat) : Class := { c with members := c.members.add depth }

/-- The depth of what a class holds. -/
def Class.depth (c : Class) : Nat :=
  match c.operand with
  | none => c.members.depth
  | some d => max d c.members.depth + 1

/-- The class after an operator; operators associate to the left. -/
def Class.operate (c : Class) : Class := ⟨.empty, some c.depth⟩

/-- Read a class, and the classes inside it, up to its end: its depth and what follows
it. `outer` are the classes around, the innermost first. At the front of a class minus
signs and a closing bracket stand for themselves. -/
def class? (f : Flags) : (fuel : Nat) → (outer : List Class) → Class → Stage → Text →
    Option (Nat × Text)
  | 0, _, _, _, _ => none
  | fuel + 1, outer, c, stage, t =>
    match stage, f.skip t with
    | _, [] => none
    | .opened, '^' :: t => if f.ascii then none else class? f fuel outer c .negated t
    | .opened, '-' :: t | .negated, '-' :: t | .dashed, '-' :: t =>
      if f.admits (.literal '-') then class? f fuel outer (c.add 0) .dashed t else none
    | .opened, ']' :: t | .negated, ']' :: t =>
      if f.admits (.literal ']') then class? f fuel outer (c.add 0) .inside t else none
    | _, ']' :: t =>
      match outer with
      | [] => some (c.depth + 1, t)
      | d :: outer => class? f fuel outer (d.add (c.depth + 1)) .inside t
    | _, '[' :: t =>
      match named? t with
      | some (negated, t) =>
        if f.ascii && negated || f.ignoreCase && !f.ascii then none
        else class? f fuel outer (c.add 0) .inside t
      | none => class? f fuel (c :: outer) .empty .opened t
    | _, '&' :: '&' :: t | _, '-' :: '-' :: t | _, '~' :: '~' :: t =>
      class? f fuel outer c.operate .inside t
    | _, t => (range? f t).bind (class? f fuel outer (c.add 0) .inside)

/-! ### Groups and the whole -/

/-- What has been read of a group, or of the whole. -/
structure Group where
  /-- The parts since the last bar. -/
  parts : Parts
  /-- The depth of the part that a repetition may follow. -/
  last : Option Nat
  /-- The depth of the deepest alternative before the last bar. -/
  alternatives : Option Nat
  deriving DecidableEq

/-- A group that has just been opened. -/
def Group.empty : Group := ⟨.empty, none, none⟩

/-- The group with one more part, which a repetition may follow. -/
def Group.add (g : Group) (depth : Nat) : Group :=
  { g with parts := g.parts.add depth, last := some depth }

/-- The group with one more part, which no repetition may follow. -/
def Group.addFlags (g : Group) : Group := { g with parts := g.parts.add 0, last := none }

/-- The group with its last part repeated. -/
def Group.repeatLast? (g : Group) : Option Group :=
  g.last.map fun d =>
    let parts := { g.parts with deepest := max g.parts.deepest (d + 1) }
    { g with parts, last := some (d + 1) }

/-- The group after a bar. -/
def Group.alternate (g : Group) : Group :=
  ⟨.empty, none, some (max (g.alternatives.getD 0) g.parts.depth)⟩

/-- The depth of what a group holds. -/
def Group.depth (g : Group) : Nat :=
  match g.alternatives with
  | none => g.parts.depth
  | some d => max d g.parts.depth + 1

/-- The state of the reader. -/
structure State where
  flags : Flags
  group : Group
  /-- The groups around with their flags, the innermost first. -/
  outer : List (Flags × Group)
  /-- The names of groups so far. -/
  names : List Text
  deriving DecidableEq

/-- The state at the start of a pattern. -/
def State.initial : State := ⟨.initial, .empty, [], []⟩

/-- The state in a new group. -/
def State.enter (s : State) (flags : Flags) : State :=
  { s with flags, group := .empty, outer := (s.flags, s.group) :: s.outer }

/-- The state after the end of a group. -/
def State.leave? (s : State) : Option State :=
  match s.outer with
  | [] => none
  | (flags, group) :: outer => some { s with flags, group := group.add (s.group.depth + 1), outer }

/-- The state with one more part in its group. -/
def State.add (s : State) (depth : Nat) : State := { s with group := s.group.add depth }

/-- Whether a text names a group. -/
def isGroupName : Text → Bool
  | [] => false
  | c :: t =>
    (c = '_' || isAlphabetic c) &&
      t.all fun c => c = '_' || c = '.' || c = '[' || c = ']' || isAlphanumeric c

/-- Read a new name of a group and open the group. -/
def namedGroup? (s : State) (t : Text) : Option (State × Text) := do
  let (name, t) ← Text.cut '>' t
  if isGroupName name && !s.names.contains name then
    some ({ s.enter s.flags with names := name :: s.names }, t)
  else none

/-- Read flags, which hold for the rest of the group or for a group that they open. -/
def flagGroup? (s : State) (t : Text) : Option (State × Text) :=
  let letters := t.takeWhile fun c => c ≠ ':' && c ≠ ')'
  match areFlags letters, t.drop letters.length with
  | true, ':' :: t => some (s.enter (s.flags.apply letters), t)
  | true, ')' :: t =>
    if letters = [] then none
    else some ({ s with flags := s.flags.apply letters, group := s.group.addFlags }, t)
  | _, _ => none

/-- Read what follows the bracket that opens a group. -/
def group? (s : State) (t : Text) : Option (State × Text) :=
  match s.flags.skip t with
  | '?' :: 'P' :: '<' :: t | '?' :: '<' :: t => namedGroup? s t
  | '?' :: t => flagGroup? s t
  | t => some (s.enter s.flags, t)

/-- Read what follows the sign of a repetition; a question mark makes it a short one. -/
def repetition? (s : State) (t : Text) : Option (State × Text) :=
  s.group.repeatLast?.map fun group =>
    ({ s with group }, match t with
      | '?' :: t => t
      | t => t)

/-- The state after an atom, if it may stand here. -/
def State.addAtom? (s : State) (atom : Atom) : Option State :=
  if s.flags.admits atom then some (s.add 0) else none

/-- Read one part of a pattern: what it makes of the state, and what follows it. -/
def step? (s : State) : Text → Option (State × Text)
  | [] => none
  | c :: t =>
    match c with
    | '(' => group? s t
    | ')' => s.leave?.map fun s => (s, t)
    | '|' => some ({ s with group := s.group.alternate }, t)
    | '[' =>
      (class? s.flags (t.length + 1) [] .empty .opened t).map fun (depth, t) => (s.add depth, t)
    | '?' | '*' | '+' => repetition? s t
    | '\x7b' => none
    | '.' => if s.flags.ascii then none else some (s.add 0, t)
    | '^' | '$' => (s.addAtom? .place).map fun s => (s, t)
    | '\\' => do
      let (atom, t) ← escape? s.flags t
      let s ← s.addAtom? atom
      some (s, t)
    | c => (s.addAtom? (.literal c)).map fun s => (s, t)

/-- Whether the rest of a text ends a pattern. -/
def isValidFrom : (fuel : Nat) → State → Text → Bool
  | 0, _, _ => false
  | fuel + 1, s, t =>
    match s.flags.skip t with
    | [] => s.outer = [] && s.group.depth ≤ maxDepth
    | t =>
      match step? s t with
      | none => false
      | some (s, t) => isValidFrom fuel s t

/-- Whether a text is a pattern. -/
def isValid (t : Text) : Bool := isValidFrom (t.length + 1) .initial t

end SecretEnv.LogFilter.Pattern
