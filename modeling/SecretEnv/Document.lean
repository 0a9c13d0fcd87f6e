import SecretEnv.Address
import SecretEnv.Entry
import SecretEnv.Text.Blank
import SecretEnv.Text.Utf8

/-!
# Documents

A document is a file of lines. Reading it never fails.

* `LineKind.classify` sorts every line into one of five kinds;
* `Entry.ofLine?` reads a line: blank lines and comments give no entry;
* `Document.entries` reads a file: a byte order mark at its front is dropped,
  LF, CRLF and CR end a line, and bytes that are not UTF-8 are replaced, each
  on its own line.
-/

namespace SecretEnv

/-- What a line holds. -/
inductive LineKind where
  | empty
  /-- Begins with a number sign. -/
  | comment
  /-- Begins like an address. -/
  | secretAddress
  /-- Holds an equals sign. -/
  | keyValue
  | keyOnly
  deriving DecidableEq

namespace LineKind

/-- The kind of a line. Blanks around it do not count. -/
def classify (line : Text) : LineKind :=
  let t := line.trim
  if t = [] then .empty
  else if t.head? = some '#' then .comment
  else if isAddress t then .secretAddress
  else if '=' ∈ t then .keyValue
  else .keyOnly

/-- Whether lines of this kind become entries. -/
def isEntry : LineKind → Bool
  | .empty | .comment => false
  | .secretAddress | .keyValue | .keyOnly => true

end LineKind

/-- Read a line. The key is trimmed; the value stands as it is, but for the
blanks at the end of the line. -/
def Entry.ofLine? (content : Text) (line : Nat) : Option Entry :=
  let t := content.trim
  match LineKind.classify t with
  | .empty | .comment => none
  | .secretAddress | .keyOnly => some ⟨line, t, []⟩
  | .keyValue => (Text.cut '=' t).map fun (key, value) => ⟨line, key.trim, value⟩

namespace Document

/-- The UTF-8 form of the byte order mark. -/
def byteOrderMark : Bytes := [0xEF, 0xBB, 0xBF]

/-- Every CRLF and every other CR made an LF. The flag tells that the element
before was a CR, whose line an LF would only end once more. -/
def unifyBreaks {α : Type} [DecidableEq α] (cr lf : α) : Bool → List α → List α
  | _, [] => []
  | afterCr, x :: xs =>
    if x = cr then lf :: unifyBreaks cr lf true xs
    else if x = lf ∧ afterCr then unifyBreaks cr lf false xs
    else x :: unifyBreaks cr lf false xs

/-- The lines as bytes, without their ends. -/
def lines (bs : Bytes) : List Bytes :=
  (unifyBreaks 0x0D 0x0A false ((byteOrderMark.isPrefixOf? bs).getD bs)).splitOn 0x0A

/-- Read lines whose first has a given number. -/
def entriesFrom : Nat → List Bytes → List Entry
  | _, [] => []
  | n, l :: ls =>
    match Entry.ofLine? (Utf8.decodeLossy l) n with
    | none => entriesFrom (n + 1) ls
    | some e => e :: entriesFrom (n + 1) ls

/-- Read a file. -/
def entries (bs : Bytes) : List Entry := entriesFrom 1 (lines bs)

end Document
end SecretEnv
