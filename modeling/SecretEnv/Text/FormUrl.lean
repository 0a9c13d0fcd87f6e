import SecretEnv.Text.Utf8

/-!
# Form-encoded parameters

The format `application/x-www-form-urlencoded` writes a list of names and
values as one line of ASCII.

* `encode` and `decode` write and read one name or value;
* `render` and `parse` write and read a list of pairs.

Reading never fails: a percent sign that no two hexadecimal digits follow
stands for itself, and bytes that are not UTF-8 are replaced.
-/

namespace SecretEnv.FormUrl

/-- Whether a byte is written as its own ASCII character. -/
def isPlain (b : UInt8) : Bool :=
  let c := Char.ofNat b.toNat
  b.toNat < 0x80 && (c.isAlphanum || c == '*' || c == '-' || c == '.' || c == '_')

/-- A byte: plain, a plus sign for the space, or a percent sign and two digits. -/
def encodeByte (b : UInt8) : Text :=
  if isPlain b then [Char.ofNat b.toNat]
  else if b = 0x20 then ['+']
  else ['%', (Nat.digitChar (b.toNat / 16)).toUpper, (Nat.digitChar (b.toNat % 16)).toUpper]

/-- One name or value. -/
def encode (t : Text) : Text := (Utf8.encode t).flatMap encodeByte

/-- The bytes that an encoded name or value stands for. -/
def unescape : Text → Bytes
  | [] => []
  | '+' :: t => 0x20 :: unescape t
  | '%' :: a :: b :: t =>
    match Text.hexDigit? a, Text.hexDigit? b with
    | some x, some y => UInt8.ofNat (16 * x + y) :: unescape t
    | _, _ => 0x25 :: unescape (a :: b :: t)
  | c :: t => Utf8.encodeChar c ++ unescape t

/-- The name or value that a text stands for. -/
def decode (t : Text) : Text := Utf8.decodeLossy (unescape t)

/-- The parameters one after the other. -/
def render (params : List (Text × Text)) : Text :=
  List.intercalate ['&'] (params.map fun (name, value) => encode name ++ '=' :: encode value)

/-- The parameters of a query. Empty pieces are skipped, and a piece without an
equals sign is a name with the empty value. -/
def parse (query : Text) : List (Text × Text) :=
  ((query.splitOn '&').filter (· ≠ [])).map fun piece =>
    match Text.cut '=' piece with
    | some (name, value) => (decode name, decode value)
    | none => (decode piece, [])

end SecretEnv.FormUrl
