import SecretEnv.Text

/-!
# UTF-8

One machine reads UTF-8. Its state is the sequence that has been begun, if
any; a byte either continues that sequence, or ends it as ill-formed and is
then read as the first byte of the next one.

* `encode` writes a text;
* `decodeLossy` reads any bytes, with U+FFFD for each maximal ill-formed part;
* `decode` reads well-formed bytes only and tells where the others fail.
-/

namespace SecretEnv.Utf8

/-- The bytes of one character. -/
def encodeChar (c : Char) : Bytes :=
  let n := c.toNat
  if n < 0x80 then [UInt8.ofNat n]
  else if n < 0x800 then [UInt8.ofNat (0xC0 + n / 64), UInt8.ofNat (0x80 + n % 64)]
  else if n < 0x10000 then
    [UInt8.ofNat (0xE0 + n / 4096), UInt8.ofNat (0x80 + n / 64 % 64), UInt8.ofNat (0x80 + n % 64)]
  else
    [UInt8.ofNat (0xF0 + n / 262144), UInt8.ofNat (0x80 + n / 4096 % 64),
      UInt8.ofNat (0x80 + n / 64 % 64), UInt8.ofNat (0x80 + n % 64)]

/-- The bytes of a text. -/
def encode (t : Text) : Bytes := t.flatMap encodeChar

/-- A sequence that has been begun: the bytes seen and still missing, the range
of the next byte, and the value of the bits so far. -/
structure Pending where
  seen : Nat
  missing : Nat
  low : Nat
  high : Nat
  bits : Nat
  deriving DecidableEq

/-- What one byte does to the machine. -/
inductive Effect where
  /-- The byte completes a character. -/
  | char (c : Char)
  /-- The byte begins or continues a sequence. -/
  | more (p : Pending)
  /-- The byte cannot stand here. -/
  | bad
  deriving DecidableEq

/-- The first byte of a sequence. The second byte's range excludes overlong
forms, surrogates and values past U+10FFFF. -/
def first (b : UInt8) : Effect :=
  let n := b.toNat
  if n < 0x80 then .char (Char.ofNat n)
  else if n < 0xC2 then .bad
  else if n < 0xE0 then .more ⟨1, 1, 0x80, 0xBF, n - 0xC0⟩
  else if n < 0xF0 then
    .more ⟨1, 2, if n = 0xE0 then 0xA0 else 0x80, if n = 0xED then 0x9F else 0xBF, n - 0xE0⟩
  else if n < 0xF5 then
    .more ⟨1, 3, if n = 0xF0 then 0x90 else 0x80, if n = 0xF4 then 0x8F else 0xBF, n - 0xF0⟩
  else .bad

/-- A later byte of a sequence. -/
def Pending.next (p : Pending) (b : UInt8) : Effect :=
  let n := b.toNat
  if p.low ≤ n ∧ n ≤ p.high then
    let bits := p.bits * 64 + (n - 0x80)
    if p.missing ≤ 1 then .char (Char.ofNat bits)
    else .more ⟨p.seen + 1, p.missing - 1, 0x80, 0xBF, bits⟩
  else .bad

/-- U+FFFD, which stands for bytes that are not UTF-8. -/
def replacement : Char := Char.ofNat 0xFFFD

/-- Read a byte at the start of a sequence: the characters that it yields, and
the sequence that it begins. -/
def lossyFirst (b : UInt8) : Text × Option Pending :=
  match first b with
  | .char c => ([c], none)
  | .more p => ([], some p)
  | .bad => ([replacement], none)

/-- Read a byte in any state. -/
def lossyStep : Option Pending → UInt8 → Text × Option Pending
  | none, b => lossyFirst b
  | some p, b =>
    match p.next b with
    | .char c => ([c], none)
    | .more q => ([], some q)
    | .bad => (replacement :: (lossyFirst b).1, (lossyFirst b).2)

/-- Read bytes from a state on; a sequence that the end cuts off is ill-formed. -/
def decodeLossyFrom : Option Pending → Bytes → Text
  | none, [] => []
  | some _, [] => [replacement]
  | s, b :: bs => (lossyStep s b).1 ++ decodeLossyFrom (lossyStep s b).2 bs

/-- Read bytes, with U+FFFD for each maximal ill-formed part. -/
def decodeLossy (bs : Bytes) : Text := decodeLossyFrom none bs

/-- Where bytes stop being UTF-8. -/
inductive Failure where
  /-- The bytes end inside the sequence that begins at an index. -/
  | incomplete (index : Nat)
  /-- So many bytes from an index on belong to no sequence. -/
  | invalid (length index : Nat)
  deriving DecidableEq

/-- The failure in words. -/
def Failure.message : Failure → Text
  | .incomplete i => "incomplete utf-8 byte sequence from index ".toList ++ Text.decimal i
  | .invalid n i =>
    "invalid utf-8 sequence of ".toList ++ Text.decimal n ++ " bytes from index ".toList ++
      Text.decimal i

/-- Read well-formed bytes from a state on; `index` is where the current
sequence begins, and `done` holds what has been read, last character first. -/
def decodeFrom (done : Text) (index : Nat) : Option Pending → Bytes → Except Failure Text
  | none, [] => .ok done.reverse
  | some _, [] => .error (.incomplete index)
  | none, b :: bs =>
    match first b with
    | .char c => decodeFrom (c :: done) (index + 1) none bs
    | .more p => decodeFrom done index (some p) bs
    | .bad => .error (.invalid 1 index)
  | some p, b :: bs =>
    match p.next b with
    | .char c => decodeFrom (c :: done) (index + p.seen + 1) none bs
    | .more q => decodeFrom done index (some q) bs
    | .bad => .error (.invalid p.seen index)

/-- Read bytes that have to be well-formed. -/
def decode (bs : Bytes) : Except Failure Text := decodeFrom [] 0 none bs

end SecretEnv.Utf8
