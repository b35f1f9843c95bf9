import ProtoCheck.Text.Digit

/-!
# UTF-8

Decoding cuts the bytes into pieces: a character, or a longest run of bytes that starts no
character. The strict reading fails at the first such run and says why, the lenient one puts the
replacement character in its place; both read the same pieces.

* `encode` : the bytes of a text;
* `Fault`, `Piece`, `scan` : the pieces of a byte string;
* `decode?` : the strict reading, `decodeLossy` : the lenient one.
-/

namespace ProtoCheck

/-- File contents. -/
abbrev Bytes := List UInt8

namespace Utf8

/-! ## Encoding -/

/-- The bytes of a character. -/
def encodeChar (c : Char) : Bytes :=
  let n := c.toNat
  if n < 0x80 then [UInt8.ofNat n]
  else if n < 0x800 then [UInt8.ofNat (0xC0 + n / 64), UInt8.ofNat (0x80 + n % 64)]
  else if n < 0x10000 then
    [UInt8.ofNat (0xE0 + n / 4096), UInt8.ofNat (0x80 + n / 64 % 64), UInt8.ofNat (0x80 + n % 64)]
  else
    [UInt8.ofNat (0xF0 + n / 262144), UInt8.ofNat (0x80 + n / 4096 % 64),
      UInt8.ofNat (0x80 + n / 64 % 64), UInt8.ofNat (0x80 + n % 64)]

/-- The bytes of a text. -/
def encode (s : List Char) : Bytes := s.flatMap encodeChar

/-- The bytes of a text. -/
def encodeString (s : String) : Bytes := encode s.toList

/-! ## Pieces -/

/-- Why a run of bytes starts no character. -/
inductive Reason where
  /-- The first byte begins no character. -/
  | badStart
  /-- A byte follows that does not continue the character. -/
  | badContinuation
  /-- The bytes end inside the character. -/
  | truncated
  deriving DecidableEq, Repr

/-- A character, or a longest run of bytes that is the start of none, with its length. -/
inductive Piece where
  | char (c : Char)
  | bad (length : Nat) (reason : Reason)
  deriving DecidableEq, Repr

/-- Whether a byte continues a character: `80` to `BF`. -/
def isTail (b : UInt8) : Bool := 0x80 ≤ b.toNat && b.toNat < 0xC0

/-- How many bytes follow a first byte, and the range of the second one. -/
def header? (b : UInt8) : Option (Nat × Nat × Nat) :=
  let n := b.toNat
  if n < 0x80 then some (0, 0, 0)
  else if n < 0xC2 then none
  else if n < 0xE0 then some (1, 0x80, 0xBF)
  else if n == 0xE0 then some (2, 0xA0, 0xBF)
  else if n == 0xED then some (2, 0x80, 0x9F)
  else if n < 0xF0 then some (2, 0x80, 0xBF)
  else if n == 0xF0 then some (3, 0x90, 0xBF)
  else if n < 0xF4 then some (3, 0x80, 0xBF)
  else if n == 0xF4 then some (3, 0x80, 0x8F)
  else none

/-- The tail bytes after the first two of a character: `need` of them, `have` bytes are read. -/
def tails (need seen code : Nat) : Bytes → Piece
  | [] => if need = 0 then .char (Char.ofNat code) else .bad seen .truncated
  | b :: rest =>
    match need with
    | 0 => .char (Char.ofNat code)
    | need + 1 =>
      if isTail b then tails need (seen + 1) (code * 64 + (b.toNat - 0x80)) rest
      else .bad seen .badContinuation

/-- The first piece of `b :: rest`. -/
def piece (b : UInt8) (rest : Bytes) : Piece :=
  match header? b with
  | none => .bad 1 .badStart
  | some (0, _, _) => .char (Char.ofNat b.toNat)
  | some (need + 1, low, high) =>
    match rest with
    | [] => .bad 1 .truncated
    | second :: more =>
      if low ≤ second.toNat && second.toNat ≤ high then
        let lead := b.toNat % (if need = 0 then 32 else if need = 1 then 16 else 8)
        tails need 2 (lead * 64 + (second.toNat - 0x80)) more
      else .bad 1 .badContinuation

/-- The number of bytes of a piece. -/
def Piece.size : Piece → Nat
  | .char c => (encodeChar c).length
  | .bad n _ => n

/-- The pieces of a byte string. -/
def scan : Bytes → List Piece
  | [] => []
  | b :: rest =>
    let p := piece b rest
    p :: scan (rest.drop (p.size - 1))
termination_by bytes => bytes.length
decreasing_by simp only [List.length_drop, List.length_cons]; omega

/-! ## Reading -/

/-- Where strict reading stops: the offset, the bytes there and why they are no character. -/
structure Fault where
  offset : Nat
  bytes : Bytes
  reason : Reason
  deriving DecidableEq, Repr

/-- The text of pieces that begin at `offset` of `bytes`, up to the first bad one. -/
def strict (bytes : Bytes) (offset : Nat) : List Piece → Except Fault (List Char)
  | [] => .ok []
  | .char c :: more => (strict bytes (offset + (Piece.char c).size) more).map (c :: ·)
  | .bad n reason :: _ => .error ⟨offset, (bytes.drop offset).take n, reason⟩

/-- The text that the bytes encode, or where they encode none. -/
def decode? (bytes : Bytes) : Except Fault (List Char) := strict bytes 0 (scan bytes)

/-- The text of a piece, the replacement character for a bad one. -/
def Piece.lenient : Piece → Char
  | .char c => c
  | .bad _ _ => Char.ofNat 0xFFFD

/-- The text of the bytes, with the replacement character for each bad piece. -/
def decodeLossy (bytes : Bytes) : List Char := (scan bytes).map Piece.lenient

/-- The wording of a reason. -/
def Reason.message : Reason → String
  | .badStart => "invalid start byte"
  | .badContinuation => "invalid continuation byte"
  | .truncated => "unexpected end of data"

/-- The wording of a fault: a single byte is shown, a run is named by its offsets. -/
def Fault.message (f : Fault) : String :=
  "'utf-8' codec can't decode " ++
    (match f.bytes with
      | [b] => "byte 0x" ++ Text.hexText 2 b.toNat ++ " in position " ++ toString f.offset
      | bytes => "bytes in position " ++ toString f.offset ++ "-" ++
          toString (f.offset + bytes.length - 1)) ++
    ": " ++ f.reason.message

end Utf8

end ProtoCheck
