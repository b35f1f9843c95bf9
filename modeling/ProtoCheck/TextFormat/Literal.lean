import ProtoCheck.Text.Utf8

/-!
# Escapes in quoted texts

The text between two quotes stands for bytes. Characters are written as they are, by code points
(`\u` with four digits, `\U` with eight) or by bytes (`\x` with up to two digits, up to three octal
digits, letters for control characters). The escapes are taken out in two rounds: first those of
code points, and the text so far is encoded; then those of bytes.

* `Codec`, `CodecFault` : what goes wrong in a round, `CodecFault.message` in words;
* `padHex`, `points?`, `utf8?`, `units?`, `bytes?` : the rounds;
* `unescape` : the bytes that a text stands for.

Code points are held as numbers here, since the first round can give lone surrogates.
-/

namespace ProtoCheck.TextFormat

open Text

/-- The steps of reading a text, by the names that messages give them. -/
inductive Codec where
  | points
  | utf8
  | units
  | latin1
  deriving DecidableEq, Repr

def Codec.name : Codec → String
  | .points => "rawunicodeescape"
  | .utf8 => "utf-8"
  | .units => "unicodeescape"
  | .latin1 => "latin-1"

/-- What a step cannot read or write: the items from `start` on, and why. -/
structure CodecFault where
  codec : Codec
  start : Nat
  items : List Nat
  reason : String
  deriving DecidableEq, Repr

/-- A code point by its number. -/
def pointText (n : Nat) : String :=
  if n < 0x100 then "\\x" ++ hexText 2 n
  else if n < 0x10000 then "\\u" ++ hexText 4 n
  else "\\U" ++ hexText 8 n

/-- A fault in words: one item is shown, several are named by their positions. -/
def CodecFault.message (f : CodecFault) : String :=
  let reads := f.codec == .points || f.codec == .units
  let one := match f.items with | [_] => true | _ => false
  let item := (f.items.head?.getD 0)
  "'" ++ f.codec.name ++ "' codec can't " ++ (if reads then "decode " else "encode ") ++
    (if one then
      (if reads then "byte 0x" ++ hexText 2 item else "character '" ++ pointText item ++ "'") ++
        " in position " ++ toString f.start
    else
      (if reads then "bytes" else "characters") ++ " in position " ++ toString f.start ++ "-" ++
        toString (f.start + f.items.length - 1)) ++
    ": " ++ f.reason

/-! ## Code points -/

/-- Writes a hexadecimal escape of one digit with two; `odd` says whether an odd number of
backslashes stands before the text. -/
def padHex (odd : Bool) : List Char → List Char
  | 'x' :: d :: rest =>
    if odd && isHex d && !(rest.head?.map isHex).getD false then
      'x' :: '0' :: d :: padHex false rest
    else 'x' :: padHex false (d :: rest)
  | c :: rest => c :: padHex (c == '\\' && !odd) rest
  | [] => []

/-- A text as bytes: characters above `FF` are written by their code points. -/
def latinBytes (s : List Char) : List Nat :=
  s.flatMap fun c =>
    if c.toNat < 0x100 then [c.toNat] else (pointText c.toNat).toList.map Char.toNat

/-- The hexadecimal digits at the front of bytes, at most `count`. -/
def hexDigits (count : Nat) (s : List Nat) : List Char :=
  ((s.take count).map Char.ofNat).takeWhile isHex

def backslash : Nat := '\\'.toNat

/-- The number of digits in an escape by this letter, and the fault when some are missing. -/
def digitCount? (letter : Nat) : Option (Nat × String) :=
  if letter == 'u'.toNat then some (4, "truncated \\uXXXX escape")
  else if letter == 'U'.toNat then some (8, "truncated \\UXXXXXXXX escape")
  else none

/-- Takes out the escapes of code points of the bytes from position `start` on. A backslash before
another character keeps both. -/
def points? (start : Nat) (s : List Nat) : Except CodecFault (List Nat) :=
  match s with
  | [] => .ok []
  | [b] => .ok [b]
  | b :: c :: rest =>
    if b != backslash then (points? (start + 1) (c :: rest)).map (b :: ·)
    else
      match digitCount? c with
      | none => (points? (start + 2) rest).map fun r => b :: c :: r
      | some (count, reason) =>
        let ds := hexDigits count rest
        if ds.length < count then
          .error ⟨.points, start, (b :: c :: rest).take (2 + ds.length), reason⟩
        else
          let n := hexNumber ds
          if 0x110000 ≤ n then
            .error ⟨.points, start, (b :: c :: rest).take (2 + count), "\\Uxxxxxxxx out of range"⟩
          else (points? (start + 2 + count) (rest.drop count)).map (n :: ·)
termination_by s.length
decreasing_by
  · simp
  · simp only [List.length_cons]; omega
  · simp only [List.length_drop, List.length_cons]; omega

/-! ## Encoding -/

def isSurrogate (n : Nat) : Bool := 0xD800 ≤ n && n < 0xE000

/-- The bytes of code points; surrogates have none. -/
def utf8? (points : List Nat) : Except CodecFault (List Nat) :=
  let clean := points.takeWhile (!isSurrogate ·)
  let rest := points.drop clean.length
  if rest.isEmpty then
    .ok (points.flatMap fun n => (Utf8.encodeChar (Char.ofNat n)).map UInt8.toNat)
  else .error ⟨.utf8, clean.length, rest.takeWhile isSurrogate, "surrogates not allowed"⟩

/-! ## Bytes -/

/-- The character of an escape of one letter. -/
def letterEscape? (c : Char) : Option Nat :=
  match c with
  | '\\' | '\'' | '"' => some c.toNat
  | 'a' => some 7
  | 'b' => some 8
  | 't' => some 9
  | 'n' => some 10
  | 'v' => some 11
  | 'f' => some 12
  | 'r' => some 13
  | _ => none

/-- The octal digits at the front of bytes, at most `count`. -/
def octalDigits (count : Nat) (s : List Nat) : List Nat :=
  (s.take count).takeWhile fun b => '0'.toNat ≤ b && b < '8'.toNat

/-- An escape behind its backslash: what it stands for and how many bytes it takes, or how many
bytes are read when it is found to be none, and why. -/
def escape? (s : List Nat) : Except (Nat × String) (List Nat × Nat) :=
  match s with
  | [] => .error (0, "\\ at end of string")
  | b :: rest =>
    let c := Char.ofNat b
    let octal := octalDigits 3 s
    let hex := fun (count : Nat) (reason : String) =>
      let ds := hexDigits count rest
      if ds.length < count then Except.error (1 + ds.length, reason)
      else if 0x110000 ≤ hexNumber ds then Except.error (1 + count, "illegal Unicode character")
      else Except.ok ([hexNumber ds], 1 + count)
    if c == '\n' then .ok ([], 1)
    else if !octal.isEmpty then .ok ([ofDigits 8 (octal.map (· - '0'.toNat))], octal.length)
    else if c == 'x' then hex 2 "truncated \\xXX escape"
    else if c == 'N' then
      let malformed := "malformed \\N character escape"
      match rest with
      | mark :: name =>
        if Char.ofNat mark != '\x7b' then .error (1, malformed)
        else
          let inner := name.takeWhile fun n => Char.ofNat n != '\x7d'
          if inner.length == name.length then .error (2 + inner.length, malformed)
          else if inner.isEmpty then .error (2, malformed)
          else .error (3 + inner.length, "unknown Unicode character name")
      | [] => .error (1, malformed)
    else
      match digitCount? b, letterEscape? c with
      | some (count, reason), _ => hex count reason
      | none, some n => .ok ([n], 1)
      | none, none => .ok ([backslash, b], 1)

/-- Takes out the escapes of bytes from position `start` on. -/
def units? (start : Nat) (s : List Nat) : Except CodecFault (List Nat) :=
  match s with
  | [] => .ok []
  | b :: rest =>
    if b != backslash then (units? (start + 1) rest).map (b :: ·)
    else
      match escape? rest with
      | .error (n, reason) => .error ⟨.units, start, (b :: rest).take (1 + n), reason⟩
      | .ok (out, n) => (units? (start + 1 + n) (rest.drop n)).map (out ++ ·)
termination_by s.length
decreasing_by
  · simp
  · simp only [List.length_drop, List.length_cons]; omega

/-- Units below `100` as bytes. -/
def bytes? (units : List Nat) : Except CodecFault Bytes :=
  let clean := units.takeWhile (· < 0x100)
  let rest := units.drop clean.length
  if rest.isEmpty then .ok (units.map UInt8.ofNat)
  else .error ⟨.latin1, clean.length, rest.takeWhile (0x100 ≤ ·), "ordinal not in range(256)"⟩

/-- The bytes that the text between two quotes stands for. -/
def unescape (s : List Char) : Except CodecFault Bytes := do
  let points ← points? 0 (latinBytes (padHex false s))
  let units ← units? 0 (← utf8? points)
  bytes? units

end ProtoCheck.TextFormat
