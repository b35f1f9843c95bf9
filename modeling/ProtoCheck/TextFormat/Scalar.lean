import ProtoCheck.Descriptor.Pool
import ProtoCheck.Failure
import ProtoCheck.Message
import ProtoCheck.Number.Decimal
import ProtoCheck.Number.Integer
import ProtoCheck.Text.Quoted
import ProtoCheck.Text.Word
import ProtoCheck.TextFormat.Literal
import ProtoCheck.TextFormat.Token

/-!
# Scalar values in the text format

* `Refusal` : why a text is refused, with the place of the token next to read or of the one read
  last (`refuseNext`, `refuseLast`);
* `Cursor.expect`, `Cursor.tryTake`, `Cursor.word` : single tokens;
* `readScalar` : the value of a field that holds no message.
-/

namespace ProtoCheck.TextFormat

open Descriptor Message Text

/-- Why a text is refused. Lines and columns count from one. -/
inductive Refusal where
  | at (line column : Nat) (text : String)
  /-- Refused without a place. -/
  | whole (text : String)
  /-- What is read cannot be kept. -/
  | broken (b : Breakdown)
  deriving DecidableEq, Repr

abbrev Read (α : Type) : Type := Except Refusal α

/-- Refuses at the next token, whose line is shown. -/
def refuseNext {α : Type} (c : Cursor) (text : String) : Read α :=
  .error (.at (c.next.line + 1) (c.next.column + 1)
    ("'" ++ String.ofList c.next.lineText ++ "': " ++ text))

/-- Refuses at the token that was read last. -/
def refuseLast {α : Type} (c : Cursor) (text : String) : Read α :=
  .error (.at (c.last.line + 1) (c.last.column + 1) text)

namespace Cursor

/-- The text of the next token. -/
def text (c : Cursor) : String := String.ofList c.next.text

/-- The cursor behind the token `text`, if that is the next one. -/
def tryTake? (c : Cursor) (text : String) : Option Cursor :=
  if c.sees text then some c.advance else none

/-- The cursor behind the token `text`, or where the next one is another. -/
def skip (c : Cursor) (text : String) : Cursor := (c.tryTake? text).getD c

/-- The cursor behind the token `text`, which has to be next. -/
def expect (c : Cursor) (text : String) : Read Cursor :=
  match c.tryTake? text with
  | some c => .ok c
  | none => refuseNext c ("Expected \"" ++ text ++ "\".")

/-- The next token, which has to begin like a name. -/
def word (c : Cursor) : Read (String × Cursor) :=
  if (c.next.text.head?.map isNameStart).getD false then .ok (c.text, c.advance)
  else refuseNext c "Expected identifier."

/-- The next token, which has to begin like a name or a number. -/
def wordOrNumber (c : Cursor) : Read (String × Cursor) :=
  if (c.next.text.head?.map isWord).getD false then .ok (c.text, c.advance)
  else refuseNext c ("Expected identifier or number, got " ++ c.text ++ ".")

end Cursor

/-! ## Numbers -/

/-- The integers that a kind of fields holds. -/
def intRange : ScalarKind → Int × Int
  | .int32 | .sint32 | .sfixed32 => (-0x80000000, 0x7fffffff)
  | .uint32 | .fixed32 => (0, 0xffffffff)
  | .uint64 | .fixed64 => (0, 0xffffffffffffffff)
  | _ => (-0x8000000000000000, 0x7fffffffffffffff)

def readInt (kind : ScalarKind) (c : Cursor) : Read Scalar :=
  match Number.integerOrOctal? c.next.text with
  | none => refuseNext c ("Couldn't parse integer: " ++ c.text)
  | some n =>
    let (low, high) := intRange kind
    if low ≤ n && n ≤ high then .ok (.int n)
    else refuseNext c ("Value out of range: " ++ toString n)

/-- The value of a word for an infinity or for no number, an `f` behind it allowed. -/
def namedReal? (s : List Char) : Option Number.Double :=
  let s := String.ofList (lower s)
  if ["inf", "inff", "infinity", "infinityf"].contains s then some (.infinity false)
  else if ["-inf", "-inff", "-infinity", "-infinityf"].contains s then some (.infinity true)
  else if ["nan", "nanf"].contains s then some .undefined
  else none

/-- A text without the letters `f` at its end. -/
def withoutSuffix (s : List Char) : List Char := (s.reverse.dropWhile (· == 'f')).reverse

def realText? (s : List Char) : Option Number.Double :=
  ((Number.real? s).orElse fun _ => namedReal? s).orElse fun _ => Number.real? (withoutSuffix s)

def readReal (c : Cursor) : Read Number.Double :=
  match realText? c.next.text with
  | some x => .ok x
  | none => refuseNext c ("Couldn't parse float: " ++ c.text)

def readBool (c : Cursor) : Read Scalar :=
  if ["true", "t", "1", "True"].contains c.text then .ok (.bool true)
  else if ["false", "f", "0", "False"].contains c.text then .ok (.bool false)
  else refuseNext c "Expected \"true\" or \"false\"."

/-- The value of an enum, by number or by name. -/
def readEnum (pool : Pool) (type : String) (c : Cursor) : Read Scalar :=
  let e := (pool.enum? type).getD ⟨type, [], true⟩
  match Number.integer? 0 c.next.text with
  | some n =>
    if e.closed then
      if e.values.any fun v => v.2 == n then .ok (.int n)
      else refuseNext c
        ("Enum type \"" ++ e.fullName ++ "\" has no value with number " ++ toString n ++ ".")
    else if -0x80000000 ≤ n && n ≤ 0x7fffffff then .ok (.int n)
    else .error (.broken .enumOutOfRange)
  | none =>
    match e.values.lookup c.text with
    | some n => .ok (.int n)
    | none =>
      refuseNext c ("Enum type \"" ++ e.fullName ++ "\" has no value named " ++ c.text ++ ".")

/-! ## Texts -/

/-- The bytes of the next token, which has to be a quoted text. -/
def readLiteral (c : Cursor) : Read Bytes :=
  match c.next.text with
  | [] => refuseNext c "Expected string but found: ''"
  | quote :: inner =>
    if !isQuote quote then
      refuseNext c ("Expected string but found: " ++ quoted c.text)
    else if inner.getLast? != some quote then
      refuseNext c ("String missing ending quote: " ++ quoted c.text)
    else
      match unescape inner.dropLast with
      | .ok bs => .ok bs
      | .error e => refuseNext c e.message

/-- The bytes of quoted texts, one at least and as many as follow, and the cursor behind them;
`fuel` bounds their number. -/
def readLiterals : Nat → Cursor → Read (Bytes × Cursor)
  | 0, c => .ok ([], c)
  | fuel + 1, c => do
    let bs ← readLiteral c
    let c := c.advance
    if (c.next.text.head?.map isQuote).getD false then
      let (more, c) ← readLiterals fuel c
      return (bs ++ more, c)
    else return (bs, c)

/-- The text of quoted texts. -/
def readText (c : Cursor) : Read (Scalar × Cursor) := do
  let (bs, c) ← readLiterals c.size c
  match Utf8.decode? bs with
  | .ok s => return (.text (String.ofList s), c)
  | .error e => refuseNext c ("Couldn't parse string: " ++ e.message)

/-! ## Scalars -/

/-- The value of a field that holds no message, and the cursor behind it. -/
def readScalar (pool : Pool) (kind : FieldKind) (c : Cursor) : Read (Scalar × Cursor) :=
  match kind with
  | .scalar .string => readText c
  | .scalar .bytes => (readLiterals c.size c).map fun r => (.bytes r.1, r.2)
  | .scalar .double => (readReal c).map fun x => (.double x.toBits, c.advance)
  | .scalar .float => (readReal c).map fun x => (.single x.toSingle, c.advance)
  | .scalar .bool => (readBool c).map (·, c.advance)
  | .scalar k => (readInt k c).map (·, c.advance)
  | .enum t => (readEnum pool t c).map (·, c.advance)
  | .message _ | .group _ => .ok (.int 0, c)

end ProtoCheck.TextFormat
