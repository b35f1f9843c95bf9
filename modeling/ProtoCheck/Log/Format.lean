import ProtoCheck.Log
import ProtoCheck.Text.Digit

/-!
# Line formats of log records

A format is a text with fields `%(name)s`, where flags, a width and a precision may stand before
the last letter; `%%` is a percent sign.

* `Field`, `Piece`, `Format` : formats;
* `Format.ofString?` : reads a format, which has at least one field;
* `Format.line` : a record as a line.
-/

namespace ProtoCheck.Log

open Text

/-- What a field shows of a record. -/
inductive Field where
  | name
  | levelName
  | levelNumber
  | message
  deriving DecidableEq, Repr

def Field.named? (name : String) : Option Field :=
  if name == "name" then some .name
  else if name == "levelname" then some .levelName
  else if name == "levelno" then some .levelNumber
  else if name == "message" then some .message
  else none

def Field.value (f : Field) (r : Record) : String :=
  match f with
  | .name => r.channel
  | .levelName => Log.levelName r.level
  | .levelNumber => toString r.level
  | .message => r.text

/-- A literal character, or a field with its width, its precision and the side it is set to. -/
inductive Piece where
  | char (c : Char)
  | field (f : Field) (left : Bool) (width : Nat) (precision : Option Nat)
  deriving DecidableEq, Repr

abbrev Format := List Piece

namespace Format

/-- A field as far as it is read behind the percent sign, and what follows it. -/
def field? (s : List Char) : Option (Piece × List Char) :=
  match s with
  | '(' :: rest => do
    let name := rest.takeWhile (· != ')')
    let rest := (rest.dropWhile (· != ')')).drop 1
    let f ← Field.named? (String.ofList name)
    let flags := rest.takeWhile fun c => c == '-' || c == '#' || c == '+' || c == ' ' || c == '0'
    let rest := rest.drop flags.length
    let width := rest.takeWhile isAsciiDigit
    let rest := rest.drop width.length
    let (precision, rest) := match rest with
      | '.' :: more => (some ((number? (more.takeWhile isAsciiDigit)).getD 0),
          more.dropWhile isAsciiDigit)
      | _ => (none, rest)
    match rest with
    | kind :: rest =>
      if kind == 's' || kind == 'd' then
        some (.field f (flags.contains '-') ((number? width).getD 0) precision, rest)
      else none
    | [] => none
  | _ => none

/-- Reads the pieces of a format; `fuel` bounds their number. -/
def pieces? : Nat → List Char → Option Format
  | 0, _ => none
  | _ + 1, [] => some []
  | fuel + 1, '%' :: '%' :: rest => (pieces? fuel rest).map (.char '%' :: ·)
  | fuel + 1, '%' :: rest => do
    let (f, rest) ← field? rest
    return f :: (← pieces? fuel rest)
  | fuel + 1, c :: rest => (pieces? fuel rest).map (.char c :: ·)

/-- Reads a format; one without a field is none. -/
def ofString? (s : String) : Option Format :=
  (pieces? (s.length + 1) s.toList).filter fun f => f.any fun
    | .field .. => true
    | .char _ => false

def pad (left : Bool) (width : Nat) (s : List Char) : List Char :=
  let blanks := List.replicate (width - s.length) ' '
  if left then s ++ blanks else blanks ++ s

def pieceText (r : Record) : Piece → List Char
  | .char c => [c]
  | .field f left width precision =>
    let text := (f.value r).toList
    pad left width (match precision with | some n => text.take n | none => text)

/-- A record as a line. -/
def line (f : Format) (r : Record) : String := String.ofList (f.flatMap (pieceText r))

/-- The format used where none is given: name, level and text. -/
def standard : Format :=
  let text := fun s : String => s.toList.map Piece.char
  [.field .name false 0 none] ++ text " - " ++ [.field .levelName false 0 none] ++ text " - " ++
    [.field .message false 0 none]

/-- The format of the command line: level and text. -/
def brief : Format :=
  [.field .levelName false 0 none, .char ':', .char ' ', .field .message false 0 none]

end Format

end ProtoCheck.Log
