import ProtoCheck.Text.Blank
import ProtoCheck.Text.Digit

/-!
# Tags of YAML

* `Tag` names : the tags of the standard types;
* `plainTag` : the tag of a scalar that has none, by the form of its text.
-/

namespace ProtoCheck.Yaml

open Text

namespace Tag

/-- What the tags of the standard types begin with. -/
def standard : String := "tag:yaml.org,2002:"

def bool : String := standard ++ "bool"
def float : String := standard ++ "float"
def int : String := standard ++ "int"
def merge : String := standard ++ "merge"
def null : String := standard ++ "null"
def timestamp : String := standard ++ "timestamp"
def value : String := standard ++ "value"
def yaml : String := standard ++ "yaml"
def binary : String := standard ++ "binary"
def omap : String := standard ++ "omap"
def pairs : String := standard ++ "pairs"
def set : String := standard ++ "set"
def str : String := standard ++ "str"
def seq : String := standard ++ "seq"
def map : String := standard ++ "map"

end Tag

/-! ## Forms -/

/-- The texts of truth values. -/
def boolWords : List String :=
  ["yes", "Yes", "YES", "no", "No", "NO", "true", "True", "TRUE", "false", "False", "FALSE",
    "on", "On", "ON", "off", "Off", "OFF"]

def nullWords : List String := ["~", "null", "Null", "NULL", ""]

/-- A text without a sign in front. -/
def unsigned (s : List Char) : List Char :=
  match s with
  | '-' :: rest | '+' :: rest => rest
  | s => s

/-- A digit or an underscore. -/
def isDigitOrRule (c : Char) : Bool := isAsciiDigit c || c == '_'

/-- Digits and underscores behind a first digit. -/
def isDigits (s : List Char) : Bool :=
  match s with
  | [] => false
  | c :: rest => isAsciiDigit c && rest.all isDigitOrRule

/-- A count of seconds or minutes: one digit, or two of which the first is below six. -/
def isSixty (s : List Char) : Bool :=
  match s with
  | [c] => isAsciiDigit c
  | [b, c] => '0' ≤ b && b ≤ '5' && isAsciiDigit c
  | _ => false

/-- A number in base sixty: digits, and counts with a colon before each, one at least. -/
def isSexagesimal (s : List Char) (first : List Char → Bool) : Bool :=
  match pieces (· == ':') s with
  | head :: more => first head && !more.isEmpty && more.all isSixty
  | [] => false

/-- An exponent: nothing, or a mark, a sign and digits. -/
def isExponent (s : List Char) : Bool :=
  match s with
  | [] => true
  | mark :: sign :: ds =>
    (mark == 'e' || mark == 'E') && (sign == '+' || sign == '-') && !ds.isEmpty &&
      ds.all isAsciiDigit
  | _ => false

/-- Digits and underscores, at least none, with an exponent behind them. -/
def isFraction (s : List Char) : Bool := isExponent (s.dropWhile isDigitOrRule)

def isFloat (s : List Char) : Bool :=
  let u := unsigned s
  let whole := u.takeWhile (· != '.')
  let behind := u.dropWhile (· != '.')
  let signed := u.length != s.length
  match behind with
  | '.' :: fraction =>
    let word := String.ofList fraction
    (isDigits whole && isFraction fraction) ||
      (whole.isEmpty && !signed && isDigits (fraction.take 1) && isFraction fraction) ||
      (isSexagesimal whole isDigits && fraction.all isDigitOrRule) ||
      (whole.isEmpty && ["inf", "Inf", "INF"].contains word) ||
      (whole.isEmpty && !signed && ["nan", "NaN", "NAN"].contains word)
  | _ => false

/-- Digits of a base, underscores among them, one at least. -/
def isBaseDigits (base : Nat) (s : List Char) : Bool :=
  !s.isEmpty && s.all fun c => c == '_' || (digit36? c).any (· < base)

/-- Digits that do not begin with a zero. -/
def isPositive (s : List Char) : Bool := isDigits s && s.head? != some '0'

def isInt (s : List Char) : Bool :=
  let u := unsigned s
  match u with
  | '0' :: 'b' :: rest => isBaseDigits 2 rest
  | '0' :: 'x' :: rest => isBaseDigits 16 rest
  | '0' :: rest => rest.isEmpty || isBaseDigits 8 rest
  | u => isPositive u || isSexagesimal u isPositive

/-- Takes `least` to `most` digits from the front. -/
def takeDigits? (least most : Nat) (s : List Char) : Option (Nat × List Char) :=
  let ds := (s.take most).takeWhile isAsciiDigit
  if ds.length < least then none else (number? ds).map fun n => (n, s.drop ds.length)

/-- Takes a character from the front. -/
def takeChar? (c : Char) (s : List Char) : Option (List Char) :=
  match s with
  | a :: rest => if a == c then some rest else none
  | [] => none

/-- A distance from the zone of time zero, in minutes. -/
structure Offset where
  minutes : Int
  deriving DecidableEq, Repr

/-- A time: hour, minute, second, the digits of its fraction, its offset where one is given. -/
structure Clock where
  hour : Nat
  minute : Nat
  second : Nat
  fraction : List Char
  offset : Option Offset
  deriving DecidableEq, Repr

/-- The parts of a timestamp: a date, perhaps with a time. `short` says that all counts of the date
have their full width. -/
structure Stamp where
  year : Nat
  month : Nat
  day : Nat
  short : Bool
  clock : Option Clock
  deriving DecidableEq, Repr

/-- A zone at the end of a time, blanks in front of it. -/
def zone? (s : List Char) : Option (Option Offset) :=
  if s.isEmpty then some none
  else
    match s.dropWhile fun c => c == ' ' || c == '\t' with
    | ['Z'] => some (some ⟨0⟩)
    | sign :: rest =>
      if sign == '+' || sign == '-' then do
        let (hours, rest) ← takeDigits? 1 2 rest
        let minutes ←
          if rest.isEmpty then some 0
          else do
            let (minutes, rest) ← takeDigits? 2 2 (← takeChar? ':' rest)
            if rest.isEmpty then some minutes else none
        let total : Int := (hours * 60 + minutes : Nat)
        return some ⟨if sign == '-' then -total else total⟩
      else none
    | [] => none

/-- A time behind a date: a letter or blanks, then the time. -/
def clock? (s : List Char) : Option Clock := do
  let behind ← match s with
    | 'T' :: rest | 't' :: rest => some rest
    | c :: rest =>
      if c == ' ' || c == '\t' then some (rest.dropWhile fun c => c == ' ' || c == '\t') else none
    | [] => none
  let (hour, rest) ← takeDigits? 1 2 behind
  let (minute, rest) ← takeDigits? 2 2 (← takeChar? ':' rest)
  let (second, rest) ← takeDigits? 2 2 (← takeChar? ':' rest)
  let (fraction, rest) := match rest with
    | '.' :: more => (more.takeWhile isAsciiDigit, more.dropWhile isAsciiDigit)
    | rest => ([], rest)
  return ⟨hour, minute, second, fraction, ← zone? rest⟩

/-- The parts of a timestamp. -/
def stamp? (s : List Char) : Option Stamp := do
  let (year, rest) ← takeDigits? 4 4 s
  let behindYear ← takeChar? '-' rest
  let (month, rest) ← takeDigits? 1 2 behindYear
  let behindMonth ← takeChar? '-' rest
  let (day, rest) ← takeDigits? 1 2 behindMonth
  let short := s.length == 10
  if rest.isEmpty then return ⟨year, month, day, short, none⟩
  else return ⟨year, month, day, false, some (← clock? rest)⟩

/-- Whether a text has the form of a timestamp: a full date, or a date with a time. -/
def isTimestamp (s : List Char) : Bool :=
  match stamp? s with
  | some t => t.short || t.clock.isSome
  | none => false

/-- The tag of a scalar that has none and stands without quotes. -/
def plainTag (text : String) : String :=
  let s := text.toList
  if boolWords.contains text then Tag.bool
  else if isFloat s then Tag.float
  else if isInt s then Tag.int
  else if text == "<<" then Tag.merge
  else if nullWords.contains text then Tag.null
  else if isTimestamp s then Tag.timestamp
  else if text == "=" then Tag.value
  else if text == "!" || text == "&" || text == "*" then Tag.yaml
  else Tag.str

end ProtoCheck.Yaml
