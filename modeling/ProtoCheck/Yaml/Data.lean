import ProtoCheck.Number.Decimal
import ProtoCheck.Number.Integer
import ProtoCheck.Text.Quoted
import ProtoCheck.Text.Utf8
import ProtoCheck.Yaml.Tag

/-!
# YAML data

* `Data` : the data of a document;
* `Data.shown` : data as messages show it, `Data.isShowable` : whether it can be shown;
* `Data.asText` : data as text of its own;
* `Data.sameKey` : when two keys of a mapping are one.
-/

namespace ProtoCheck.Yaml

open Text

/-- A calendar date. -/
structure Date where
  year : Nat
  month : Nat
  day : Nat
  deriving DecidableEq, Repr

/-- A time of day, to the microsecond. -/
structure TimeOfDay where
  hour : Nat
  minute : Nat
  second : Nat
  micro : Nat
  offset : Option Offset
  deriving DecidableEq, Repr

/-- The data of a document. -/
inductive Data where
  | null
  | bool (b : Bool)
  | int (n : Int)
  | real (x : Number.Double)
  | text (s : String)
  | bytes (bs : Bytes)
  | date (d : Date)
  | time (d : Date) (t : TimeOfDay)
  | list (items : List Data)
  /-- A pair in an ordered mapping. -/
  | pair (key value : Data)
  | set (items : List Data)
  | mapping (pairs : List (Data × Data))
  deriving Inhabited

/-! ## Dates -/

def isLeap (year : Nat) : Bool := year % 4 == 0 && (year % 100 != 0 || year % 400 == 0)

def daysIn (year month : Nat) : Nat :=
  match month with
  | 2 => if isLeap year then 29 else 28
  | 4 | 6 | 9 | 11 => 30
  | _ => 31

def Date.isValid (d : Date) : Bool :=
  1 ≤ d.year && 1 ≤ d.month && d.month ≤ 12 && 1 ≤ d.day && d.day ≤ daysIn d.year d.month

/-- A day has so many minutes; an offset has less. -/
def dayMinutes : Nat := 1440

def TimeOfDay.isValid (t : TimeOfDay) : Bool :=
  t.hour < 24 && t.minute < 60 && t.second < 60 &&
    (match t.offset with | some o => o.minutes.natAbs < dayMinutes | none => true)

/-! ## Showing data -/

/-- An offset as messages show it: in days and seconds, the seconds positive. -/
def Offset.shown (o : Offset) : String :=
  if o.minutes == 0 then "datetime.timezone.utc"
  else
    let seconds := (o.minutes * 60) % 86400
    let days := if o.minutes < 0 then "days=-1, " else ""
    "datetime.timezone(datetime.timedelta(" ++ days ++ "seconds=" ++ toString seconds ++ "))"

def Date.parts (d : Date) : List String := [toString d.year, toString d.month, toString d.day]

/-- The counts of a time; zeros at the end of seconds and microseconds are left out. -/
def TimeOfDay.parts (t : TimeOfDay) : List String :=
  [toString t.hour, toString t.minute] ++
    (if t.micro != 0 then [toString t.second, toString t.micro]
    else if t.second != 0 then [toString t.second] else []) ++
    (match t.offset with | some o => ["tzinfo=" ++ o.shown] | none => [])

mutual

/-- Data as messages show it. -/
def Data.shown : Data → String
  | .null => "None"
  | .bool b => if b then "True" else "False"
  | .int n => toString n
  | .real x => x.text
  | .text s => quoted s
  | .bytes bs => quotedBytes bs
  | .date d => "datetime.date(" ++ ", ".intercalate d.parts ++ ")"
  | .time d t => "datetime.datetime(" ++ ", ".intercalate (d.parts ++ t.parts) ++ ")"
  | .list items => bracketed (shownItems items)
  | .pair k v => "(" ++ k.shown ++ ", " ++ v.shown ++ ")"
  | .set items =>
    if items.isEmpty then "set()" else "\x7b" ++ ", ".intercalate (shownItems items) ++ "\x7d"
  | .mapping pairs => "\x7b" ++ ", ".intercalate (shownPairs pairs) ++ "\x7d"

def shownItems : List Data → List String
  | [] => []
  | d :: rest => d.shown :: shownItems rest

def shownPairs : List (Data × Data) → List String
  | [] => []
  | (k, v) :: rest => (k.shown ++ ": " ++ v.shown) :: shownPairs rest

end

mutual

/-- Whether data can be shown: the integers in it are not too long to be written. -/
def Data.isShowable : Data → Bool
  | .int n => Number.isWritable n
  | .list items | .set items => allShowable items
  | .pair k v => k.isShowable && v.isShowable
  | .mapping pairs => allPairsShowable pairs
  | _ => true

def allShowable : List Data → Bool
  | [] => true
  | d :: rest => d.isShowable && allShowable rest

def allPairsShowable : List (Data × Data) → Bool
  | [] => true
  | (k, v) :: rest => k.isShowable && v.isShowable && allPairsShowable rest

end

/-- A number with zeros in front up to a width. -/
def padded (width n : Nat) : String :=
  let s := toString n
  String.ofList (List.replicate (width - s.length) '0') ++ s

/-- An offset as text: a sign, hours and minutes. -/
def Offset.asText (o : Offset) : String :=
  (if o.minutes < 0 then "-" else "+") ++ padded 2 (o.minutes.natAbs / 60) ++ ":" ++
    padded 2 (o.minutes.natAbs % 60)

def Date.asText (d : Date) : String :=
  padded 4 d.year ++ "-" ++ padded 2 d.month ++ "-" ++ padded 2 d.day

def TimeOfDay.asText (t : TimeOfDay) : String :=
  padded 2 t.hour ++ ":" ++ padded 2 t.minute ++ ":" ++ padded 2 t.second ++
    (if t.micro != 0 then "." ++ padded 6 t.micro else "") ++
    (match t.offset with | some o => o.asText | none => "")

/-- Data as text of its own: texts without quotes, dates in digits. -/
def Data.asText : Data → String
  | .text s => s
  | .date d => d.asText
  | .time d t => d.asText ++ " " ++ t.asText
  | d => d.shown

/-! ## Keys -/

/-- The value of a number or a truth value as a quotient. -/
def Data.ratio? : Data → Option (Int × Nat)
  | .bool b => some (if b then 1 else 0, 1)
  | .int n => some (n, 1)
  | .real x => if x.isUndefined || x.isInfinite then none else some x.toRatio
  | _ => none

/-- Whether two keys are one: numbers by value, whatever their type, and others as they are. -/
def Data.sameKey (a b : Data) : Bool :=
  match a.ratio?, b.ratio? with
  | some (m, d), some (n, e) => m * e == n * d
  | none, none =>
    match a, b with
    | .null, .null => true
    | .real x, .real y =>
      (x.isUndefined && y.isUndefined) ||
        (x.isInfinite && y.isInfinite && x.negative == y.negative)
    | .text s, .text t => s == t
    | .bytes s, .bytes t => s == t
    | .date d, .date e => d == e
    | .time d t, .time e u => d == e && t == u
    | _, _ => false
  | _, _ => false

/-- Whether data can be a key. -/
def Data.isKey : Data → Bool
  | .list _ | .set _ | .mapping _ => false
  | _ => true

/-- Gives a key its value, in the place that the key has. -/
def setPair (key value : Data) : List (Data × Data) → List (Data × Data)
  | [] => [(key, value)]
  | p :: rest => if p.1.sameKey key then (p.1, value) :: rest else p :: setPair key value rest

/-- The value of a text key. -/
def Data.get? (d : Data) (key : String) : Option Data :=
  match d with
  | .mapping pairs => (pairs.find? fun p => p.1.sameKey (.text key)).map (·.2)
  | _ => none

end ProtoCheck.Yaml
