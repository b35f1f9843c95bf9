import ProtoCheck.Text.Base64
import ProtoCheck.Text.Breaks
import ProtoCheck.Yaml.Data
import ProtoCheck.Yaml.Source

/-!
# The data of scalars

* `Problem.plain`, `Problem.within` : why a node has no data;
* `intOf`, `floatOf`, `binaryOf`, `timestampOf` : the data of a text by its type;
* `scalarData` : the data of a text by its tag.
-/

namespace ProtoCheck.Yaml

open Text Number

namespace Problem

/-- What stands at a place cannot be made into data. -/
def plain (problem : String) (place : Mark) : Problem :=
  .error { kind := .constructor, problem := problem, problemMark := some place }

/-- The same, while something that begins at another place is made. -/
def within (context : String) (start : Mark) (problem : String) (place : Mark) : Problem :=
  .error ⟨.constructor, some context, some start, problem, some place⟩

end Problem

/-! ## Numbers -/

/-- Whether a text has a minus in front, and the text behind its sign. An empty one has no sign to
look at. -/
def signed? (s : List Char) : Option (Bool × List Char) :=
  match s with
  | [] => none
  | '-' :: rest => some (true, rest)
  | '+' :: rest => some (false, rest)
  | s => some (false, s)

/-- The sum of parts in base sixty, the last one counting once. -/
def sexagesimal (parts : List Int) : Int := parts.foldl (fun n d => n * 60 + d) 0

/-- A text without underscores and sign as an integer. -/
def unsignedInt (s : List Char) : Attempt Int :=
  let need := fun n : Option Int =>
    match n with
    | some n => Except.ok n
    | none => breakdown .yamlValue
  match s with
  | [] => breakdown .yamlEmpty
  | ['0'] => .ok 0
  | '0' :: 'b' :: rest => need (integer? 2 rest)
  | '0' :: 'x' :: rest => need (integer? 16 rest)
  | '0' :: _ => need (integer? 8 s)
  | _ =>
    if s.contains ':' then need (((pieces (· == ':') s).mapM (integer? 10)).map sexagesimal)
    else need (integer? 10 s)

def withoutRules (s : List Char) : List Char := s.filter (· != '_')

/-- A text as an integer. -/
def intOf (s : List Char) : Attempt Data :=
  match signed? (withoutRules s) with
  | none => breakdown .yamlEmpty
  | some (negative, s) => (unsignedInt s).map fun n => .int (if negative then -n else n)

/-- The sum of real parts in base sixty, the last part first, each rounded on the way. A power of
sixty has to be within the range of reals. -/
def realSexagesimal (power : Nat) (sum : Double) : List Double → Attempt Double
  | [] => .ok sum
  | x :: rest =>
    let factor := Double.ofNat power
    if factor.isInfinite then breakdown .yamlRange
    else realSexagesimal (power * 60) (sum.add (x.mul factor)) rest

/-- A text without underscores and sign as a real. -/
def unsignedFloat (s : List Char) : Attempt Double :=
  if s == ".inf".toList then .ok (Double.infinity false)
  else if s == ".nan".toList then .ok Double.undefined
  else if s.contains ':' then
    match (pieces (· == ':') s).mapM real? with
    | some parts => realSexagesimal 1 ⟨false, 0⟩ parts.reverse
    | none => breakdown .yamlValue
  else
    match real? s with
    | some x => .ok x
    | none => breakdown .yamlValue

/-- A text as a real. -/
def floatOf (s : List Char) : Attempt Data :=
  match signed? (lower (withoutRules s)) with
  | none => breakdown .yamlEmpty
  | some (negative, s) => (unsignedFloat s).map fun x => .real (if negative then x.neg else x)

/-! ## Other types -/

/-- A text in any case as a truth value. -/
def boolOf (s : List Char) : Attempt Data :=
  let word := String.ofList (lower s)
  if ["yes", "true", "on"].contains word then .ok (.bool true)
  else if ["no", "false", "off"].contains word then .ok (.bool false)
  else breakdown .yamlKey

/-- A character by its code. -/
def charCode (c : Char) : String :=
  let n := c.toNat
  if n < 0x100 then "\\x" ++ hexText 2 n
  else if n < 0x10000 then "\\u" ++ hexText 4 n
  else "\\U" ++ hexText 8 n

/-- The first characters beyond ASCII of a text, and where they stand. -/
def notAscii (s : List Char) : Option String :=
  let isAscii := fun c : Char => c.toNat < 0x80
  let before := (s.takeWhile isAscii).length
  match (s.drop before).takeWhile (!isAscii ·) with
  | [] => none
  | [c] => some ("character '" ++ charCode c ++ "' in position " ++ toString before)
  | more =>
    some ("characters in position " ++ toString before ++ "-" ++
      toString (before + more.length - 1))

/-- A text in base 64, at a place. -/
def binaryOf (s : List Char) (place : Mark) : Attempt Data :=
  match notAscii s with
  | some found =>
    .error (.plain ("failed to convert base64 data into ascii: 'ascii' codec can't encode " ++
      found ++ ": ordinal not in range(128)") place)
  | none =>
    match Base64.decode s with
    | .ok bs => .ok (.bytes bs)
    | .error e => .error (.plain ("failed to decode base64 data: " ++ e.message) place)

/-- The digits of a fraction of a second as microseconds; digits beyond the sixth are left out. -/
def microseconds (fraction : List Char) : Nat :=
  let ds := fraction.take 6
  ((number? ds).getD 0) * Nat.pow 10 (6 - ds.length)

/-- The data of a timestamp's parts, if there is such a date and such a time. -/
def Stamp.data? (t : Stamp) : Option Data :=
  let d : Date := ⟨t.year, t.month, t.day⟩
  match t.clock with
  | none => if d.isValid then some (.date d) else none
  | some c =>
    let time : TimeOfDay := ⟨c.hour, c.minute, c.second, microseconds c.fraction, c.offset⟩
    if d.isValid && time.isValid then some (.time d time) else none

/-- A text as a date, or as a date with a time; a line feed may stand behind it. -/
def timestampOf (s : List Char) : Attempt Data :=
  match stamp? (if s.getLast? == some '\n' then s.dropLast else s) with
  | none => breakdown .yamlForm
  | some t =>
    match t.data? with
    | some d => .ok d
    | none => breakdown .yamlValue

/-! ## By tag -/

/-- Whether a tag stands for a type of scalars. -/
def isScalarTag (tag : String) : Bool :=
  [Tag.null, Tag.bool, Tag.int, Tag.float, Tag.binary, Tag.timestamp, Tag.str].contains tag

/-- Whether a tag stands for a type of collections. -/
def isCollectionTag (tag : String) : Bool :=
  [Tag.seq, Tag.map, Tag.set, Tag.omap, Tag.pairs].contains tag

/-- A tag that stands for no type. -/
def unknownTag (tag : String) (place : Mark) : Problem :=
  .plain ("could not determine a constructor for the tag " ++ quoted tag) place

/-- The data of a text with a tag of scalars, at a place. -/
def scalarData (tag text : String) (place : Mark) : Attempt Data :=
  let s := text.toList
  if tag == Tag.null then .ok .null
  else if tag == Tag.bool then boolOf s
  else if tag == Tag.int then intOf s
  else if tag == Tag.float then floatOf s
  else if tag == Tag.binary then binaryOf s place
  else if tag == Tag.timestamp then timestampOf s
  else .ok (.text text)

end ProtoCheck.Yaml
