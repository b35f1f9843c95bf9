import ProtoCheck.Text.Digit
import ProtoCheck.Text.Quoted
import ProtoCheck.Yaml.Source

/-!
# Scalars of YAML

The texts of scalars, with line breaks folded and escapes taken out.

* `quotedScalar` : in single or double quotes;
* `blockScalar` : behind a bar or an angle;
* `plainScalar` : without any mark.

The loops are bounded by fuel: the number of characters left is enough.
-/

namespace ProtoCheck.Yaml

open Text

abbrev Scan (α : Type) : Type := Attempt α

/-- An error while something that begins at `start` is scanned. -/
def scanError {α : Type} (context : String) (start : Mark) (problem : String) (c : Cursor) :
    Scan α :=
  .error (.error ⟨.scanner, some context, some start, problem, some c.mark⟩)

/-- A character as messages show it. -/
def shown (c : Char) : String := quoted c.toString

/-! ## In quotes -/

/-- The character of an escape by one letter. -/
def escapeLetter? (c : Char) : Option Char :=
  match c with
  | '0' => some '\x00'
  | 'a' => some '\x07'
  | 'b' => some '\x08'
  | 't' | '\t' => some '\t'
  | 'n' => some '\n'
  | 'v' => some '\x0b'
  | 'f' => some '\x0c'
  | 'r' => some '\r'
  | 'e' => some '\x1b'
  | ' ' => some ' '
  | '"' => some '"'
  | '\\' => some '\\'
  | '/' => some '/'
  | 'N' => some '\x85'
  | '_' => some '\xa0'
  | 'L' => some '\u2028'
  | 'P' => some '\u2029'
  | _ => none

/-- The number of digits of an escape by code point. -/
def escapeDigits? (c : Char) : Option Nat :=
  match c with
  | 'x' => some 2
  | 'u' => some 4
  | 'U' => some 8
  | _ => none

/-- Line breaks and blanks, of which the breaks count. -/
def foldedBreaks (start : Mark) : Nat → Cursor → Scan (List Char × Cursor)
  | 0, c => .ok ([], c)
  | fuel + 1, c =>
    if c.atDivider then
      scanError "while scanning a quoted scalar" start "found unexpected document separator" c
    else
      let c := c.skipWhile fun a => a == ' ' || a == '\t'
      if isLineBreak c.peek then do
        let (b, c) := c.lineBreak
        let (more, c) ← foldedBreaks start fuel c
        return (b ++ more, c)
      else return ([], c)

/-- A line break with what follows it, folded: a single line feed becomes a blank. -/
def folded (first breaks : List Char) : List Char :=
  if first != ['\n'] then first ++ breaks else if breaks.isEmpty then [' '] else breaks

/-- The blanks and line breaks inside quotes. -/
def quotedSpaces (start : Mark) (fuel : Nat) (c : Cursor) : Scan (List Char × Cursor) := do
  let (blanks, c) := c.splitWhile fun a => a == ' ' || a == '\t'
  if c.rest.isEmpty then
    scanError "while scanning a quoted scalar" start "found unexpected end of stream" c
  else if isLineBreak c.peek then
    let (first, c) := c.lineBreak
    let (breaks, c) ← foldedBreaks start fuel c
    return (folded first breaks, c)
  else return (blanks, c)

/-- The first number beyond all code points. -/
def codePointEnd : Nat := 0x110000

/-- The first number that is too great to be looked at as a code point. -/
def codePointLimit : Nat := 0x80000000

/-- The character of a code point. Surrogates, which are no characters, are read as NUL. -/
def codePoint (n : Nat) : Scan Char :=
  if n < codePointEnd then .ok (Char.ofNat n)
  else if n < codePointLimit then breakdown .yamlValue
  else breakdown .yamlRange

/-- An escape behind its backslash. -/
def escape (start : Mark) (fuel : Nat) (c : Cursor) : Scan (List Char × Cursor) :=
  let context := "while scanning a double-quoted scalar"
  let a := c.peek
  match escapeLetter? a, escapeDigits? a with
  | some b, _ => .ok ([b], c.next)
  | none, some n =>
    let c := c.next
    let ds := (c.rest.take n).takeWhile isHex
    if ds.length < n then
      scanError context start ("expected escape sequence of " ++ toString n ++
        " hexadecimal numbers, but found " ++ shown (c.peekAt ds.length)) c
    else (codePoint (hexNumber ds)).map fun b => ([b], c.forward n)
  | none, none =>
    if isLineBreak a then foldedBreaks start fuel c.lineBreak.2
    else scanError context start ("found unknown escape character " ++ shown a) c

/-- The text inside quotes up to a blank, a line break or the closing quote. -/
def quotedText (double : Bool) (start : Mark) : Nat → Cursor → Scan (List Char × Cursor)
  | 0, c => .ok ([], c)
  | fuel + 1, c => do
    let (run, c) := c.splitWhile fun a =>
      !(a == '\'' || a == '"' || a == '\\' || isWideGap a)
    let a := c.peek
    if !double && a == '\'' && c.peekAt 1 == '\'' then
      let (more, c) ← quotedText double start fuel (c.forward 2)
      return (run ++ '\'' :: more, c)
    else if (double && a == '\'') || (!double && (a == '"' || a == '\\')) then
      let (more, c) ← quotedText double start fuel c.next
      return (run ++ a :: more, c)
    else if double && a == '\\' then
      let (out, c) ← escape start fuel c.next
      let (more, c) ← quotedText double start fuel c
      return (run ++ out ++ more, c)
    else return (run, c)

/-- The rest of a scalar in quotes, behind a part without blanks. -/
def quotedRest (double : Bool) (start : Mark) : Nat → Cursor → Scan (List Char × Cursor)
  | 0, c => .ok ([], c)
  | fuel + 1, c =>
    if c.peek == (if double then '"' else '\'') then .ok ([], c.next)
    else do
      let (spaces, c) ← quotedSpaces start fuel c
      let (text, c) ← quotedText double start fuel c
      let (more, c) ← quotedRest double start fuel c
      return (spaces ++ text ++ more, c)

/-- A scalar in quotes. -/
def quotedScalar (double : Bool) (c : Cursor) : Scan (List Char × Cursor) := do
  let start := c.mark
  let fuel := c.rest.length + 1
  let (text, c) ← quotedText double start fuel c.next
  let (more, c) ← quotedRest double start fuel c
  return (text ++ more, c)

/-! ## Blocks -/

/-- What becomes of the line breaks at the end of a block. -/
inductive Chomping where
  | clip
  | strip
  | keep
  deriving DecidableEq, Repr

/-- A sign that says how to chomp. -/
def chomping? (c : Char) : Option Chomping :=
  if c == '+' then some .keep else if c == '-' then some .strip else none

/-- An indentation from one to nine. -/
def increment? (start : Mark) (c : Cursor) : Scan (Option Nat × Cursor) :=
  let a := c.peek
  if !isAsciiDigit a then .ok (none, c)
  else if a == '0' then
    scanError "while scanning a block scalar" start
      "expected indentation indicator in the range 1-9, but found 0" c
  else .ok (some (a.toNat - '0'.toNat), c.next)

/-- The signs at the head of a block, in either order. -/
def blockSigns (start : Mark) (c : Cursor) : Scan ((Chomping × Option Nat) × Cursor) := do
  let (found, c) ← match chomping? c.peek with
    | some chomping => do
      let (n, c) ← increment? start c.next
      pure ((chomping, n), c)
    | none => do
      let (n, c) ← increment? start c
      match (if n.isSome then chomping? c.peek else none) with
      | some chomping => pure ((chomping, n), c.next)
      | none => pure ((Chomping.clip, n), c)
  if isGap c.peek then return (found, c)
  else
    scanError "while scanning a block scalar" start
      ("expected chomping or indentation indicators, but found " ++ shown c.peek) c

/-- The cursor behind the rest of a line, which holds blanks and a comment at most. -/
def ignoredLine (context : String) (start : Mark) (c : Cursor) : Scan Cursor :=
  let c := c.skipBlanks
  let c := if c.peek == '#' then c.skipLine else c
  if isLineEnd c.peek then .ok c.lineBreak.2
  else
    scanError context start
      ("expected a comment or a line break, but found " ++ shown c.peek) c

/-- Empty lines in front of a block of unknown indentation: their breaks, the greatest column on
them, and the end of the last of them. -/
def leadingLines : Nat → Nat → Mark → Cursor → (List Char × Nat × Mark × Cursor)
  | 0, widest, stop, c => ([], widest, stop, c)
  | fuel + 1, widest, stop, c =>
    if isLineBreak c.peek then
      let (b, c) := c.lineBreak
      let (more, rest) := leadingLines fuel widest c.mark c
      (b ++ more, rest)
    else if c.peek == ' ' then
      let c := c.next
      leadingLines fuel (max widest c.column) stop c
    else ([], widest, stop, c)

/-- The cursor behind blanks, up to a column. -/
def skipIndent (indent : Nat) : Nat → Cursor → Cursor
  | 0, c => c
  | fuel + 1, c => if c.column < indent && c.peek == ' ' then skipIndent indent fuel c.next else c

/-- Empty lines in a block: their breaks and the end of the last of them. -/
def blockBreaks (indent : Nat) : Nat → Mark → Cursor → (List Char × Mark × Cursor)
  | 0, stop, c => ([], stop, c)
  | fuel + 1, stop, c =>
    let c := skipIndent indent fuel c
    if isLineBreak c.peek then
      let (b, c) := c.lineBreak
      let (more, rest) := blockBreaks indent fuel c.mark c
      (b ++ more, rest)
    else ([], stop, c)

/-- The lines of a block from one on, `breaks` being the empty lines before it. The parts of the
result are the text, the last line break, the empty lines behind it, and the end. -/
def blockLines (fold : Bool) (indent : Nat) :
    Nat → (breaks : List Char) → (lastBreak : List Char) → Mark → Cursor →
      (List Char × List Char × List Char × Mark × Cursor)
  | 0, breaks, lastBreak, stop, c => ([], lastBreak, breaks, stop, c)
  | fuel + 1, breaks, lastBreak, stop, c =>
    if c.column == indent && !c.rest.isEmpty then
      let isText := fun a : Char => a != ' ' && a != '\t'
      let leading := isText c.peek
      let (line, c) := c.splitWhile (!isLineEnd ·)
      let (lastBreak, c) := c.lineBreak
      let (after, stop, c) := blockBreaks indent (c.rest.length + 1) c.mark c
      if c.column == indent && !c.rest.isEmpty then
        let glue :=
          if fold && lastBreak == ['\n'] && leading && isText c.peek then
            if after.isEmpty then [' '] else []
          else lastBreak
        let (more, rest) := blockLines fold indent fuel after lastBreak stop c
        (breaks ++ line ++ glue ++ more, rest)
      else (breaks ++ line, lastBreak, after, stop, c)
    else ([], lastBreak, breaks, stop, c)

/-- A block scalar below an indentation: its text, its end and the cursor behind it. -/
def blockScalar (fold : Bool) (parent : Int) (c : Cursor) : Scan (List Char × Mark × Cursor) := do
  let start := c.mark
  let fuel := c.rest.length + 1
  let ((chomping, increment), c) ← blockSigns start c.next
  let c ← ignoredLine "while scanning a block scalar" start c
  let least := (max (parent + 1) 1).toNat
  let (indent, breaks, stop, c) := match increment with
    | none =>
      let (breaks, widest, stop, c) := leadingLines fuel 0 c.mark c
      (max least widest, breaks, stop, c)
    | some n =>
      let indent := least + n - 1
      let (breaks, stop, c) := blockBreaks indent fuel c.mark c
      (indent, breaks, stop, c)
  let (text, lastBreak, after, stop, c) := blockLines fold indent fuel breaks [] stop c
  let tail := match chomping with
    | .clip => lastBreak
    | .strip => []
    | .keep => lastBreak ++ after
  return (text ++ tail, stop, c)

/-! ## Plain -/

def isFlowMark (c : Char) : Bool := c == ',' || c == '[' || c == ']' || c == '\x7b' || c == '\x7d'

/-- The part of a plain scalar up to a blank, a line break, a colon that separates or, in a flow
collection, one of its marks. -/
def plainRun (flow : Bool) : List Char → List Char
  | [] => []
  | a :: rest =>
    let b := rest.headD endMark
    if isWideGap a || (a == ':' && (isWideGap b || (flow && isFlowMark b))) ||
        (flow && (isFlowMark a || a == '?')) then []
    else a :: plainRun flow rest

/-- The empty lines in a plain scalar; nothing when a line that divides documents follows. -/
def plainBreaks : Nat → Cursor → Option (List Char) × Cursor
  | 0, c => (some [], c)
  | fuel + 1, c =>
    if c.peek == ' ' then plainBreaks fuel c.next
    else if isLineBreak c.peek then
      let (b, c) := c.lineBreak
      if c.atDivider then (none, c)
      else
        let (more, c) := plainBreaks fuel c
        (more.map (b ++ ·), c)
    else (some [], c)

/-- The blanks and line breaks in a plain scalar, folded, whether there is a line break among them,
and the cursor behind them. -/
def plainSpaces (c : Cursor) : List Char × Bool × Cursor :=
  let (blanks, c) := c.splitWhile (· == ' ')
  if isLineBreak c.peek then
    let (first, c) := c.lineBreak
    if c.atDivider then ([], true, c)
    else
      let (breaks, c) := plainBreaks (c.rest.length + 1) c
      ((breaks.map (folded first)).getD [], true, c)
  else (blanks, false, c)

/-- A plain scalar from one of its parts on, `spaces` standing before it. The result holds the
text, its end, whether the cursor stands behind a line break, and the cursor. -/
def plainParts (flow : Bool) (indent : Int) :
    Nat → (spaces : List Char) → Bool → Mark → Cursor → (List Char × Mark × Bool × Cursor)
  | 0, _, broken, stop, c => ([], stop, broken, c)
  | fuel + 1, spaces, broken, stop, c =>
    let run := if c.peek == '#' then [] else plainRun flow c.rest
    if run.isEmpty then ([], stop, broken, c)
    else
      let c := c.forward run.length
      let stop := c.mark
      let (after, broken, c) := plainSpaces c
      if after.isEmpty || c.peek == '#' || (!flow && (c.column : Int) < indent) then
        (spaces ++ run, stop, broken, c)
      else
        let (more, rest) := plainParts flow indent fuel after broken stop c
        (spaces ++ run ++ more, rest)

/-- A plain scalar below an indentation. -/
def plainScalar (flow : Bool) (parent : Int) (c : Cursor) : List Char × Mark × Bool × Cursor :=
  plainParts flow (parent + 1) (c.rest.length + 1) [] false c.mark c

end ProtoCheck.Yaml
