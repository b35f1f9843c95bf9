import ProtoCheck.Failure

/-!
# Places in a YAML text

* `Mark` : a place, `Mark.shown` : with its line of text and a caret below;
* `YamlError` : what is wrong with a text, `YamlError.message` in words;
* `Problem` : an error of the text or a breakdown;
* `Cursor` : the text from a place on (`peek`, `peekAt`, `next`, `forward`, `splitWhile`).
-/

namespace ProtoCheck.Yaml

/-! ## Marks and errors -/

/-- A place in a text, counted from zero. -/
structure Mark where
  index : Nat
  line : Nat
  column : Nat
  deriving DecidableEq, Repr, Inhabited

/-- What stands for the end of the text. -/
def endMark : Char := '\x00'

/-- A line break. -/
def isLineBreak (c : Char) : Bool :=
  c == '\r' || c == '\n' || c == '\x85' || c == '\u2028' || c == '\u2029'

/-- A line break or the end. -/
def isLineEnd (c : Char) : Bool := isLineBreak c || c == endMark

/-- A blank, a line break or the end. -/
def isGap (c : Char) : Bool := isLineEnd c || c == ' '

/-- A blank, a tab, a line break or the end. -/
def isWideGap (c : Char) : Bool := isGap c || c == '\t'

/-- The most characters that are shown on either side of a place. -/
def shownReach : Nat := 36

/-- What is shown of a line on one side of a place: all of it, or the part that is near and a mark
that there is more. -/
def nearPart (part : List Char) : List Char × Bool :=
  if shownReach < part.length then (part.take (shownReach + 1 - 5), true) else (part, false)

/-- A place with its line of text, indented, and a caret below it. -/
def Mark.shown (text : List Char) (m : Mark) : String :=
  let (before, cutLeft) := nearPart (((text.take m.index).reverse).takeWhile (!isLineEnd ·))
  let (after, cutRight) := nearPart ((text.drop m.index).takeWhile (!isLineEnd ·))
  let mark := " ... "
  let head := if cutLeft then mark else ""
  let tail := if cutRight then mark else ""
  let blanks := fun n : Nat => String.ofList (List.replicate n ' ')
  "  in \"<unicode string>\", line " ++ toString (m.line + 1) ++ ", column " ++
    toString (m.column + 1) ++ ":\n" ++ blanks 4 ++ head ++ String.ofList before.reverse ++
    String.ofList after ++ tail ++ "\n" ++ blanks (4 + before.length + head.length) ++ "^"

/-- What is wrong with a text: a problem at a place, and what was being read from another place
on. -/
structure YamlError where
  kind : YamlErrorKind
  context : Option String := none
  contextMark : Option Mark := none
  problem : String
  problemMark : Option Mark := none
  deriving DecidableEq, Repr

/-- An error in words. The first place is left out where it is the second one. -/
def YamlError.message (text : List Char) (e : YamlError) : String :=
  let contextMark := e.contextMark.filter fun m =>
    e.problemMark.map (fun p => (p.line, p.column)) != some (m.line, m.column)
  "\n".intercalate (e.context.toList ++ (contextMark.map (Mark.shown text)).toList ++ [e.problem] ++
    (e.problemMark.map (Mark.shown text)).toList)

/-- Why a text has no nodes, or a node no data. -/
inductive Problem where
  | error (e : YamlError)
  | breakdown (b : Breakdown)
  deriving DecidableEq, Repr

/-- What is made of a text or of a node, or the problem with it. -/
abbrev Attempt (α : Type) : Type := Except Problem α

def breakdown {α : Type} (b : Breakdown) : Attempt α := .error (.breakdown b)

/-! ## Cursors -/

/-- The text from a place on. -/
structure Cursor where
  rest : List Char
  index : Nat := 0
  line : Nat := 0
  column : Nat := 0
  deriving Inhabited

namespace Cursor

def mark (c : Cursor) : Mark := ⟨c.index, c.line, c.column⟩

/-- The character `k` places ahead. -/
def peekAt (c : Cursor) (k : Nat) : Char := c.rest.getD k endMark

/-- The next character. -/
def peek (c : Cursor) : Char := c.rest.headD endMark

/-- The cursor behind the next character. A line break begins a new line, but a carriage return
only where no line feed follows; a byte order mark takes no column. -/
def next (c : Cursor) : Cursor :=
  match c.rest with
  | [] => c
  | a :: rest =>
    if isLineBreak a && !(a == '\r' && rest.head? == some '\n') then
      ⟨rest, c.index + 1, c.line + 1, 0⟩
    else if a == '\uFEFF' then ⟨rest, c.index + 1, c.line, c.column⟩
    else ⟨rest, c.index + 1, c.line, c.column + 1⟩

/-- The cursor behind `n` characters. -/
def forward : Nat → Cursor → Cursor
  | 0, c => c
  | n + 1, c => forward n c.next

/-- The longest run of characters of a kind, none of them the end, and the cursor behind it. -/
def splitWhile (p : Char → Bool) (c : Cursor) : List Char × Cursor :=
  let run := c.rest.takeWhile p
  (run, c.forward run.length)

/-- The cursor behind the characters of a kind. -/
def skipWhile (p : Char → Bool) (c : Cursor) : Cursor := (c.splitWhile p).2

/-- The cursor behind blanks. -/
def skipBlanks (c : Cursor) : Cursor := c.skipWhile (· == ' ')

/-- The cursor at the end of the line. -/
def skipLine (c : Cursor) : Cursor := c.skipWhile (!isLineEnd ·)

/-- The line break that is next, as it counts in a text, and the cursor behind it; nothing where
none is next. -/
def lineBreak (c : Cursor) : List Char × Cursor :=
  match c.rest with
  | '\r' :: '\n' :: _ => (['\n'], c.forward 2)
  | a :: _ =>
    if a == '\r' || a == '\n' || a == '\x85' then (['\n'], c.next)
    else if isLineBreak a then ([a], c.next)
    else ([], c)
  | [] => ([], c)

/-- Whether a line of three marks that divides documents is next. -/
def atDivider (c : Cursor) : Bool :=
  let three := c.rest.take 3
  (three == ['-', '-', '-'] || three == ['.', '.', '.']) && isWideGap (c.peekAt 3)

end Cursor

end ProtoCheck.Yaml
