import ProtoCheck.Text.Blank

/-!
# Line boundaries

* `splitLines` : the lines of a text, cut at every line boundary of Unicode, a final boundary
  opening no line;
* `unifyBreaks` : every carriage return, alone or before a line feed, becomes a line feed.
-/

namespace ProtoCheck.Text

/-- Whether the character ends a line. -/
def isBreak (c : Char) : Bool :=
  let n := c.toNat
  (10 ≤ n && n ≤ 13) || (0x1C ≤ n && n ≤ 0x1E) || n == 0x85 || n == 0x2028 || n == 0x2029

/-- A text with a line feed for each carriage return and for each carriage return with the line
feed after it. -/
def unifyBreaks : List Char → List Char
  | '\r' :: '\n' :: rest => '\n' :: unifyBreaks rest
  | '\r' :: rest => '\n' :: unifyBreaks rest
  | c :: rest => c :: unifyBreaks rest
  | [] => []

/-- The lines of a text; a carriage return with a line feed after it is one boundary. -/
def splitLines (s : List Char) : List (List Char) :=
  let ps := pieces isBreak (unifyBreaks s)
  if ps.getLast? == some [] then ps.dropLast else ps

end ProtoCheck.Text
