import ProtoCheck.Text.Blank
import ProtoCheck.Text.Digit

/-!
# Tokens of the text format

A line holds words, numbers, quoted texts and single characters; white space and comments stand
between them. No token crosses a line feed.

* `Token` : a token with its place and its line;
* `firstToken` : the longest token of its class at the front of a text, never empty;
* `tokens` : the tokens of a text, the last of them the end;
* `Cursor` : the token to read next and the one before it.
-/

namespace ProtoCheck.TextFormat

open Text

/-- A token, its place counted from zero, and the text of its line. The end has an empty text, and
an empty line. -/
structure Token where
  text : List Char
  line : Nat
  column : Nat
  lineText : List Char
  deriving DecidableEq, Repr, Inhabited

/-! ## One token -/

def isLetter (c : Char) : Bool := c.isAlpha

/-- A character inside a word. -/
def isWordTail (c : Char) : Bool := c.isAlphanum || c == '_' || c == '+' || c == '-'

/-- A character inside a number. -/
def isNumberTail (c : Char) : Bool := isWordTail c || c == '.'

/-- Whether a number starts with `c`, which stands before `rest`. -/
def startsNumber (c : Char) (rest : List Char) : Bool :=
  isAsciiDigit c || c == '+' || c == '-' ||
    (c == '.' && (rest.head?.map isAsciiDigit).getD false)

def isQuote (c : Char) : Bool := c == '"' || c == '\''

/-- What follows an opening quote up to the closing one or the end of the line. A backslash takes
the character behind it along. -/
def quotedTail (quote : Char) : List Char → List Char
  | [] => []
  | '\\' :: c :: rest => '\\' :: c :: quotedTail quote rest
  | c :: rest => if c == quote then [c] else c :: quotedTail quote rest

/-- The token at the front of `c :: rest`, where `c` is no white space. -/
def firstToken (c : Char) (rest : List Char) : List Char :=
  if isLetter c || c == '_' then c :: rest.takeWhile isWordTail
  else if startsNumber c rest then c :: rest.takeWhile isNumberTail
  else if isQuote c then c :: quotedTail c rest
  else [c]

theorem length_firstToken_pos (c : Char) (rest : List Char) : 0 < (firstToken c rest).length := by
  unfold firstToken
  split
  · simp
  · split
    · simp
    · split <;> simp

/-! ## Tokens of a text -/

/-- The tokens of the rest of a line that begins at `column`. -/
def lineTokens (line : Nat) (lineText : List Char) (column : Nat) (s : List Char) : List Token :=
  match s with
  | [] => []
  | c :: rest =>
    if isBlank c then lineTokens line lineText (column + 1) rest
    else if c == '#' then []
    else
      let t := firstToken c rest
      ⟨t, line, column, lineText⟩ ::
        lineTokens line lineText (column + t.length) ((c :: rest).drop t.length)
termination_by s.length
decreasing_by
  · simp
  · have := length_firstToken_pos c rest
    simp only [List.length_drop, List.length_cons]
    omega

/-- The tokens of lines, the first of which has number `line`, with the end behind the last. -/
def tokensFrom (line : Nat) : List (List Char) → List Token
  | [] => [⟨[], line, 0, []⟩]
  | [last] => lineTokens line last 0 last ++ [⟨[], line, last.length, []⟩]
  | first :: rest => lineTokens line first 0 first ++ tokensFrom (line + 1) rest

/-- The tokens of a text, the last of them the end. -/
def tokens (s : List Char) : List Token := tokensFrom 0 (lines s)

/-! ## Reading tokens -/

/-- The token to read next, those behind it, and the one read last. -/
structure Cursor where
  last : Token
  next : Token
  rest : List Token
  deriving Repr, Inhabited

namespace Cursor

/-- The cursor before the first token. -/
def ofText (s : List Char) : Cursor :=
  match tokens s with
  | [] => default
  | t :: rest => ⟨t, t, rest⟩

def atEnd (c : Cursor) : Bool := c.next.text.isEmpty

/-- The cursor behind the next token; it stays at the end. -/
def advance (c : Cursor) : Cursor :=
  match c.rest with
  | [] => { c with last := c.next }
  | t :: rest => ⟨c.next, t, rest⟩

/-- Whether the next token is `text`. -/
def sees (c : Cursor) (text : String) : Bool := c.next.text == text.toList

/-- The number of tokens from the next one on. -/
def size (c : Cursor) : Nat := c.rest.length + 1

end Cursor

end ProtoCheck.TextFormat
