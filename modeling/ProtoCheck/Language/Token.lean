import ProtoCheck.Text.Digit
import ProtoCheck.Text.Utf8

/-!
# Tokens of schema sources

A source is read octet by octet, each as the character of that code. Words, numbers, quoted texts
and single characters stand between white space and comments. Nothing stops the reading: what is
wrong with a token, or with what stands before it, is kept with the token.

* `Position`, `Position.after` : lines and columns, with tab stops at every eighth column;
* `LexicalFault` : what can be wrong;
* `lexeme` : the token at the front of a text;
* `gap` : the white space and comments at the front of a text (`rest_gap_suffix`);
* `Token`, `tokens` : the tokens of a source, the last of them the end;
* `Token.integer?`, `Token.content` : the values of numbers and quoted texts.
-/

namespace ProtoCheck.Language

open Text

/-! ## Places -/

/-- A line and a column, both counted from one. -/
structure Position where
  line : Nat
  column : Nat
  deriving DecidableEq, Repr, Inhabited

/-- The place behind a character. -/
def Position.after (p : Position) (c : Char) : Position :=
  if c == '\n' then ⟨p.line + 1, 1⟩
  else if c == '\t' then ⟨p.line, (p.column - 1) / 8 * 8 + 9⟩
  else ⟨p.line, p.column + 1⟩

/-- The place behind a text. -/
def Position.past (p : Position) (s : List Char) : Position := s.foldl Position.after p

/-! ## Faults -/

/-- What is wrong with the characters of a source. -/
inductive LexicalFault where
  | controlCharacter
  | notAscii (octet : Nat)
  | byteOrderMark
  /-- A word touches a number that begins with a point. -/
  | wordBeforePoint
  | wordAfterNumber
  | noHexDigit
  | noExponent
  | notOctal
  | secondPoint
  | pointInInteger
  | textUnclosed
  | textCrossesLine
  | escapeUnknown
  | escapeHex
  | escapeFourHex
  | escapeEightHex
  | commentNested
  | commentUnclosed
  /-- Says where a comment begins that is not closed. -/
  | commentStart
  deriving DecidableEq, Repr

def LexicalFault.message : LexicalFault → String
  | .controlCharacter => "Invalid control characters encountered in text."
  | .notAscii n => "Interpreting non ascii codepoint " ++ toString n ++ "."
  | .byteOrderMark =>
    "Proto file starts with 0xEF but not UTF-8 BOM. Only UTF-8 is accepted for proto file."
  | .wordBeforePoint => "Need space between identifier and decimal point."
  | .wordAfterNumber => "Need space between number and identifier."
  | .noHexDigit => "\"0x\" must be followed by hex digits."
  | .noExponent => "\"e\" must be followed by exponent."
  | .notOctal => "Numbers starting with leading zero must be in octal."
  | .secondPoint => "Already saw decimal point or exponent; can't have another one."
  | .pointInInteger => "Hex and octal numbers must be integers."
  | .textUnclosed => "Unexpected end of string."
  | .textCrossesLine => "String literals cannot cross line boundaries."
  | .escapeUnknown => "Invalid escape sequence in string literal."
  | .escapeHex => "Expected hex digits for escape sequence."
  | .escapeFourHex => "Expected four hex digits for \\u escape sequence."
  | .escapeEightHex => "Expected eight hex digits up to 10ffff for \\U escape sequence"
  | .commentNested => "\"/*\" inside block comment.  Block comments cannot be nested."
  | .commentUnclosed => "End-of-file inside block comment."
  | .commentStart => "  Comment started here."

/-! ## One token -/

inductive TokenKind where
  | word
  | integer
  | decimal
  | text
  | symbol
  /-- The end of the source. -/
  | stop
  deriving DecidableEq, Repr, Inhabited

/-- The kind and length of a token, and its faults by their offsets. -/
structure Lexeme where
  kind : TokenKind
  length : Nat
  faults : List (Nat × LexicalFault) := []
  deriving DecidableEq, Repr

/-- A character that begins a word. -/
def startsWord (c : Char) : Bool := c.isAlpha || c == '_'

/-- A character inside a word. -/
def isWordPart (c : Char) : Bool := c.isAlphanum || c == '_'

def isOctal (c : Char) : Bool := '0' ≤ c && c ≤ '7'

/-- The length of the longest run at the front of a text that is of a class. -/
def runLength (p : Char → Bool) (s : List Char) : Nat := (s.takeWhile p).length

/-- An exponent at the front of a text. -/
def exponent (s : List Char) : Nat × List (Nat × LexicalFault) :=
  match s with
  | e :: rest =>
    if e == 'e' || e == 'E' then
      let sign := if rest.head? == some '-' || rest.head? == some '+' then 1 else 0
      let digits := runLength isAsciiDigit (rest.drop sign)
      (1 + sign + digits, if digits = 0 then [(1 + sign, .noExponent)] else [])
    else (0, [])
  | [] => (0, [])

/-- A number at the front of a text, apart from what may not follow it. -/
def bareNumber (s : List Char) : Lexeme :=
  let base := if s.head? == some '0' then s.getD 1 ' ' else ' '
  if base == 'x' || base == 'X' then
    let digits := runLength isHex (s.drop 2)
    ⟨.integer, 2 + digits, if digits = 0 then [(2, .noHexDigit)] else []⟩
  else if isAsciiDigit base then
    let octal := runLength isOctal s
    let others := runLength isAsciiDigit (s.drop octal)
    ⟨.integer, octal + others, if others = 0 then [] else [(octal, .notOctal)]⟩
  else
    let whole := runLength isAsciiDigit s
    let fraction :=
      if (s.drop whole).head? == some '.' then 1 + runLength isAsciiDigit (s.drop (whole + 1))
      else 0
    let front := whole + fraction
    let (more, faults) := exponent (s.drop front)
    ⟨if fraction + more = 0 then .integer else .decimal, front + more,
      faults.map fun f => (front + f.1, f.2)⟩

/-- A number at the front of a text: neither a word nor a point may touch its end. -/
def number (s : List Char) : Lexeme :=
  let n := bareNumber s
  let next := (s.drop n.length).headD ' '
  let fault : List (Nat × LexicalFault) :=
    if startsWord next then [(n.length, .wordAfterNumber)]
    else if next == '.' then
      [(n.length, if n.kind == .decimal then .secondPoint else .pointInInteger)]
    else []
  { n with faults := n.faults ++ fault }

/-- How many of the tests the characters at the front of a text pass, one after the other. -/
def passed : List (Char → Bool) → List Char → Nat
  | p :: ps, c :: s => if p c then 1 + passed ps s else 0
  | _, _ => 0

/-- The characters that have to follow an escaped letter, and the fault if they do not. -/
def escapeTail : Char → List (Char → Bool) × LexicalFault
  | 'x' | 'X' => ([isHex], .escapeHex)
  | 'u' => (List.replicate 4 isHex, .escapeFourHex)
  | 'U' => ((· == '0') :: (· == '0') :: (fun c => c == '0' || c == '1') :: List.replicate 5 isHex,
      .escapeEightHex)
  | _ => ([], .escapeUnknown)

/-- A character that may stand behind a backslash. -/
def isEscape (c : Char) : Bool := "abfnrtv\\?'\"xXuU".toList.contains c || isOctal c

/-- The faults of an escape whose letter stands at `i`. -/
def escapeFaults (i : Nat) (c : Char) (rest : List Char) : List (Nat × LexicalFault) :=
  let (tests, fault) := escapeTail c
  let n := passed tests rest
  if n < tests.length then [(i + 1 + n, fault)] else []

/-- The end of a quoted text whose next character stands at `i`, and its faults. -/
def textEnd (quote : Char) (i : Nat) : List Char → Nat × List (Nat × LexicalFault)
  | [] => (i, [(i, .textUnclosed)])
  | '\\' :: c :: rest =>
    if isEscape c then
      let (n, faults) := textEnd quote (i + 2) rest
      (n, escapeFaults (i + 1) c rest ++ faults)
    else
      let (n, faults) := textEnd quote (i + 1) (c :: rest)
      (n, (i + 1, .escapeUnknown) :: faults)
  | c :: rest =>
    if c == '\x00' then (i, [(i, .textUnclosed)])
    else if c == '\n' then (i, [(i, .textCrossesLine)])
    else if c == quote then (i + 1, [])
    else if c == '\\' then (i + 1, [(i + 1, .escapeUnknown), (i + 1, .textUnclosed)])
    else textEnd quote (i + 1) rest

/-- The token at the front of `c :: rest`, where neither white space nor a comment begins. -/
def lexeme (c : Char) (rest : List Char) : Lexeme :=
  if startsWord c then ⟨.word, 1 + runLength isWordPart rest, []⟩
  else if isAsciiDigit c || (c == '.' && (rest.head?.map isAsciiDigit).getD false) then
    number (c :: rest)
  else if c == '"' || c == '\'' then
    let (n, faults) := textEnd c 1 rest
    ⟨.text, n, faults⟩
  else ⟨.symbol, 1, if 0x80 ≤ c.toNat then [(0, .notAscii c.toNat)] else []⟩

/-! ## Between tokens -/

/-- What the next character stands in. -/
inductive Surrounding where
  /-- Between tokens, perhaps in a run of control characters. -/
  | open (control : Bool)
  | lineComment
  | blockComment (start : Position)

/-- What stands before a token: the faults in it, and the place and the text behind it. -/
structure Gap where
  faults : List (Position × LexicalFault) := []
  place : Position
  rest : List Char

def Gap.add (fs : List (Position × LexicalFault)) (g : Gap) : Gap :=
  { g with faults := fs ++ g.faults }

def isSpace (c : Char) : Bool := c == ' ' || ('\t' ≤ c && c ≤ '\r')

/-- White space, comments and control characters at the front of a text. A run of control
characters is one fault, however long it is. -/
def gap (u : Surrounding) (p : Position) (s : List Char) : Gap :=
  match u, s with
  | .open _, [] | .lineComment, [] => { place := p, rest := [] }
  | .open _, '/' :: '/' :: rest => gap .lineComment (p.past ['/', '/']) rest
  | .open _, '/' :: '*' :: rest => gap (.blockComment p) (p.past ['/', '*']) rest
  | .open control, c :: rest =>
    if control && c < ' ' then gap (.open true) (p.after c) rest
    else if isSpace c then gap (.open false) (p.after c) rest
    else if c < ' ' then (gap (.open true) (p.after c) rest).add [(p, .controlCharacter)]
    else { place := p, rest := c :: rest }
  | .lineComment, c :: rest =>
    if c == '\n' then gap (.open false) (p.after c) rest
    else if c == '\x00' then (gap (.open true) (p.after c) rest).add [(p, .controlCharacter)]
    else gap .lineComment (p.after c) rest
  | .blockComment start, [] =>
    { faults := [(p, .commentUnclosed), (start, .commentStart)], place := p, rest := [] }
  | .blockComment _, '*' :: '/' :: rest => gap (.open false) (p.past ['*', '/']) rest
  | .blockComment start, '/' :: '*' :: rest =>
    (gap (.blockComment start) (p.after '/') ('*' :: rest)).add [(p.after '/', .commentNested)]
  | .blockComment start, c :: rest =>
    if c == '\x00' then
      (gap (.open true) (p.after c) rest).add
        [(p, .commentUnclosed), (start, .commentStart), (p, .controlCharacter)]
    else gap (.blockComment start) (p.after c) rest

/-- What is left behind a gap is the end of the text. -/
theorem rest_gap_suffix (u : Surrounding) (p : Position) (s : List Char) :
    (gap u p s).rest <:+ s := by
  fun_induction gap u p s with
  -- the gap ends, with the source or where a token begins
  | case1 | case2 | case8 | case12 => exact List.suffix_rfl
  -- two characters that begin or end a comment
  | case3 _ _ rest ih | case4 _ _ rest ih | case13 _ _ rest ih =>
    exact ih.trans (List.suffix_append [_, _] rest)
  -- one character between tokens
  | case5 _ _ c rest _ _ _ ih | case6 _ _ c rest _ _ _ _ ih | case7 _ _ c rest _ _ _ _ _ ih =>
    exact ih.trans (List.suffix_cons c rest)
  -- one character of a comment
  | case9 _ c rest _ ih | case10 _ c rest _ _ ih | case11 _ c rest _ _ ih =>
    exact ih.trans (List.suffix_cons c rest)
  | case14 _ _ rest ih => exact ih.trans (List.suffix_cons '/' ('*' :: rest))
  | case15 _ _ c rest _ _ _ ih | case16 _ _ c rest _ _ _ ih =>
    exact ih.trans (List.suffix_cons c rest)

/-! ## Tokens of a source -/

/-- A token, the place where it begins and the one behind it, and the faults that are found on the
way to its end. -/
structure Token where
  kind : TokenKind
  text : String
  place : Position
  stop : Position
  faults : List (Position × LexicalFault)
  deriving DecidableEq, Repr, Inhabited

/-- The fault of a number that begins with a point and touches a word. -/
def touchFault (last : Option Token) (p : Position) (c : Char) (kind : TokenKind) :
    List (Position × LexicalFault) :=
  match last with
  | some t =>
    if t.kind == .word && t.stop == p && c == '.' && kind != .symbol then [(p, .wordBeforePoint)]
    else []
  | none => []

/-- The tokens of a text that begins at `p`, behind the token `last`. -/
def tokensFrom (last : Option Token) (p : Position) (s : List Char) : List Token :=
  let g := gap (.open false) p s
  match h : g.rest with
  | [] => [⟨.stop, "", g.place, g.place, g.faults⟩]
  | c :: rest =>
    let x := lexeme c rest
    let taken := (c :: rest).take x.length
    let faults := x.faults.map fun f => (g.place.past (taken.take f.1), f.2)
    let t : Token := ⟨x.kind, String.ofList taken, g.place, g.place.past taken,
      g.faults ++ touchFault last g.place c x.kind ++ faults⟩
    t :: tokensFrom (some t) t.stop (rest.drop (x.length - 1))
termination_by s.length
decreasing_by
  have := (rest_gap_suffix (.open false) p s).length_le
  simp only [g] at h
  rw [h] at this
  simp only [List.length_cons, List.length_drop] at *
  omega

/-- The octets of a source as characters. -/
def octets (source : Bytes) : List Char := source.map fun b => Char.ofNat b.toNat

/-- The tokens of a source, the last of them the end. A byte order mark may stand in front. -/
def tokens (source : Bytes) : List Token :=
  match octets source with
  | '\xef' :: '\xbb' :: '\xbf' :: rest => tokensFrom none ⟨1, 4⟩ rest
  | '\xef' :: rest =>
    match tokensFrom none ⟨1, 2⟩ rest with
    | t :: more => { t with faults := (⟨1, 2⟩, .byteOrderMark) :: t.faults } :: more
    | [] => []
  | s => tokensFrom none ⟨1, 1⟩ s

/-! ## Values -/

/-- The value of an integer: hexadecimal behind `0x`, octal behind another zero. -/
def Token.integer? (t : Token) (limit : Nat) : Option Nat := do
  let value ← match t.text.toList with
    | '0' :: 'x' :: rest | '0' :: 'X' :: rest => some (hexNumber rest)
    | '0' :: rest => if rest.all isOctal then some (ofDigits 8 (rest.filterMap hex?)) else none
    | s => some (ofDigits 10 (s.filterMap hex?))
  if value ≤ limit then some value else none

/-- What a single letter behind a backslash stands for. -/
def escaped : Char → Char
  | 'a' => '\x07'
  | 'b' => '\x08'
  | 'f' => '\x0c'
  | 'n' => '\n'
  | 'r' => '\r'
  | 't' => '\t'
  | 'v' => '\x0b'
  | c => c

/-- The octets that a quoted text stands for, behind its opening quote. -/
def unescaped (quote : Char) (s : List Char) : List Char :=
  match s with
  | [] => []
  | '\\' :: c :: rest =>
    if isOctal c then
      let more := (rest.take 2).takeWhile isOctal
      Char.ofNat (ofDigits 8 ((c :: more).filterMap hex?) % 256) ::
        unescaped quote (rest.drop more.length)
    else if c == 'x' || c == 'X' then
      let digits := (rest.take 2).takeWhile isHex
      Char.ofNat (hexNumber digits) :: unescaped quote (rest.drop digits.length)
    else if c == 'u' || c == 'U' then
      let width := if c == 'u' then 4 else 8
      octets (Utf8.encodeChar (Char.ofNat (hexNumber (rest.take width)))) ++
        unescaped quote (rest.drop width)
    else escaped c :: unescaped quote rest
  | c :: rest => if c == quote then [] else c :: unescaped quote rest
termination_by s.length
decreasing_by all_goals simp only [List.length_drop, List.length_cons]; omega

/-- The octets that a quoted text stands for. -/
def Token.octets (t : Token) : List Char :=
  match t.text.toList with
  | quote :: rest => unescaped quote rest
  | [] => []

/-- The text of some octets, which are UTF-8 unless the source is odd. -/
def textOf (s : List Char) : String :=
  String.ofList (Utf8.decodeLossy (s.map fun c => UInt8.ofNat c.toNat))

end ProtoCheck.Language
