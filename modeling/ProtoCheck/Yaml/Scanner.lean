import ProtoCheck.Yaml.Name

/-!
# The tokens of a YAML text

Tokens are found one after the other. A token may turn out to be a key only when the colon behind
it is found; the mark of a key is then put in front of it. Until that is settled, neither the token
nor any behind it can be handed on.

* `SimpleKey` : a token that may be a key;
* `Scanner`, `Scanner.fetch` : the tokens found so far, and finding more;
* `Tokens`, `Tokens.ofText` : the tokens of a text that can be handed on, and the error behind them.
-/

namespace ProtoCheck.Yaml

/-- A token that may be a key: its number, whether it has to be one, and where it stands. -/
structure SimpleKey where
  number : Nat
  required : Bool
  mark : Mark
  deriving Repr

/-- The tokens found so far, what comes next, and the collections that are open: the number of flow
collections, and the columns of the block collections. -/
structure Scanner where
  cursor : Cursor
  tokens : Array Token := #[]
  flow : Int := 0
  indent : Int := -1
  outer : List Int := []
  /-- Whether a key may begin here. -/
  keyAllowed : Bool := true
  /-- The possible keys, by the number of open flow collections. -/
  keys : List (Int × SimpleKey) := []
  done : Bool := false

namespace Scanner

/-- The farthest that a colon may stand behind the key it belongs to. -/
def keyReach : Nat := 1024

def mark (s : Scanner) : Mark := s.cursor.mark

def inFlow (s : Scanner) : Bool := s.flow != 0

/-! ## Adding tokens -/

def push (s : Scanner) (kind : TokenKind) (start stop : Mark) : Scanner :=
  { s with tokens := s.tokens.push ⟨kind, start, stop⟩ }

/-- A token without extent at the cursor. -/
def pushHere (s : Scanner) (kind : TokenKind) : Scanner := s.push kind s.mark s.mark

/-- A token of `n` characters. -/
def pushNext (s : Scanner) (kind : TokenKind) (n : Nat) : Scanner :=
  let c := s.cursor.forward n
  { s.push kind s.mark c.mark with cursor := c }

/-- A token without extent in front of the one of a number. -/
def insert (s : Scanner) (number : Nat) (kind : TokenKind) (m : Mark) : Scanner :=
  { s with tokens := (s.tokens.extract 0 number).push ⟨kind, m, m⟩ ++
      s.tokens.extract number s.tokens.size }

/-! ## Possible keys -/

def keyError {α : Type} (s : Scanner) (k : SimpleKey) : Scan α :=
  scanError "while scanning a simple key" k.mark "could not find expected ':'" s.cursor

/-- Drops the keys that are too far behind. -/
def dropStale (s : Scanner) : Scan Scanner :=
  let isStale := fun k : Int × SimpleKey =>
    k.2.mark.line != s.cursor.line || keyReach < s.cursor.index - k.2.mark.index
  match s.keys.find? fun k => isStale k && k.2.required with
  | some k => s.keyError k.2
  | none => .ok { s with keys := s.keys.filter fun k => !isStale k }

/-- Drops the key of the innermost collection. -/
def dropKey (s : Scanner) : Scan Scanner :=
  match s.keys.lookup s.flow with
  | some k =>
    if k.required then s.keyError k
    else .ok { s with keys := s.keys.filter fun k => k.1 != s.flow }
  | none => .ok s

/-- The next token may be a key. -/
def saveKey (s : Scanner) : Scan Scanner := do
  let required := !s.inFlow && s.indent == s.cursor.column
  if s.keyAllowed then
    let s ← s.dropKey
    return { s with keys := s.keys ++ [(s.flow, ⟨s.tokens.size, required, s.mark⟩)] }
  else return s

/-- The number of the first token that may be a key. -/
def firstKey? (s : Scanner) : Option Nat := (s.keys.map fun k => k.2.number).min?

/-! ## Block collections -/

/-- Closes the block collections that are indented by more than a column. -/
def unwind (column : Int) : Nat → Scanner → Scanner
  | 0, s => s
  | fuel + 1, s =>
    if s.inFlow || s.indent ≤ column then s
    else
      unwind column fuel
        { s.pushHere .blockEnd with indent := s.outer.headD (-1), outer := s.outer.tail }

/-- Closes the block collections to the right of a column. -/
def close (s : Scanner) (column : Int) : Scanner := unwind column (s.outer.length + 1) s

/-- Opens a block collection at a column, unless one is open there. -/
def addIndent (s : Scanner) (column : Int) : Option Scanner :=
  if s.indent < column then some { s with indent := column, outer := s.indent :: s.outer } else none

/-- Opens a block collection at the cursor, unless one is open there. -/
def openBlock (s : Scanner) (kind : TokenKind) : Scanner :=
  match s.addIndent s.cursor.column with
  | some s => s.pushHere kind
  | none => s

/-! ## Finding tokens -/

/-- The cursor at the next token, and whether a line break has been passed. -/
def toNextToken : Nat → Cursor → Bool × Cursor
  | 0, c => (false, c)
  | fuel + 1, c =>
    let c := c.skipBlanks
    let c := if c.peek == '#' then c.skipLine else c
    if isLineBreak c.peek then (true, (toNextToken fuel c.lineBreak.2).2) else (false, c)

/-- The scanner at the next token; a key may begin on a new line of a block. -/
def skipGap (s : Scanner) : Scanner :=
  let c := s.cursor
  let c := if c.index == 0 && c.peek == '\uFEFF' then c.next else c
  let (broken, c) := toNextToken (c.rest.length + 1) c
  { s with cursor := c, keyAllowed := s.keyAllowed || (broken && !s.inFlow) }

/-- Refuses what may not stand here. -/
def notAllowed {α : Type} (s : Scanner) (problem : String) : Scan α :=
  .error (.error ⟨.scanner, none, none, problem, some s.mark⟩)

def fetchEnd (s : Scanner) : Scan Scanner := do
  let s ← (s.close (-1)).dropKey
  return { s.pushHere .streamEnd with keyAllowed := false, keys := [], done := true }

def fetchDirective (s : Scanner) : Scan Scanner := do
  let s ← (s.close (-1)).dropKey
  let (v, stop, c) ← scanDirective s.cursor
  return { s.push (.directive v) s.mark stop with cursor := c, keyAllowed := false }

def fetchDivider (s : Scanner) (kind : TokenKind) : Scan Scanner := do
  let s ← (s.close (-1)).dropKey
  return { s.pushNext kind 3 with keyAllowed := false }

def fetchFlowStart (s : Scanner) (kind : TokenKind) : Scan Scanner := do
  let s ← s.saveKey
  return { s.pushNext kind 1 with flow := s.flow + 1, keyAllowed := true }

def fetchFlowEnd (s : Scanner) (kind : TokenKind) : Scan Scanner := do
  let s ← s.dropKey
  return { s.pushNext kind 1 with flow := s.flow - 1, keyAllowed := false }

def fetchFlowEntry (s : Scanner) : Scan Scanner := do
  let s ← s.dropKey
  return { s.pushNext .flowEntry 1 with keyAllowed := true }

def fetchBlockEntry (s : Scanner) : Scan Scanner := do
  let s ←
    if s.inFlow then pure s
    else if s.keyAllowed then pure (s.openBlock .blockSequenceStart)
    else s.notAllowed "sequence entries are not allowed here"
  let s ← s.dropKey
  return { s.pushNext .blockEntry 1 with keyAllowed := true }

def fetchKey (s : Scanner) : Scan Scanner := do
  let s ←
    if s.inFlow then pure s
    else if s.keyAllowed then pure (s.openBlock .blockMappingStart)
    else s.notAllowed "mapping keys are not allowed here"
  let s ← s.dropKey
  return { s.pushNext .key 1 with keyAllowed := !s.inFlow }

/-- A colon behind a possible key makes it one; else it stands behind a key with a mark. -/
def fetchValue (s : Scanner) : Scan Scanner := do
  match s.keys.lookup s.flow with
  | some k =>
    let s := { s with keys := s.keys.filter fun k => k.1 != s.flow }
    let s := s.insert k.number .key k.mark
    let s := match (if s.inFlow then none else s.addIndent k.mark.column) with
      | some s => s.insert k.number .blockMappingStart k.mark
      | none => s
    return { s.pushNext .value 1 with keyAllowed := false }
  | none =>
    let s ←
      if s.inFlow then pure s
      else if s.keyAllowed then pure (s.openBlock .blockMappingStart)
      else s.notAllowed "mapping values are not allowed here"
    let s ← { s with keyAllowed := !s.inFlow }.dropKey
    return s.pushNext .value 1

def fetchAnchor (s : Scanner) (what : String) (kind : String → TokenKind) : Scan Scanner := do
  let s ← s.saveKey
  let (name, c) ← anchorName what s.cursor
  return { s.push (kind name) s.mark c.mark with cursor := c, keyAllowed := false }

def fetchTag (s : Scanner) : Scan Scanner := do
  let s ← s.saveKey
  let (kind, c) ← scanTag s.cursor
  return { s.push kind s.mark c.mark with cursor := c, keyAllowed := false }

def fetchBlockScalar (s : Scanner) (fold : Bool) : Scan Scanner := do
  let s ← s.dropKey
  let (text, stop, c) ← blockScalar fold s.indent s.cursor
  return { s.push (.scalar (ofChars text) false) s.mark stop with cursor := c, keyAllowed := true }

def fetchQuoted (s : Scanner) (double : Bool) : Scan Scanner := do
  let s ← s.saveKey
  let (text, c) ← quotedScalar double s.cursor
  return { s.push (.scalar (ofChars text) false) s.mark c.mark with
    cursor := c, keyAllowed := false }

def fetchPlain (s : Scanner) : Scan Scanner := do
  let s ← s.saveKey
  let (text, stop, broken, c) := plainScalar s.inFlow s.indent s.cursor
  return { s.push (.scalar (ofChars text) true) s.mark stop with cursor := c, keyAllowed := broken }

/-- Whether a plain scalar begins at the cursor. -/
def startsPlain (s : Scanner) : Bool :=
  let a := s.cursor.peek
  !(isWideGap a || isFlowMark a || "-?:#&*!|>'\"%@\x60".toList.contains a) ||
    (!isWideGap (s.cursor.peekAt 1) && (a == '-' || (!s.inFlow && (a == '?' || a == ':'))))

/-- Finds the next token, with the marks that belong to it. -/
def fetch (s : Scanner) : Scan Scanner := do
  let s ← s.skipGap.dropStale
  let s := s.close s.cursor.column
  let c := s.cursor
  let a := c.peek
  let gapBehind := isWideGap (c.peekAt 1)
  if c.rest.isEmpty then s.fetchEnd
  else if a == '%' && c.column == 0 then s.fetchDirective
  else if a == '-' && c.column == 0 && c.atDivider then s.fetchDivider .documentStart
  else if a == '.' && c.column == 0 && c.atDivider then s.fetchDivider .documentEnd
  else if a == '[' then s.fetchFlowStart .flowSequenceStart
  else if a == '\x7b' then s.fetchFlowStart .flowMappingStart
  else if a == ']' then s.fetchFlowEnd .flowSequenceEnd
  else if a == '\x7d' then s.fetchFlowEnd .flowMappingEnd
  else if a == ',' then s.fetchFlowEntry
  else if a == '-' && gapBehind then s.fetchBlockEntry
  else if a == '?' && (s.inFlow || gapBehind) then s.fetchKey
  else if a == ':' && (s.inFlow || gapBehind) then s.fetchValue
  else if a == '*' then s.fetchAnchor "alias" .alias
  else if a == '&' then s.fetchAnchor "anchor" .anchor
  else if a == '!' then s.fetchTag
  else if a == '|' && !s.inFlow then s.fetchBlockScalar false
  else if a == '>' && !s.inFlow then s.fetchBlockScalar true
  else if a == '\'' then s.fetchQuoted false
  else if a == '"' then s.fetchQuoted true
  else if s.startsPlain then s.fetchPlain
  else
    .error (.error ⟨.scanner, some "while scanning for the next token", none,
      "found character " ++ shown a ++ " that cannot start any token", some s.mark⟩)

end Scanner

/-! ## All tokens -/

/-- Tokens that can be handed on, and the problem that stands behind them. -/
structure Tokens where
  ready : List Token
  failure : Option Problem

/-- Finds tokens up to the end or a problem. At a problem, what may still be a key, and all behind
it, is held back. -/
def Tokens.scan : Nat → Scanner → Tokens
  | 0, s => ⟨s.tokens.toList, none⟩
  | fuel + 1, s =>
    if s.done then ⟨s.tokens.toList, none⟩
    else
      let held := fun s : Scanner => s.tokens.toList.take ((s.firstKey?).getD s.tokens.size)
      match s.dropStale with
      | .error e => ⟨held s, some e⟩
      | .ok s =>
        match s.fetch with
        | .error e => ⟨held s, some e⟩
        | .ok s => Tokens.scan fuel s

/-- The tokens of a text. -/
def Tokens.ofText (text : List Char) : Tokens :=
  Tokens.scan (text.length + 2) { cursor := { rest := text } }

end ProtoCheck.Yaml
