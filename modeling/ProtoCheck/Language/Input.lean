import ProtoCheck.Language.Token

/-!
# Reading tokens

A reader takes tokens from its input. It may fail, but its input stays where it stopped, with the
faults met so far: after a statement that cannot be read, reading goes on behind it.

* `GrammarFault`, `SourceFault` : what can be wrong with a source;
* `Input`, `Reader` : the tokens to read, and reading them;
* `expect`, `word`, `integer`, `quoted`, … : reading single tokens;
* `separated`, `recovering`, `block` : lists, and statements of which some may fail.
-/

namespace ProtoCheck.Language

/-! ## Faults -/

/-- What is wrong with the order of tokens. -/
inductive GrammarFault where
  | expected (what : String)
  | expectedToken (text : String)
  /-- The source ends inside a block. -/
  | unclosed (what : String)
  | unknownDialect (name : String)
  | unknownEdition (name : String)
  | unmatchedBrace
  | noFieldNumber
  | noEnumNumber
  | outOfRange
  | optionalInEdition
  | requiredInEdition
  | groupInEdition
  | groupName
  | noGroupBody
  | mapInOneof
  | mapWithLabel
  | mapExtension
  | labelInOneof
  | secondPackage
  | secondDefault
  | secondJsonName
  | negativeUnsigned
  | messageDefault
  | wordAfterMinus
  | textAfterMinus
  | noOptionValue
  | valueUnclosed
  | reservedTextInEdition
  | reservedWord
  | aliasingDenied (enum : String)
  | aliasingUnused (enum : String)
  | tooDeep
  deriving DecidableEq, Repr

def GrammarFault.message : GrammarFault → String
  | .expected what => "Expected " ++ what ++ "."
  | .expectedToken text => "Expected \"" ++ text ++ "\"."
  | .unclosed what => "Reached end of input in " ++ what ++ " (missing '\x7d')."
  | .unknownDialect name =>
    "Unrecognized syntax identifier \"" ++ name ++
      "\".  This parser only recognizes \"proto2\" and \"proto3\"."
  | .unknownEdition name => "Unknown edition \"" ++ name ++ "\"."
  | .unmatchedBrace => "Unmatched \"\x7d\"."
  | .noFieldNumber => "Missing field number."
  | .noEnumNumber => "Missing numeric value for enum constant."
  | .outOfRange => "Integer out of range."
  | .optionalInEdition =>
    "Label \"optional\" is not supported in editions. By default, all singular fields have " ++
      "presence unless features.field_presence is set."
  | .requiredInEdition =>
    "Label \"required\" is not supported in editions, use features.field_presence = " ++
      "LEGACY_REQUIRED."
  | .groupInEdition =>
    "Group syntax is no longer supported in editions. To get group behavior you can specify " ++
      "features.message_encoding = DELIMITED on a message field."
  | .groupName => "Group names must start with a capital letter."
  | .noGroupBody => "Missing group body."
  | .mapInOneof => "Map fields are not allowed in oneofs."
  | .mapWithLabel =>
    "Field labels (required/optional/repeated) are not allowed on map fields."
  | .mapExtension => "Map fields are not allowed to be extensions."
  | .labelInOneof => "Fields in oneofs must not have labels (required / optional / repeated)."
  | .secondPackage => "Multiple package definitions."
  | .secondDefault => "Already set option \"default\"."
  | .secondJsonName => "Already set option \"json_name\"."
  | .negativeUnsigned => "Unsigned field can't have negative default value."
  | .messageDefault => "Messages can't have default values."
  | .wordAfterMinus => "Identifier after '-' symbol must be inf or nan."
  | .textAfterMinus => "Invalid '-' symbol before string."
  | .noOptionValue => "Unexpected end of stream while parsing option value."
  | .valueUnclosed => "Unexpected end of stream while parsing aggregate value."
  | .reservedTextInEdition =>
    "Reserved names must be identifiers in editions, not string literals."
  | .reservedWord =>
    "Reserved names must be string literals. (Only editions supports identifiers.)"
  | .aliasingDenied enum =>
    "\"" ++ enum ++ "\" declares 'option allow_alias = false;' which has no effect. Please " ++
      "remove the declaration."
  | .aliasingUnused enum =>
    "\"" ++ enum ++ "\" declares support for enum aliases but no enum values share field " ++
      "numbers. Please remove the unnecessary 'option allow_alias = true;' declaration."
  | .tooDeep => "Reached maximum recursion limit for nested messages."

/-- What is wrong with a source. -/
inductive SourceFault where
  | lexical (f : LexicalFault)
  | grammar (f : GrammarFault)
  deriving DecidableEq, Repr

def SourceFault.message : SourceFault → String
  | .lexical f => f.message
  | .grammar f => f.message

/-! ## Input -/

/-- The next token, those behind it, and the faults met so far. -/
structure Input where
  next : Token
  rest : List Token
  faults : List (Position × SourceFault) := []
  deriving Inhabited

namespace Input

/-- The faults that come to light as a token is reached. -/
def reach (faults : List (Position × SourceFault)) (t : Token) : List (Position × SourceFault) :=
  faults ++ t.faults.map fun f => (f.1, .lexical f.2)

/-- The input in front of some tokens. -/
def ofTokens : List Token → Input
  | [] => default
  | t :: rest => ⟨t, rest, reach [] t⟩

/-- The input behind the next token; it stays at the end. -/
def advance (s : Input) : Input :=
  match s.rest with
  | [] => s
  | t :: rest => ⟨t, rest, reach s.faults t⟩

def atEnd (s : Input) : Bool := s.next.kind == .stop

/-- Whether the next token is written so. -/
def sees (s : Input) (text : String) : Bool := s.next.text == text

def addAt (s : Input) (p : Position) (f : GrammarFault) : Input :=
  { s with faults := s.faults ++ [(p, .grammar f)] }

/-- The input behind the end of a block, of which `depth` more are open. A token behind an inner
brace is passed over unseen. Fuel bounds the number of tokens. -/
def skipBlock : Nat → Nat → Input → Input
  | 0, _, s => s
  | fuel + 1, depth, s =>
    if s.atEnd then s
    else if s.sees "\x7d" then
      match depth with
      | 0 => s.advance
      | d + 1 => skipBlock fuel d s.advance.advance
    else if s.sees "\x7b" then skipBlock fuel (depth + 1) s.advance.advance
    else skipBlock fuel depth s.advance

/-- The input behind the end of a statement: a semicolon, a block, or the brace that closes the
block around it. Fuel bounds the number of tokens. -/
def skipStatement : Nat → Input → Input
  | 0, s => s
  | fuel + 1, s =>
    if s.atEnd || s.sees "\x7d" then s
    else if s.sees ";" then s.advance
    else if s.sees "\x7b" then skipBlock fuel 0 s.advance
    else skipStatement fuel s.advance

/-- The input behind a statement that cannot be read. -/
def skip (s : Input) : Input := s.skipStatement (s.rest.length + 1)

end Input

/-! ## Readers -/

/-- Reading tokens, with a result or without. -/
abbrev Reader (α : Type) := OptionT (StateM Input) α

namespace Reader

def next : Reader Token := return (← get).next

def advance : Reader Unit := modify Input.advance

def atEnd : Reader Bool := return (← get).atEnd

def sees (text : String) : Reader Bool := return (← get).sees text

def seesKind (k : TokenKind) : Reader Bool := return (← get).next.kind == k

/-- The place of the next token. -/
def place : Reader Position := return (← get).next.place

def noteAt (p : Position) (f : GrammarFault) : Reader Unit := modify (·.addAt p f)

/-- Notes a fault at the next token. -/
def note (f : GrammarFault) : Reader Unit := do noteAt (← place) f

/-- Fails with a fault at the next token. -/
def reject {α : Type} (f : GrammarFault) : Reader α := do
  note f
  failure

/-- Takes the next token if it is written so. -/
def take? (text : String) : Reader Bool := do
  if ← sees text then
    advance
    return true
  else return false

def expectOr (text : String) (f : GrammarFault) : Reader Unit := do
  if ← take? text then return () else reject f

def expect (text : String) : Reader Unit := expectOr text (.expectedToken text)

def word (what : String) : Reader String := do
  let t ← next
  if t.kind == .word then
    advance
    return t.text
  else reject (.expected what)

/-- An integer up to a limit; one that is greater is read as zero. -/
def integerUpTo (limit : Nat) (what : String) : Reader Nat := do
  let t ← next
  if t.kind == .integer then
    if (t.integer? limit).isNone then note .outOfRange
    advance
    return (t.integer? limit).getD 0
  else reject (.expected what)

/-- The greatest integer of 32 bits with a sign. -/
def maxInt32 : Nat := 2147483647

def integer (what : String) : Reader Nat := integerUpTo maxInt32 what

/-- An integer with or without a minus sign. -/
def signed (what : String) : Reader Int := do
  if ← take? "-" then return -((← integerUpTo (maxInt32 + 1) what : Nat) : Int)
  else return (← integer what : Nat)

/-- Quoted texts, one behind the other. Fuel bounds their number. -/
def moreQuoted : Nat → List Char → Reader (List Char)
  | 0, s => return s
  | fuel + 1, s => do
    let t ← next
    if t.kind == .text then
      advance
      moreQuoted fuel (s ++ t.octets)
    else return s

/-- One or more quoted texts, joined. -/
def quoted (what : String) : Reader String := do
  if ← seesKind .text then return textOf (← moreQuoted ((← get).rest.length + 1) [])
  else reject (.expected what)

/-! ## Sequences -/

/-- Items with `mark` between them, each added to what those before it have come to. Fuel bounds
their number. -/
def separatedFrom {α : Type} (mark : String) (item : α → Reader α) : Nat → α → Reader α
  | 0, x => return x
  | fuel + 1, x => do
    let x ← item x
    if ← take? mark then separatedFrom mark item fuel x else return x

/-- One or more items with `mark` between them. -/
def separated {α : Type} (mark : String) (item : α → Reader α) (x : α) : Reader α := do
  separatedFrom mark item ((← get).rest.length + 1) x

/-- What a reader gives, or `x` behind the statement that it cannot read. -/
def recovering {α : Type} (x : α) (r : Reader α) : Reader α := fun s =>
  match r s with
  | (some y, s) => (some y, s)
  | (none, s) => (some x, s.skip)

/-- Statements up to a closing brace, each added to what those before it have come to. Fuel bounds
their number. -/
def blockFrom {α : Type} (what : String) (statement : α → Reader α) : Nat → α → Reader α
  | 0, _ => failure
  | fuel + 1, x => do
    if ← take? "\x7d" then return x
    else if ← atEnd then reject (.unclosed what)
    else blockFrom what statement fuel (← recovering x (statement x))

/-- The statements of a block, behind its opening brace. -/
def block {α : Type} (what : String) (statement : α → Reader α) (x : α) : Reader α := do
  blockFrom what statement ((← get).rest.length + 2) x

end Reader

end ProtoCheck.Language
