import ProtoCheck.Language.Reader

/-!
# Reading schema sources

The declarations of a source are read statement by statement. A statement that cannot be read is
left out and noted; a source with any fault declares nothing.

* `field`, `extending`, `oneof`, `message` : messages and what they hold;
* `service`, `importing`, `package` : the other declarations at the top;
* `FileNode.read` : a whole source, with its faults.
-/

namespace ProtoCheck.Language

open Descriptor

namespace Reader

/-! ## Messages -/

/-- The depth of messages inside messages that is not reached. -/
def maxDepth : Nat := 32

/-- Adds a field and the messages that it brings along. -/
def addField (m : MessageNode) (r : FieldNode × List MessageNode) : MessageNode :=
  { m with fields := m.fields ++ [r.1], messages := m.messages ++ r.2 }

/-- Adds extensions and the messages that they bring along. -/
def addExtensions (m : MessageNode) (r : List FieldNode × List MessageNode) : MessageNode :=
  { m with extensions := m.extensions ++ r.1, messages := m.messages ++ r.2 }

/-- Ranges that are open to extensions. -/
def extensionRanges (m : MessageNode) : Reader MessageNode := do
  expect "extensions"
  let rs ← ranges fieldNumber "field number range" "field number range"
  let os ← bracketedOptions
  expect ";"
  return { m with
    extensionRanges := m.extensionRanges ++ rs
    extensionOptions := m.extensionOptions ++ os }

/-- Ranges and names that no field may use. -/
def reservedFields (dialect : Dialect) (m : MessageNode) : Reader MessageNode := do
  expect "reserved"
  let (rs, names) ← reserved dialect "field name" "field number range" fieldNumber
  return { m with reserved := m.reserved ++ rs, reservedNames := m.reservedNames ++ names }

/-- A reader of statements inside a message. -/
abbrev Statement := MessageNode → Reader MessageNode

/-- The end of a field: the body of a group, whose statements `inner` reads, or a semicolon. -/
def fieldEnd (inner : Statement) (f : FieldNode) (more : List MessageNode) :
    Reader (FieldNode × List MessageNode) := do
  match f.type with
  | .group _ =>
    if f.name.toList.headD ' ' < 'A' || 'Z' < f.name.toList.headD ' ' then
      noteAt (f.place.getD default) .groupName
    if ← take? "\x7b" then
      let group ← block "message definition" inner { name := f.name, place := f.place }
      return ({ f with name := f.name.toLower, type := .group f.name }, more ++ [group])
    else reject .noGroupBody
  | _ =>
    expect ";"
    return (f, more)

/-- A field whose label has been read. -/
def unlabelledField (dialect : Dialect) (inner : Statement) (h : FieldHead) :
    Reader (FieldNode × List MessageNode) := do
  let (f, more) ← fieldFront dialect h
  fieldEnd inner f more

def field (dialect : Dialect) (inner : Statement) (h : FieldHead) :
    Reader (FieldNode × List MessageNode) := do
  unlabelledField dialect inner (← labelled dialect h)

/-- The statements of an `extend` block; there is at least one. Fuel bounds their number. -/
def extensionsFrom (dialect : Dialect) (inner : Statement) :
    Nat → FieldHead → List FieldNode × List MessageNode → Reader (List FieldNode × List MessageNode)
  | 0, _, _ => failure
  | fuel + 1, h, (fs, ms) => do
    if ← atEnd then reject (.unclosed "extend definition")
    else
      let r ← recovering (fs, ms) do
        let (f, more) ← field dialect inner h
        return (fs ++ [f], ms ++ more)
      if ← take? "\x7d" then return r
      else extensionsFrom dialect inner fuel { h with extendeePlace := none } r

/-- Extensions of a message type. -/
def extending (dialect : Dialect) (inner : Statement) :
    Reader (List FieldNode × List MessageNode) := do
  expect "extend"
  let p ← place
  let extendee ← typeName
  expect "\x7b"
  extensionsFrom dialect inner ((← get).rest.length + 2)
    { extendee := some extendee, extendeePlace := some p } ([], [])

/-- A statement inside the oneof of a number. -/
def oneofStatement (dialect : Dialect) (inner : Statement) (i : Nat) (m : MessageNode) :
    Reader MessageNode := do
  if ← sees "option" then
    let os ← optionStatement []
    return { m with oneofs := m.oneofs.modify i fun o => { o with options := o.options ++ os } }
  else
    if (← sees "required") || (← sees "optional") || (← sees "repeated") then
      note .labelInOneof
      advance
    recovering m do
      return addField m (←
        unlabelledField dialect inner { label := some .optional, oneof := some i })

/-- The statements of the oneof of a number; there is at least one. Fuel bounds their number. -/
def oneofFrom (dialect : Dialect) (inner : Statement) (i : Nat) : Nat → Statement
  | 0, _ => failure
  | fuel + 1, m => do
    if ← atEnd then reject (.unclosed "oneof definition")
    else
      let m ← oneofStatement dialect inner i m
      if ← take? "\x7d" then return m else oneofFrom dialect inner i fuel m

/-- A oneof and its members. -/
def oneof (dialect : Dialect) (inner : Statement) (m : MessageNode) : Reader MessageNode := do
  expect "oneof"
  let p ← place
  let name ← word "oneof name"
  expect "\x7b"
  oneofFrom dialect inner m.oneofs.length ((← get).rest.length + 2)
    { m with oneofs := m.oneofs ++ [{ name, place := some p }] }

/-- A message at a depth that may not be exceeded. -/
def message (dialect : Dialect) (depth : Nat) (inner : Statement) : Reader MessageNode := do
  if maxDepth ≤ depth then reject .tooDeep
  else
    expect "message"
    let p ← place
    let name ← word "message name"
    expect "\x7b"
    let m ← block "message definition" inner { name, place := some p }
    return if dialect == .proto3 then m.withPresence else m

/-- A statement inside a message at a depth. Fuel bounds how deep blocks stand in one another. -/
def messageStatement (dialect : Dialect) : Nat → Nat → Statement
  | 0, _, _ => failure
  | fuel + 1, depth, m => do
    if ← take? ";" then return m
    else if ← sees "message" then
      let nested ← message dialect (depth + 1) (messageStatement dialect fuel (depth + 1))
      return { m with messages := m.messages ++ [nested] }
    else if ← sees "enum" then
      let e ← enumeration dialect
      return { m with enums := m.enums ++ [e] }
    else if ← sees "extensions" then extensionRanges m
    else if ← sees "reserved" then reservedFields dialect m
    else if ← sees "extend" then
      return addExtensions m (← extending dialect (messageStatement dialect fuel depth))
    else if ← sees "option" then
      let os ← optionStatement m.options
      return { m with options := os }
    else if ← sees "oneof" then oneof dialect (messageStatement dialect fuel depth) m
    else return addField m (← field dialect (messageStatement dialect fuel depth) {})

/-! ## Services -/

/-- The type of a request or an answer, in parentheses, with its place. -/
def methodType : Reader (String × Position) := do
  expect "("
  let _ ← take? "stream"
  let p ← place
  let name ← typeName
  expect ")"
  return (name, p)

/-- The options of a method, in braces. -/
def methodOptions : Reader (List OptionNode) := do
  if ← take? "\x7b" then
    block "method options" (fun os => do
      if ← take? ";" then return os else optionStatement os) []
  else
    expect ";"
    return []

def serviceStatement (s : ServiceNode) : Reader ServiceNode := do
  if ← take? ";" then return s
  else if ← sees "option" then
    let os ← optionStatement s.options
    return { s with options := os }
  else
    expect "rpc"
    let p ← place
    let name ← word "method name"
    let (input, inputPlace) ← methodType
    expect "returns"
    let (output, outputPlace) ← methodType
    let options ← methodOptions
    return { s with
      methods := s.methods ++
        [{ name, place := p, input, inputPlace, output, outputPlace, options }] }

def service : Reader ServiceNode := do
  expect "service"
  let p ← place
  let name ← word "service name"
  expect "\x7b"
  block "service definition" serviceStatement { name, place := p }

/-! ## Sources -/

def importing : Reader ImportNode := do
  let p ← place
  expect "import"
  let isPublic ← take? "public"
  if !isPublic then
    let _ ← take? "weak"
  let name ← quoted "a string naming the file to import"
  expect ";"
  return ⟨name, isPublic, some p⟩

/-- The package; a second one replaces the first and is a fault. -/
def package (f : FileNode) : Reader FileNode := do
  if f.packagePlace.isSome then note .secondPackage
  let p ← place
  expect "package"
  let first ← word "identifier"
  let name ← moreParts ((← get).rest.length + 1) first
  expect ";"
  return { f with package := name, packagePlace := some p }

/-- A statement at the top. Fuel bounds how deep blocks stand in one another. -/
def statement (fuel : Nat) (f : FileNode) : Reader FileNode := do
  if ← take? ";" then return f
  else if ← sees "message" then
    let m ← message f.dialect 1 (messageStatement f.dialect fuel 1)
    return { f with messages := f.messages ++ [m] }
  else if ← sees "enum" then
    let e ← enumeration f.dialect
    return { f with enums := f.enums ++ [e] }
  else if ← sees "service" then
    let s ← service
    return { f with services := f.services ++ [s] }
  else if ← sees "extend" then
    let (fs, ms) ← extending f.dialect (messageStatement f.dialect fuel 1)
    return { f with extensions := f.extensions ++ fs, messages := f.messages ++ ms }
  else if ← sees "import" then
    let i ← importing
    return { f with imports := f.imports ++ [i] }
  else if ← sees "package" then package f
  else if ← sees "option" then
    let os ← optionStatement f.options
    return { f with options := os }
  else reject (.expected "top-level statement (e.g. \"message\")")

/-- Statements up to the end. A brace that closes nothing is passed over where a statement cannot
be read. Fuel bounds their number. -/
def statements (depth : Nat) : Nat → FileNode → Reader FileNode
  | 0, f => return f
  | fuel + 1, f => do
    if ← atEnd then return f
    else
      let f' ← recovering none (some <$> statement depth f)
      if f'.isNone && (← sees "\x7d") then
        note .unmatchedBrace
        advance
      statements depth fuel (f'.getD f)

/-- The dialect that a source asks for in its first statement. -/
def dialect : Reader Dialect := do
  if ← take? "edition" then
    expect "="
    let p ← place
    let name ← quoted "syntax identifier"
    expect ";"
    if name == "2023" then return .edition2023
    else
      noteAt p (.unknownEdition name)
      failure
  else if ← take? "syntax" then
    expect "="
    let p ← place
    let name ← quoted "syntax identifier"
    expect ";"
    if name == "proto2" then return .proto2
    else if name == "proto3" then return .proto3
    else
      noteAt p (.unknownDialect name)
      failure
  else return .proto2

/-- A whole source. -/
def file : Reader FileNode := do
  let d ← dialect
  let size := (← get).rest.length
  statements (size + 1) (size + 1) { dialect := d }

end Reader

/-- The declarations of a source and its faults. -/
def FileNode.read (source : Bytes) : FileNode × List (Position × SourceFault) :=
  let (f, s) := Reader.file (Input.ofTokens (tokens source))
  (f.getD {}, s.faults)

end ProtoCheck.Language
