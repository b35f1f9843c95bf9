import ProtoCheck.Message.Required
import ProtoCheck.TextFormat.Scalar

/-!
# Messages in the text format

A message is read field by field into the set fields of a message type.

* `fieldNamed?`, `readFieldName` : which field is meant;
* `readField`, `readBody`, `readItems` : a field, the fields up to a closing mark, the values of a
  list;
* `readMessage` : a whole text.

Each step of these three hands on a smaller amount of fuel; four units for a token are enough.
-/

namespace ProtoCheck.TextFormat

open Descriptor Message

/-- The type whose values hold messages of any type. -/
def anyType : String := "google.protobuf.Any"

/-! ## Names of fields -/

/-- Whether a field is a group that is declared beside it under its own name. -/
def isGroupLike (f : Field) : Bool :=
  match f.kind with
  | .group t => t == qualified f.scope ((t.splitOn ".").getLastD "") &&
      f.name == ((t.splitOn ".").getLastD "").toLower
  | _ => false

/-- The last part of a type name. -/
def simpleName (fullName : String) : String := (fullName.splitOn ".").getLastD ""

/-- The field of a message type that a name means: its own name, or the type name of a group. -/
def fieldNamed? (type : MessageType) (name : String) : Option Field :=
  (type.field? name).orElse fun _ =>
    (type.field? name.toLower).filter fun f =>
      isGroupLike f && (f.kind.messageType?.map simpleName) == some name

/-- Words with points between them, behind the first of them. -/
def readDotted : Nat → String → Cursor → Read (String × Cursor)
  | 0, name, c => .ok (name, c)
  | fuel + 1, name, c =>
    match c.tryTake? "." with
    | none => .ok (name, c)
    | some c => do
      let (part, c) ← c.word
      readDotted fuel (name ++ "." ++ part) c

/-- A full name: words with points between them. -/
def readFullName (c : Cursor) : Read (String × Cursor) := do
  let (first, c) ← c.word
  readDotted c.size first c

/-- An extension in brackets, behind the opening one. -/
def readExtension (pool : Pool) (type : MessageType) (c : Cursor) : Read (Field × Cursor) := do
  let (name, c) ← readFullName c
  if !type.extendable then
    refuseLast c ("Message type \"" ++ type.fullName ++ "\" does not have extensions.")
  else
    match pool.extension? name with
    | none =>
      refuseLast c ("Extension \"" ++ name ++ "\" not registered. Did you import the _pb2 " ++
        "module which defines it? If you are trying to place the extension in the MessageSet " ++
        "field of " ++
        "another message that is in an Any or MessageSet field, that message's _pb2 module must " ++
        "be imported as well")
    | some f =>
      if f.owner != type.fullName then
        refuseLast c ("Extension \"" ++ name ++ "\" does not extend message type \"" ++
          type.fullName ++ "\".")
      else return (f, ← c.expect "]")

/-- The field that the next tokens name. -/
def readFieldName (pool : Pool) (type : MessageType) (c : Cursor) : Read (Field × Cursor) :=
  match c.tryTake? "[" with
  | some c => readExtension pool type c
  | none => do
    let (name, c) ← c.wordOrNumber
    match fieldNamed? type name with
    | some f => return (f, c)
    | none =>
      refuseLast c ("Message type \"" ++ type.fullName ++ "\" has no field named \"" ++ name ++
        "\".")

/-- The prefix and the type name of an expanded value, behind the opening bracket. -/
def readTypeUrl (c : Cursor) : Read (String × String × Cursor) := do
  let (a, c) ← c.word
  let c ← c.expect "."
  let (b, c) ← c.word
  let c ← c.expect "."
  let (d, c) ← c.word
  let c ← c.expect "/"
  let (name, c) ← readFullName c
  return (a ++ "." ++ b ++ "." ++ d, name, c)

/-! ## Setting fields -/

/-- Refuses a field of a oneof of which another field is set. -/
def checkOneof (type : MessageType) (fields : Fields) (f : Field) (c : Cursor) : Read Unit :=
  match f.oneof with
  | none => .ok ()
  | some group =>
    match type.fields.find? fun g =>
      g.oneof == some group && g.name != f.name && fields.has g.number with
    | none => .ok ()
    | some g =>
      refuseLast c ("Field \"" ++ f.name ++ "\" is specified along with field \"" ++ g.name ++
        "\", another member of oneof \"" ++ group ++ "\" for message type \"" ++ type.fullName ++
        "\".")

/-- Refuses a field that is set already. -/
def refuseAgain {α : Type} (type : MessageType) (f : Field) (c : Cursor) : Read α :=
  refuseLast c ("Message type \"" ++ type.fullName ++ "\" should not have multiple \"" ++
    (if f.isExtension then f.fullName ++ "\" extensions." else f.name ++ "\" fields."))

/-- Whether a field that holds one scalar has been given: set, where that can be told, or else
other than empty, false and zero. -/
def isGiven (fields : Fields) (f : Field) : Bool :=
  if f.presence then fields.has f.number
  else ((fields.scalar? f.number).map Scalar.isGiven).getD false

/-- Gives a field a scalar. A field without presence at its default is not set. -/
def setScalar (type : MessageType) (fields : Fields) (f : Field) (s : Scalar) (c : Cursor) :
    Read Fields :=
  if f.label == .repeated then .ok (fields.append f.number (.scalar s))
  else if isGiven fields f then refuseAgain type f c
  else if !f.presence && s.isDefault then .ok (fields.filter fun e => e.1 != f.number)
  else .ok (fields.put f.number (.one (.scalar s)))

/-- The key and the value that the fields of a map entry give. -/
def entryPair (pool : Pool) (entry : MessageType) (fields : Fields) : Scalar × Value :=
  let kindOf := fun name => ((entry.field? name).map (·.kind)).getD default
  let key := (fields.scalar? 1).getD (defaultScalar pool (kindOf "key"))
  let value := match fields.get? 2 with
    | some (.one v) => v
    | _ => defaultValue pool (kindOf "value")
  (key, value)

/-- Gives a field a message, or a map the pair of an entry. -/
def setMessage (pool : Pool) (sub : MessageType) (fields : Fields) (f : Field) (inner : Fields) :
    Fields :=
  if sub.mapEntry then
    let (key, value) := entryPair pool sub inner
    fields.putPair f.number key value
  else if f.label == .repeated then fields.append f.number (.message inner)
  else fields.put f.number (.one (.message inner))

/-- The opening mark of a message, and the closing one that belongs to it. -/
def readOpening (c : Cursor) : Read (String × Cursor) :=
  match c.tryTake? "<" with
  | some c => .ok (">", c)
  | none => (c.expect "\x7b").map fun c => ("\x7d", c)

/-- The cursor behind one separator, if one is next. -/
def skipSeparator (c : Cursor) : Cursor :=
  match c.tryTake? "," with
  | some c => c
  | none => c.skip ";"

/-- The fields of a value that holds a message of another type, packed. -/
def packed (pool : Pool) (start : String) (type : MessageType) (inner : Fields) (fields : Fields) :
    Read Fields :=
  if !(missingFields pool type inner).isEmpty then .error (.broken .unpackableMessage)
  else
    let bytes := fieldsBytes pool type inner
    let fields := fields.put 1 (.one (.scalar (.text (start ++ "/" ++ type.fullName))))
    .ok (if bytes.isEmpty then fields.filter fun e => e.1 != 2
      else fields.put 2 (.one (.scalar (.bytes bytes))))

/-! ## Reading fields -/

/-- What runs out of fuel, which the amount given does not allow. -/
def exhausted {α : Type} : Read α := .error (.whole "nesting too deep")

mutual

/-- Reads a field into `fields`. -/
def readField (pool : Pool) : Nat → MessageType → Fields → Cursor → Read (Fields × Cursor)
  | 0, _, _, _ => exhausted
  | fuel + 1, type, fields, c =>
    match (if type.fullName == anyType then c.tryTake? "[" else none) with
    | some c => readExpanded pool fuel type fields c
    | none => do
      let (f, c) ← readFieldName pool type c
      checkOneof type fields f c
      let isMessage := f.kind.messageType?.isSome
      let c ← if isMessage then .ok (c.skip ":") else c.expect ":"
      let (fields, c) ← match (if f.label == .repeated then c.tryTake? "[" else none) with
        | some c =>
          match c.tryTake? "]" with
          | some c => .ok (fields, c)
          | none => readItems pool fuel type f fields c
        | none => readValue pool fuel type f fields c
      return (fields, skipSeparator c)

/-- Reads a value that is written as the message it holds, behind the opening bracket. -/
def readExpanded (pool : Pool) : Nat → MessageType → Fields → Cursor → Read (Fields × Cursor)
  | 0, _, _, _ => exhausted
  | fuel + 1, _, fields, c => do
    let (start, name, c) ← readTypeUrl c
    let c ← c.expect "]"
    let (closing, c) ← readOpening (c.skip ":")
    match pool.message? name with
    | none => .error (.whole ("Type " ++ name ++ " not found in descriptor pool"))
    | some inner => do
      let (body, c) ← readBody pool fuel inner closing [] c
      return (← packed pool start inner body fields, c)

/-- Reads a value of a field into `fields`. -/
def readValue (pool : Pool) : Nat → MessageType → Field → Fields → Cursor → Read (Fields × Cursor)
  | 0, _, _, _, _ => exhausted
  | fuel + 1, type, f, fields, c =>
    match f.kind.messageType? with
    | none => do
      let (s, c) ← readScalar pool f.kind c
      return (← setScalar type fields f s c, c)
    | some _ => do
      let (closing, c) ← readOpening c
      if f.label != .repeated && fields.has f.number then refuseAgain type f c
      else
        let sub := subType pool f.kind
        let (inner, c) ← readBody pool fuel sub closing [] c
        return (setMessage pool sub fields f inner, c)

/-- Reads the values of a list up to its closing bracket. -/
def readItems (pool : Pool) : Nat → MessageType → Field → Fields → Cursor → Read (Fields × Cursor)
  | 0, _, _, _, _ => exhausted
  | fuel + 1, type, f, fields, c => do
    let (fields, c) ← readValue pool fuel type f fields c
    match c.tryTake? "]" with
    | some c => return (fields, c)
    | none => readItems pool fuel type f fields (← c.expect ",")

/-- Reads fields up to the closing mark. -/
def readBody (pool : Pool) : Nat → MessageType → String → Fields → Cursor → Read (Fields × Cursor)
  | 0, _, _, _, _ => exhausted
  | fuel + 1, type, closing, fields, c =>
    match c.tryTake? closing with
    | some c => .ok (fields, c)
    | none =>
      if c.atEnd then refuseLast c ("Expected \"" ++ closing ++ "\".")
      else do
        let (fields, c) ← readField pool fuel type fields c
        readBody pool fuel type closing fields c

end

/-- Reads fields up to the end. -/
def readFields (pool : Pool) (type : MessageType) : Nat → Fields → Cursor → Read Fields
  | 0, _, _ => exhausted
  | fuel + 1, fields, c =>
    if c.atEnd then .ok fields
    else do
      let (fields, c) ← readField pool fuel type fields c
      readFields pool type fuel fields c

/-- The set fields of a message of type `type` that a text gives. -/
def readMessage (pool : Pool) (type : MessageType) (text : List Char) : Read Fields :=
  let c := Cursor.ofText text
  readFields pool type (4 * c.size + 4) [] c

end ProtoCheck.TextFormat
