import ProtoCheck.Language.Input
import ProtoCheck.Language.Tree

/-!
# Reading fields and enums

* `typeName`, `fieldType` : names of types;
* `option`, `optionStatement`, `bracketedOptions` : options;
* `labelled`, `fieldFront` : a field up to its options;
* `ranges`, `reserved` : numbers and names that are set aside;
* `enumeration` : an enum.
-/

namespace ProtoCheck.Language

open Descriptor

namespace Reader

/-! ## Types -/

def scalarNamed? (name : String) : Option ScalarKind :=
  ScalarKind.all.find? fun k => k.name == name

/-- The word before a message that is declared together with its field. -/
def groupWord : String := "group"

/-- Words with points in front of them. Fuel bounds their number. -/
def moreParts : Nat → String → Reader String
  | 0, name => return name
  | fuel + 1, name => do
    if ← take? "." then moreParts fuel (name ++ "." ++ (← word "identifier")) else return name

/-- The name of a message type or an enum, where no other type may stand. -/
def typeName : Reader String := do
  let t ← next
  if (scalarNamed? t.text).isSome || t.text == groupWord then
    note (.expected "message type")
    advance
    return t.text
  else
    let point ← take? "."
    let first ← word "type name"
    moreParts ((← get).rest.length + 1) ((if point then "." else "") ++ first)

/-- A type; a group has its name where other fields have theirs. -/
def fieldType (dialect : Dialect) : Reader TypeRef := do
  let t ← next
  match scalarNamed? t.text with
  | some k =>
    advance
    return .scalar k
  | none =>
    if t.text == groupWord then
      if dialect == .edition2023 then note .groupInEdition
      advance
      return .group ""
    else return .named (← typeName)

/-! ## Options -/

/-- A part of an option's name. -/
def optionPart : Reader OptionPart := do
  if ← take? "(" then
    let first ← if ← seesKind .word then word "identifier" else pure ""
    let name ← moreParts ((← get).rest.length + 1) first
    expect ")"
    return ⟨name, true⟩
  else return ⟨← word "identifier", false⟩

/-- A value in braces, whose contents are not looked at. Fuel bounds the number of tokens. -/
def skipValue : Nat → Nat → Reader Unit
  | 0, _ => failure
  | fuel + 1, depth => do
    if ← atEnd then reject .valueUnclosed
    else if ← take? "\x7b" then skipValue fuel (depth + 1)
    else if ← take? "\x7d" then
      match depth with
      | 0 => return ()
      | d + 1 => skipValue fuel d
    else
      advance
      skipValue fuel depth

/-- The greatest integer of 64 bits without a sign. -/
def maxUInt64 : Nat := 18446744073709551615

/-- The greatest integer of 64 bits with a sign. -/
def maxInt64 : Nat := 9223372036854775807

/-- The value of an option. -/
def optionValue : Reader OptionValue := do
  let negative ← take? "-"
  let t ← next
  match t.kind with
  | .stop => reject .noOptionValue
  | .word =>
    if negative && t.text != "inf" && t.text != "nan" then reject .wordAfterMinus
    else
      advance
      return if negative then .decimal else .word t.text
  | .integer =>
    advance
    match t.integer? (if negative then maxInt64 + 1 else maxUInt64) with
    | some n => return .integer (if negative then -(n : Int) else n)
    | none => return .decimal
  | .decimal =>
    advance
    return .decimal
  | .text =>
    if negative then reject .textAfterMinus
    else
      let _ ← quoted "string"
      return .text
  | .symbol =>
    if ← take? "\x7b" then
      skipValue ((← get).rest.length + 2) 0
      return .block
    else reject (.expected "option value")

/-- An option: its name and its value. -/
def option : Reader OptionNode := do
  let namePlace ← place
  let name ← separated "." (fun parts => return parts ++ [← optionPart]) []
  expect "="
  let valuePlace ← place
  return ⟨name, ← optionValue, namePlace, valuePlace⟩

/-- A statement that sets an option. -/
def optionStatement (os : List OptionNode) : Reader (List OptionNode) := do
  expect "option"
  let o ← option
  expect ";"
  return os ++ [o]

/-- Options in brackets, if there are any. -/
def bracketedOptions : Reader (List OptionNode) := do
  if ← take? "[" then
    let os ← separated "," (fun os => return os ++ [← option]) []
    expect "]"
    return os
  else return []

/-! ## Fields -/

/-- The greatest magnitude of a scalar with an integral value, by its sign; `none` for others. -/
def integralLimit (k : ScalarKind) (negative : Bool) : Option Nat :=
  let one := if negative then 1 else 0
  match k with
  | .int32 | .sint32 | .sfixed32 => some (maxInt32 + one)
  | .int64 | .sint64 | .sfixed64 => some (maxInt64 + one)
  | .uint32 | .fixed32 => some 4294967295
  | .uint64 | .fixed64 => some maxUInt64
  | _ => none

def isUnsigned (k : ScalarKind) : Bool :=
  [ScalarKind.uint32, .uint64, .fixed32, .fixed64].contains k

/-- A floating point number, or a word for one. -/
def floating : Reader Unit := do
  let t ← next
  if t.kind == .integer then
    if t.text.startsWith "0" && (t.integer? maxUInt64).isNone then note .outOfRange
    advance
  else if t.kind == .decimal || t.text == "inf" || t.text == "nan" then advance
  else reject (.expected "number")

/-- A default value of a scalar. -/
def scalarDefault (k : ScalarKind) : Reader Unit := do
  match k with
  | .string => let _ ← quoted "string for field default value"
  | .bytes => let _ ← quoted "string"
  | .bool =>
    if !(← take? "true") then
      if !(← take? "false") then reject (.expected "\"true\" or \"false\"")
  | .float | .double =>
    let _ ← take? "-"
    floating
  | _ =>
    let negative ← take? "-"
    if negative && isUnsigned k then note .negativeUnsigned
    let _ ← integerUpTo ((integralLimit k negative).getD 0) "integer for field default value"

/-- The default value of a field. That of a named type is a single token, whatever it is. -/
def defaultValue (f : FieldNode) : Reader FieldNode := do
  if f.defaultValue.isSome then note .secondDefault
  expect "default"
  expect "="
  let t ← next
  match f.type with
  | .scalar k => scalarDefault k
  | .group _ => reject .messageDefault
  | .named _ => advance
  return { f with defaultValue := some ⟨t.text, t.place⟩ }

def jsonName (f : FieldNode) : Reader FieldNode := do
  if f.jsonName.isSome then note .secondJsonName
  let p ← place
  expect "json_name"
  expect "="
  let name ← quoted "string for JSON name"
  return { f with jsonName := some name, jsonNamePlace := some p }

/-- What may stand in brackets behind a field. -/
def fieldOption (f : FieldNode) : Reader FieldNode := do
  if ← sees "default" then defaultValue f
  else if ← sees "json_name" then jsonName f
  else
    let o ← option
    return { f with options := f.options ++ [o] }

def fieldOptions (f : FieldNode) : Reader FieldNode := do
  if ← take? "[" then
    let f ← separated "," fieldOption f
    expect "]"
    return f
  else return f

/-- What is known of a field before its type is read. -/
structure FieldHead where
  label : Option Label := none
  asksPresence : Bool := false
  oneof : Option Nat := none
  extendee : Option String := none
  extendeePlace : Option Position := none

/-- The label of a field, if there is one. -/
def labelled (dialect : Dialect) (h : FieldHead) : Reader FieldHead := do
  if ← sees "optional" then
    if dialect == .edition2023 then note .optionalInEdition
    advance
    return { h with label := some .optional, asksPresence := dialect == .proto3 }
  else if ← sees "required" then
    if dialect == .edition2023 then note .requiredInEdition
    advance
    return { h with label := some .required }
  else if ← take? "repeated" then return { h with label := some .repeated }
  else return h

/-- The types of key and value of a map, behind its word. -/
def mapTypes (dialect : Dialect) (h : FieldHead) : Reader (TypeRef × TypeRef) := do
  if h.oneof.isSome then reject .mapInOneof
  else if h.label.isSome then reject .mapWithLabel
  else if h.extendee.isSome then reject .mapExtension
  else
    expect "<"
    let key ← fieldType dialect
    expect ","
    let value ← fieldType dialect
    expect ">"
    return (key, value)

/-- The type of a field, and those of key and value if it is a map. -/
def typed (dialect : Dialect) (h : FieldHead) :
    Reader (Label × TypeRef × Option (TypeRef × TypeRef)) := do
  let isWord ← take? "map"
  if isWord && (← sees "<") then
    let types ← mapTypes dialect h
    return (.repeated, .named "", some types)
  else
    if h.label.isNone && dialect == .proto2 then
      note (.expected "\"required\", \"optional\", or \"repeated\"")
    let t ← if isWord then pure (.named "map") else fieldType dialect
    return (h.label.getD .optional, t, none)

/-- A field up to its options, and the message of a map. -/
def fieldFront (dialect : Dialect) (h : FieldHead) : Reader (FieldNode × List MessageNode) := do
  let typePlace ← place
  let (label, type, map) ← typed dialect h
  let namePlace ← place
  let name ← word "field name"
  expectOr "=" .noFieldNumber
  let numberPlace ← place
  let number ← integer "field number"
  let f ← fieldOptions
    { name, place := some namePlace, number, numberPlace := some numberPlace, label, type,
      typePlace := some typePlace, extendee := h.extendee, extendeePlace := h.extendeePlace,
      oneof := h.oneof, asksPresence := h.asksPresence, isMap := map.isSome }
  match map with
  | some (key, value) =>
    return ({ f with type := .named (mapEntryName name) }, [mapEntry name key value])
  | none => return (f, [])

/-! ## Ranges -/

/-- A range of numbers: `number` reads a bound. -/
def range (number : String → Reader Int) (what : String) : Reader RangeNode := do
  let p ← place
  let first ← number what
  if ← take? "to" then
    if ← take? "max" then return ⟨first, none, p⟩ else return ⟨first, some (← number "integer"), p⟩
  else return ⟨first, some first, p⟩

def fieldNumber (what : String) : Reader Int := do return (← integer what : Nat)

/-- Ranges with commas between them; the first is asked for in other words. -/
def ranges (number : String → Reader Int) (first others : String) : Reader (List RangeNode) :=
  separated "," (fun rs =>
    return rs ++ [← range number (if rs.isEmpty then first else others)]) []

/-- Reserved ranges or names, behind their word; names are told from ranges by what `what` calls
them. -/
def reserved (dialect : Dialect) (what numbers : String) (number : String → Reader Int) :
    Reader (List RangeNode × List String) := do
  if ← seesKind .text then
    if dialect == .edition2023 then reject .reservedTextInEdition
    else
      let names ← separated "," (fun ns => return ns ++ [← quoted (what ++ " string literal")]) []
      expect ";"
      return ([], names)
  else if ← seesKind .word then
    if dialect != .edition2023 then reject .reservedWord
    else
      let names ← separated "," (fun ns => return ns ++ [← word (what ++ " identifier")]) []
      expect ";"
      return ([], names)
  else
    let rs ← ranges number (what ++ " or number range") numbers
    expect ";"
    return (rs, [])

/-! ## Enums -/

def enumValue (e : EnumNode) : Reader EnumNode := do
  let p ← place
  let name ← word "enum constant name"
  expectOr "=" .noEnumNumber
  let numberPlace ← place
  let number ← signed "integer"
  let options ← bracketedOptions
  expect ";"
  return { e with
    values := e.values ++
      [{ name, place := some p, number, numberPlace := some numberPlace, options }] }

def enumStatement (dialect : Dialect) (e : EnumNode) : Reader EnumNode := do
  if ← take? ";" then return e
  else if ← sees "option" then
    let os ← optionStatement e.options
    return { e with options := os }
  else if ← take? "reserved" then
    let (rs, names) ← reserved dialect "enum value" "enum number range" signed
    return { e with reserved := e.reserved ++ rs, reservedNames := e.reservedNames ++ names }
  else enumValue e

/-- An enum, which asks for shared numbers only if it has some. -/
def enumeration (dialect : Dialect) : Reader EnumNode := do
  expect "enum"
  let p ← place
  let name ← word "enum name"
  expect "\x7b"
  let e ← block "enum definition" (enumStatement dialect) { name, place := some p }
  match e.aliasing? with
  | some false => reject (.aliasingDenied name)
  | some true =>
    if (e.values.map (·.number)).Nodup then reject (.aliasingUnused name) else return e
  | none => return e

end Reader

end ProtoCheck.Language
