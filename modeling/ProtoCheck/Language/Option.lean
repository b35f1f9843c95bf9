import ProtoCheck.Language.Bundle
import ProtoCheck.Language.Link

/-!
# Options

What options there are is declared by the bundled description of schemas: each kind of declaration
has a message type whose fields are its options. Other schemas add options by extending it.

* `Target` : what options are set for;
* `optionField` : the field that the name of an option means;
* `valueFault` : why a value is none of a field;
* `checkOptions` : the options of a declaration, up to the first that is wrong;
* `checkFileOptions` : the options of a whole file.
-/

namespace ProtoCheck.Language

open Descriptor

/-! ## The options that there are -/

/-- What options are set for. -/
inductive Target where
  | file
  | message
  | field
  | oneof
  | range
  | enum
  | enumValue
  | service
  | method
  deriving DecidableEq, Repr

/-- The simple name of the message type whose fields are options. -/
def Target.typeName : Target → String
  | .file => "FileOptions"
  | .message => "MessageOptions"
  | .field => "FieldOptions"
  | .oneof => "OneofOptions"
  | .range => "ExtensionRangeOptions"
  | .enum => "EnumOptions"
  | .enumValue => "EnumValueOptions"
  | .service => "ServiceOptions"
  | .method => "MethodOptions"

/-- A file before its declarations are looked at. The files in `seen` come with their packages. -/
def Build.start (file : String) (node : FileNode) (l : Loaded) (seen : List (String × String)) :
    Build :=
  { file, node, view := ⟨l.symbols, seen⟩, fields := l.fields }

/-- The bundled description of schemas. -/
def described : Build :=
  let start := Build.start Bundle.descriptorName Bundle.descriptorFile {}
    [(Bundle.descriptorName, Bundle.descriptorFile.package)]
  (StateT.run (do
    Building.declarePackage Bundle.descriptorFile
    Building.declareFile Bundle.descriptorFile
    Building.linkFile Bundle.descriptorFile : Building Unit) start).2

namespace Building

/-- The simple name of a declaration. -/
def simple (full : String) : String := (splitLast full).1

/-! ## Names -/

/-- The name of an option as it is shown. -/
def shownPart (p : OptionPart) : String := if p.isExtension then "(" ++ p.name ++ ")" else p.name

/-- The field that a part of an option's name means, in the message type `owner`. -/
def partField (scope owner shown : String) (p : OptionPart) :
    Building (Except DeclarationFault LinkedField) := do
  let b ← get
  if p.isExtension then
    let s ← lookUp false p.name scope
    match s.found.bind fun x => b.fields.find? fun f => f.fullName == x.name with
    | some f =>
      return if f.owner == owner then .ok f else .error (.optionForeign shown (simple owner))
    | none => return .error <|
      match s.missing with
      | some inner => .optionInner shown inner
      | none => .optionUnknown shown
  else
    let fields :=
      if described.fields.any fun f => f.owner == owner then described.fields else b.fields
    match fields.find? fun f => f.owner == owner && f.name == p.name && !f.isExtension with
    | some f => return .ok f
    | none => return .error (.optionUnknown shown)

/-- The field that the name of an option means, its first part being a field of `owner`. -/
def optionField (scope owner shown : String) : List OptionPart →
    Building (Except DeclarationFault LinkedField)
  | [] => return .error (.optionUnknown shown)
  | p :: rest => do
    let shown := (if shown.isEmpty then "" else shown ++ ".") ++ shownPart p
    match ← partField scope owner shown p with
    | .error e => return .error e
    | .ok f =>
      match rest, f.kind.messageType? with
      | [], _ => return .ok f
      | _, none => return .error (.optionAtomic shown)
      | rest, some t =>
        if f.label == .repeated then return .error (.optionRepeated shown)
        else optionField scope t shown rest

/-! ## Values -/

/-- Why a value is no integer from `least` to `greatest`. -/
def integerFault (kind option : String) (least greatest : Int) :
    OptionValue → Option DeclarationFault
  | .integer n =>
    if n < 0 && least = 0 then some (.valueInteger kind option)
    else if least ≤ n && n ≤ greatest then none
    else some (.valueRange kind option)
  | _ => some (.valueInteger kind option)

/-- The values of an enum. -/
def enumValues (b : Build) (enum : String) : List String :=
  (described.view.symbols ++ b.view.symbols).findSome? (fun s =>
    if s.name == enum then
      match s.entity with
      | .enum values _ => some (values.map (·.1))
      | _ => none
    else none) |>.getD []

/-- Why a value is none of a scalar. -/
def scalarFault (option : String) (k : ScalarKind) (v : OptionValue) : Option DeclarationFault :=
  match k with
  | .int32 | .sint32 | .sfixed32 => integerFault "int32" option (-2147483648) 2147483647 v
  | .int64 | .sint64 | .sfixed64 =>
    integerFault "int64" option (-9223372036854775808) 9223372036854775807 v
  | .uint32 | .fixed32 => integerFault "uint32" option 0 4294967295 v
  | .uint64 | .fixed64 => integerFault "uint64" option 0 18446744073709551615 v
  | .float | .double =>
    match v with
    | .integer _ | .decimal | .word "inf" | .word "nan" => none
    | _ => some (.valueNumber k.name option)
  | .bool =>
    match v with
    | .word "true" | .word "false" => none
    | .word _ => some (.valueBool option)
    | _ => some (.valueWordForBool option)
  | .string | .bytes => if v == .text then none else some (.valueText option)

/-- Why a value is none of a field. -/
def valueFault (b : Build) (f : LinkedField) (v : OptionValue) : Option DeclarationFault :=
  match f.kind with
  | .scalar k => scalarFault f.fullName k v
  | .enum e =>
    match v with
    | .word w =>
      if (enumValues b e).contains w then none else some (.valueOfEnum e w f.fullName)
    | _ => some (.valueWordForEnum f.fullName)
  | .message _ | .group _ => if v == .block then none else some (.valueMessage f.fullName f.name)

/-! ## Options of declarations -/

/-- An option of the declaration of the full name `scope`; those before it are set already. Answers
whether it is right. -/
def checkOption (target : Target) (scope : String) (before : List OptionNode) (o : OptionNode) :
    Building Bool := do
  let owner := qualified "google.protobuf" target.typeName
  if o.name.head? == some ⟨"uninterpreted_option", false⟩ then
    report (some o.namePlace) .optionReserved
    return false
  else
    match ← optionField scope owner "" o.name with
    | .error e =>
      report (some o.namePlace) e
      return false
    | .ok f =>
      if f.label != .repeated && before.any (fun p => p.name == o.name) then
        report (some o.namePlace) (.optionTwice (".".intercalate (o.name.map shownPart)))
        return false
      else
        match valueFault (← get) f o.value with
        | some e =>
          report (some o.valuePlace) e
          return false
        | none => return true

/-- Options, up to the first that is wrong. -/
def checkAll (target : Target) (scope : String) (before : List OptionNode) :
    List OptionNode → Building Unit
  | [] => return ()
  | o :: rest => do
    if ← checkOption target scope before o then checkAll target scope (before ++ [o]) rest

/-- The options of a declaration: the extensions among them, or the others. -/
def checkOptions (extensions : Bool) (target : Target) (scope : String) (os : List OptionNode) :
    Building Unit :=
  checkAll target scope []
    (os.filter fun o => (o.name.head?.map (·.isExtension)) == some extensions)

def checkEnumOptions (extensions : Bool) (scope : String) (e : EnumNode) : Building Unit := do
  for v in e.values do
    checkOptions extensions .enumValue (qualified scope v.name) v.options
  checkOptions extensions .enum (qualified scope e.name) e.options

/-- The options in a message, those of messages inside it apart. -/
def checkMessageOptions (extensions : Bool) (full : String) (m : MessageNode) : Building Unit := do
  for o in m.oneofs do checkOptions extensions .oneof (qualified full o.name) o.options
  for f in m.fields do checkOptions extensions .field (qualified full f.name) f.options
  for e in m.enums do checkEnumOptions extensions full e
  checkOptions extensions .range full m.extensionOptions
  for f in m.extensions do checkOptions extensions .field (qualified full f.name) f.options
  checkOptions extensions .message full m.options

/-- The options in a file. -/
def checkFileOptions (extensions : Bool) (f : FileNode) : Building Unit := do
  MessageNode.walkAll (checkMessageOptions extensions) (fun _ _ => pure ()) f.package f.messages
  for e in f.enums do checkEnumOptions extensions f.package e
  for s in f.services do
    let full := qualified f.package s.name
    for m in s.methods do checkOptions extensions .method (qualified full m.name) m.options
    checkOptions extensions .service full s.options
  for x in f.extensions do checkOptions extensions .field (qualified f.package x.name) x.options
  checkOptions extensions .file (qualified f.package "dummy") f.options

end Building

end ProtoCheck.Language
