import ProtoCheck.Language.Option

/-!
# Rules of a language version

A file whose names and options are right is checked against the rules of its dialect.

* `checkFeatures` : features, which only one dialect has;
* `checkFields3`, `checkMessage3` : what `proto3` leaves out;
* `checkJsonNames`, `checkEnumNames` : names that other formats cannot tell apart;
* `checkField`, `checkEnum`, `checkMessage`, `checkRules` : the rules of all dialects;
* `checkMapEntries` : names that the message of a map takes away.
-/

namespace ProtoCheck.Language

open Descriptor

namespace Building

/-- The field of a full name, when its type is known. -/
def linked? (full : String) : Building (Option LinkedField) := do
  return (← get).fields.find? fun f => f.fullName == full

/-- The values of an enum, and whether it has only these. -/
def enum? (name : String) : Building (Option (List (String × Int) × Bool)) := do
  return (← get).view.symbols.findSome? fun s =>
    if s.name == name then
      match s.entity with
      | .enum values closed => some (values, closed)
      | _ => none
    else none

/-! ## Features -/

def setsFeatures (os : List OptionNode) : Bool :=
  os.any fun o => o.name.head? == some ⟨"features", false⟩

/-- The presence that a field asks for, or else its file. -/
def presence? (file : FileNode) (f : FieldNode) : Option String :=
  let feature := ["features", "field_presence"]
  (optionWord? f.options feature).orElse fun _ => optionWord? file.options feature

/-- Whether a feature takes the presence of a field away. -/
def isImplicit (file : FileNode) (f : FieldNode) (kind : FieldKind) : Bool :=
  file.dialect == .edition2023 && presence? file f == some "IMPLICIT" && f.label != .repeated &&
    f.oneof.isNone && f.extendee.isNone && kind.messageType?.isNone

/-- The features of a field in the dialect that has them. -/
def checkFieldFeatures (scope : String) (f : FieldNode) : Building Unit := do
  let b ← get
  match ← linked? (qualified scope f.name) with
  | none => pure ()
  | some x =>
    reportIf (optionWord? f.options ["packed"]).isSome f.place .packedHere
    if isImplicit b.node f x.kind then
      reportIf f.defaultValue.isSome f.place .implicitDefault
      if let .enum e := x.kind then
        reportIf (((← enum? e).map (·.2)).getD false) f.place .implicitClosedEnum
    let own := optionWord? f.options ["features", "field_presence"]
    if own.isSome then
      if f.oneof.isSome then report f.place .presenceOfOneof
      else if f.label == .repeated then report f.place .presenceOfRepeated
      else if f.extendee.isSome then report f.place .presenceOfExtension
      else reportIf (x.kind.messageType?.isSome && own == some "IMPLICIT") f.place .implicitMessage

/-- Features where there are none. -/
def denyFeatures (p : Option Position) (os : List OptionNode) : Building Unit :=
  reportIf (setsFeatures os) p .featuresHere

def checkEnumFeatures (e : EnumNode) : Building Unit := do
  denyFeatures e.place e.options
  for v in e.values do denyFeatures v.place v.options

def checkMessageFeatures (full : String) (m : MessageNode) : Building Unit := do
  if (← get).node.dialect == .edition2023 then
    for f in m.fields ++ m.extensions do checkFieldFeatures full f
  else
    denyFeatures m.place m.options
    for e in m.enums do checkEnumFeatures e
    for o in m.oneofs do denyFeatures o.place o.options
    for f in m.fields ++ m.extensions do denyFeatures f.place f.options

def checkFeatures (f : FileNode) : Building Unit := do
  if f.dialect != .edition2023 then denyFeatures none f.options
  MessageNode.walkAll checkMessageFeatures (fun _ _ => pure ()) f.package f.messages
  if f.dialect == .edition2023 then
    for x in f.extensions do checkFieldFeatures f.package x
  else
    for e in f.enums do checkEnumFeatures e
    for x in f.extensions do denyFeatures x.place x.options
    for s in f.services do denyFeatures (some s.place) s.options

/-! ## What `proto3` leaves out -/

/-- The message types that may be extended where nothing else may: those whose fields are
options. -/
def optionTypes : List String :=
  [Target.file, .message, .field, .oneof, .range, .enum, .enumValue, .service, .method].map fun t =>
    qualified "google.protobuf" t.typeName

def checkField3 (scope : String) (f : FieldNode) : Building Unit := do
  match ← linked? (qualified scope f.name) with
  | none => pure ()
  | some x =>
    reportIf (x.isExtension && !optionTypes.contains x.owner) f.extendeePlace .extensionsHere
    reportIf (f.label == .required) f.typePlace .requiredHere
    if let some d := f.defaultValue then report (some d.place) .defaultHere
    match x.kind with
    | .enum e =>
      reportIf (((← enum? e).map (·.2)).getD false) f.typePlace (.closedEnumHere e x.owner)
    | .group _ => report f.typePlace .groupHere
    | _ => pure ()

def checkMessage3 (full : String) (m : MessageNode) : Building Unit := do
  for f in m.fields do checkField3 full f
  for f in m.extensions do checkField3 full f
  if let r :: _ := m.extensionRanges then report (some r.place) .rangesHere
  reportIf m.isSet m.place .messageSetHere

/-! ## Names that collide elsewhere -/

/-- The name of a field in JSON where it is not given. -/
def plainJsonName (f : FieldNode) : String := String.ofList (camelCase false f.name.toList)

/-- The name of a field in JSON, and whether it is one that is given. -/
def jsonNameOf (custom : Bool) (f : FieldNode) : String × Bool :=
  match f.jsonName with
  | some n => if custom && n != plainJsonName f then (n, true) else (plainJsonName f, false)
  | none => (plainJsonName f, false)

/-- Compares the names of fields in JSON with those of earlier fields. -/
def checkJsonNamesFrom (custom lenient : Bool) :
    List FieldNode → List (String × Bool × String) → Building Unit
  | [], _ => return ()
  | f :: rest, before => do
    let (name, isCustom) := jsonNameOf custom f
    match before.find? fun x => x.1 == name with
    | none => checkJsonNamesFrom custom lenient rest (before ++ [(name, isCustom, f.name)])
    | some (_, earlierCustom, earlier) =>
      if !custom || isCustom || earlierCustom then
        let fault : DeclarationFault := .jsonNames isCustom f.name name earlierCustom earlier
        if lenient && !(isCustom && earlierCustom) then warn f.place fault else report f.place fault
      checkJsonNamesFrom custom lenient rest before

/-- Fields of a message whose names in JSON are the same. Where the dialect is lenient, only given
names must differ. -/
def checkJsonNames (m : MessageNode) : Building Unit := do
  let lenient := (← get).node.dialect == .proto2
  if optionWord? m.options ["deprecated_legacy_json_field_conflicts"] != some "true" then
    checkJsonNamesFrom false lenient m.fields []
    checkJsonNamesFrom true lenient m.fields []

/-- A text without the front that spells `front`, in any case and with any underscores, and without
the underscores behind it. -/
def withoutFront (front : List Char) (s : List Char) : Option (List Char) :=
  match s, front with
  | s, [] => some (s.dropWhile (· == '_'))
  | [], _ => none
  | '_' :: rest, front => withoutFront front rest
  | c :: rest, d :: front => if c.toLower == d then withoutFront front rest else none

/-- The letters of a name in lower case, each at the start or behind an underscore a capital. -/
def pascalCase (upper : Bool) : List Char → List Char
  | [] => []
  | '_' :: rest => pascalCase true rest
  | c :: rest => (if upper then c.toUpper else c.toLower) :: pascalCase false rest

/-- What an enum value is called where the name of its enum is left out. -/
def shortValueName (enum value : String) : String :=
  let front := (enum.toList.filter (· != '_')).map Char.toLower
  let short :=
    match withoutFront front value.toList with
    | some (c :: rest) => c :: rest
    | _ => value.toList
  String.ofList (pascalCase true short)

/-- Compares the short names of values with those of earlier values. -/
def checkEnumNamesFrom (enum : String) (lenient : Bool) :
    List EnumValueNode → List (String × EnumValueNode) → Building Unit
  | [], _ => return ()
  | v :: rest, before => do
    let short := shortValueName enum v.name
    match before.find? fun x => x.1 == short with
    | none => checkEnumNamesFrom enum lenient rest (before ++ [(short, v)])
    | some (_, earlier) =>
      if earlier.name != v.name && earlier.number != v.number then
        let fault : DeclarationFault := .enumNamesAlike v.name earlier.name
        if lenient then warn v.place fault else report v.place fault
      checkEnumNamesFrom enum lenient rest before

def checkEnumNames (e : EnumNode) : Building Unit := do
  let lenient := (← get).node.dialect == .proto2 &&
    optionWord? e.options ["deprecated_legacy_json_field_conflicts"] == some "true"
  checkEnumNamesFrom e.name lenient e.values []

/-! ## Rules of all dialects -/

/-- The first number from `n` on that is not used. Fuel bounds how many are. -/
def firstFree (used : List Int) : Nat → Int → Int
  | 0, n => n
  | fuel + 1, n => if used.contains n then firstFree used fuel (n + 1) else n

/-- Compares the numbers of values with those of earlier values. -/
def checkEnumNumbers (scope : String) (used : List Int) :
    List EnumValueNode → List EnumValueNode → Building Unit
  | [], _ => return ()
  | v :: rest, before => do
    match before.find? fun x => x.number == v.number with
    | none => checkEnumNumbers scope used rest (before ++ [v])
    | some earlier =>
      let free := firstFree used used.length (v.number + 1)
      report v.numberPlace
        (.enumNumberShared (qualified scope v.name) (qualified scope earlier.name)
        (if free < 2147483647 then some free else none))
      checkEnumNumbers scope used rest before

def checkEnum (scope : String) (e : EnumNode) : Building Unit := do
  checkEnumNames e
  if let v :: _ := e.values then
    reportIf (!isClosed (← get).node e && v.number != 0) v.numberPlace .enumFirst
  if e.aliasing? != some true then
    checkEnumNumbers scope (e.values.map (·.number)) e.values []

/-- Whether several values of a field can be written as one block. -/
def isPackable (label : Label) (kind : FieldKind) : Bool :=
  label == .repeated &&
    match kind with
    | .scalar .string | .scalar .bytes => false
    | .scalar _ | .enum _ => true
    | _ => false

/-- The types of key and value of a map. -/
def checkMap (p : Option Position) (entry : String) : Building Unit := do
  match (← linked? (qualified entry "key")).map LinkedField.kind with
  | some (.enum _) => report p .mapKeyEnum
  | some (.scalar .float) | some (.scalar .double) | some (.scalar .bytes) | some (.message _)
  | some (.group _) => report p .mapKeyKind
  | _ => pure ()
  match (← linked? (qualified entry "value")).map LinkedField.kind with
  | some (.enum e) =>
    match (← enum? e).map Prod.fst with
    | some ((_, n) :: _) => reportIf (n != 0) p .mapValueEnum
    | _ => pure ()
  | _ => pure ()

def checkField (scope : String) (f : FieldNode) : Building Unit := do
  match ← linked? (qualified scope f.name) with
  | none => pure ()
  | some x =>
    reportIf (optionWord? f.options ["packed"] == some "true" && !isPackable f.label x.kind)
      f.typePlace .packedKind
    if f.isMap then
      if let .message t := x.kind then checkMap f.typePlace t
    reportIf (f.extendee.isSome && (jsonNameOf true f).2) f.jsonNamePlace .jsonNameOfExtension

/-- The rules for a message and what stands in it, up to the messages inside it. -/
def checkMessage (full : String) (m : MessageNode) : Building Unit := do
  checkJsonNames m
  for r in m.extensionRanges do
    reportIf ((r.span m.maxNumber).2 > m.maxNumber) (some r.place) (.rangeTooGreat m.maxNumber)
  for e in m.enums do checkEnum full e
  for f in m.fields do checkField full f

/-- The rules for the extensions in a message. -/
def checkExtensions (full : String) (m : MessageNode) : Building Unit := do
  for f in m.extensions do checkField full f

/-- The rules for a whole file. -/
def checkRules (f : FileNode) : Building Unit := do
  if f.dialect == .proto3 then
    for x in f.extensions do checkField3 f.package x
    MessageNode.walkAll (fun _ _ => pure ()) checkMessage3 f.package f.messages
  MessageNode.walkAll checkMessage checkExtensions f.package f.messages
  for e in f.enums do checkEnum f.package e
  for x in f.extensions do checkField f.package x

/-! ## The messages of maps -/

/-- Compares the messages inside a message with those before them. -/
def checkNested (p : Option Position) : List MessageNode → List MessageNode → Building Unit
  | [], _ => return ()
  | m :: rest, before =>
    match before.find? fun x => x.name == m.name with
    | some x =>
      if x.mapEntry || m.mapEntry then report p (.mapEntryTaken m.name "nested message type")
      else checkNested p rest before
    | none => checkNested p rest (before ++ [m])

/-- Compares the names of the messages of maps with all others in a message. -/
def checkMapEntries (_full : String) (m : MessageNode) : Building Unit := do
  checkNested m.place m.messages []
  let taken := fun (names : List String) (what : String) => do
    for n in names do
      reportIf (m.messages.any fun x => x.mapEntry && x.name == n) m.place (.mapEntryTaken n what)
  taken (m.fields.map (·.name)) "field"
  taken (m.enums.map (·.name)) "enum type"
  taken (m.oneofs.map (·.name)) "oneof type"

end Building

end ProtoCheck.Language
