import ProtoCheck.Language.Build

/-!
# Declaring names

The names of a file are declared in the order of its declarations, those inside a message before
the message itself. What can be checked without knowing what names mean is checked on the way.

* `declareEnum`, `declareField`, `declareMessage`, `declareService` : the kinds of declarations;
* `declarePackage` : the names that a package brings along;
* `declareFile` : all names of a file.
-/

namespace ProtoCheck.Language

open Descriptor

namespace Building

/-! ## Enums -/

/-- Declares the values of an enum beside the enum. -/
def declareValues (scope : String) (e : EnumNode) : List EnumValueNode → List String → Building Unit
  | [], _ => return ()
  | v :: rest, before => do
    let fresh ← declare (qualified scope v.name) v.place (.enumValue (qualified scope e.name))
    reportIf (!fresh && !before.contains v.name) v.place (.enumScoping v.name scope e.name)
    declareValues scope e rest (v.name :: before)

/-- The names that stand behind an equal one. -/
def repeatedNames : List String → List String → List String
  | [], _ => []
  | n :: rest, before =>
    if before.contains n then n :: repeatedNames rest before else repeatedNames rest (n :: before)

/-- Reserved numbers and names of an enum against one another and its values. -/
def checkReservedValues (e : EnumNode) : Building Unit := do
  let span := RangeNode.span 2147483647
  for (a, b) in pairs e.reserved do
    reportIf ((span a).meets (span b)) (some a.place) (.reservedOverlap (span b) (span a))
  for n in repeatedNames e.reservedNames [] do report e.place (.valueNameReservedTwice n)
  for v in e.values do
    for r in e.reserved do
      reportIf ((span r).holds v.number) (some r.place) (.valueReserved v.name v.number)
    reportIf (e.reservedNames.contains v.name) v.place (.valueNameReserved v.name)

def declareEnum (scope : String) (e : EnumNode) : Building Unit := do
  reportIf e.values.isEmpty e.place .enumEmpty
  declareValues scope e e.values []
  for r in e.reserved do
    let s := r.span 2147483647
    reportIf (s.2 < s.1) (some r.place) (.rangeReversed "Reserved")
  declareName (qualified scope e.name) e.place
    (.enum (e.values.map fun v => (v.name, v.number)) (isClosed (← get).node e))
  checkReservedValues e

/-! ## Fields -/

/-- The numbers that fields may not have though they are small enough. -/
def libraryNumbers : Nat × Nat := (19000, 19999)

/-- Checks the number of a field, or of an extension declared there, in the scope `scope`. -/
def checkNumber (scope : String) (f : FieldNode) : Building Unit := do
  let fault : Option DeclarationFault :=
    if f.number = 0 then some .numberNotPositive
    else if f.extendee.isNone && maxFieldNumber < f.number then
      some (.numberTooGreat maxFieldNumber)
    else if libraryNumbers.1 ≤ f.number && f.number ≤ libraryNumbers.2 then
      some (.numberOfLibrary libraryNumbers.1 libraryNumbers.2)
    else none
  match fault with
  | some x =>
    hint scope f.numberPlace 1
    report f.numberPlace x
  | none => pure ()

def declareField (scope : String) (f : FieldNode) : Building Unit := do
  let full := qualified scope f.name
  reportIf (f.extendee.isSome && f.label == .required) f.typePlace (.extensionRequired full)
  match f.defaultValue with
  | some d => reportIf (f.label == .repeated) (some d.place) .defaultRepeated
  | none => pure ()
  checkNumber scope f
  declareName full f.place .field

/-! ## Messages -/

/-- How many numbers a range takes up, for the purpose of suggesting others. -/
def hintCount (r : Span) : Nat :=
  let fit := fun n : Int => min n.toNat maxFieldNumber
  fit (r.2 + 1) - fit r.1

/-- Checks a range by itself; `what` says whether it is open or reserved. -/
def checkRange (what message : String) (r : RangeNode) (s : Span) : Building Unit := do
  if s.1 ≤ 0 then
    hint message (some r.place) (hintCount s)
    report (some r.place) (.rangeNotPositive what)
  reportIf (s.2 < s.1) (some r.place) (.rangeReversed what)

/-- Declares what stands in a message, messages apart. -/
def declareInside (full : String) (m : MessageNode) : Building Unit := do
  for o in m.oneofs do declareName (qualified full o.name) o.place .oneof
  for f in m.fields do declareField full f
  for e in m.enums do declareEnum full e
  for r in m.extensionRanges do checkRange "Extension" full r (r.span m.maxNumber)
  for f in m.extensions do declareField full f
  for r in m.reserved do checkRange "Reserved" full r (r.span maxFieldNumber)

/-- Checks the fields of a message against its ranges and reserved names. -/
def checkFieldNumbers (full : String) (m : MessageNode) : Building Unit := do
  for f in m.fields do
    for r in m.extensionRanges do
      let s := r.span m.maxNumber
      if s.holds f.number then
        hint full (some r.place) 1
        report (some r.place) (.rangeHolds s f.name f.number)
    for r in m.reserved do
      if (r.span maxFieldNumber).holds f.number then
        hint full (some r.place) 1
        report (some r.place) (.fieldReserved f.name f.number)
    reportIf (m.reservedNames.contains f.name) f.place (.nameReserved f.name)

/-- For each item those behind it. -/
def later {α : Type} : List α → List (List α)
  | [] => []
  | _ :: xs => xs :: later xs

/-- Checks the ranges of a message against one another. -/
def checkRanges (m : MessageNode) : Building Unit := do
  let opened := RangeNode.span m.maxNumber
  let reserved := RangeNode.span maxFieldNumber
  for (r, others) in m.extensionRanges.zip (later m.extensionRanges) do
    for x in m.reserved do
      reportIf ((opened r).meets (reserved x)) (some r.place)
        (.rangeReserved (opened r) (reserved x))
    for x in others do
      reportIf ((opened r).meets (opened x)) (some r.place) (.rangeOverlap (opened x) (opened r))

/-- Declares a message, in which all else has been declared. -/
def declareMessage (full : String) (m : MessageNode) : Building Unit := do
  declareName full m.place (.message (m.extensionRanges.map (RangeNode.span m.maxNumber)))
  let reserved := RangeNode.span maxFieldNumber
  for (a, b) in pairs m.reserved do
    reportIf ((reserved a).meets (reserved b)) (some a.place)
      (.reservedOverlap (reserved b) (reserved a))
  for n in repeatedNames m.reservedNames [] do report m.place (.nameReservedTwice n)
  checkFieldNumbers full m
  checkRanges m

/-! ## Files -/

def declareService (scope : String) (s : ServiceNode) : Building Unit := do
  let full := qualified scope s.name
  for m in s.methods do declareName (qualified full m.name) (some m.place) .method
  declareName full (some s.place) .service

/-- Declares a package and those around it, the innermost first, up to one that is known. -/
def declarePackages (p : Option Position) : List String → Building Unit
  | [] => return ()
  | name :: rest => do
    let b ← get
    match b.view.known? name with
    | none =>
      set { b with view.symbols := b.view.symbols ++ [(⟨name, .package, b.file⟩ : Symbol)] }
      declarePackages p rest
    | some s => reportIf (s.entity != .package) p (.packageTaken name s.file)

def declarePackage (f : FileNode) : Building Unit :=
  if f.package.isEmpty then pure ()
  else declarePackages f.packagePlace (f.package :: enclosing f.package)

/-- Declares all names of a file but its package. -/
def declareFile (f : FileNode) : Building Unit := do
  MessageNode.walkAll declareInside declareMessage f.package f.messages
  for e in f.enums do declareEnum f.package e
  for s in f.services do declareService f.package s
  for x in f.extensions do declareField f.package x

end Building

end ProtoCheck.Language
