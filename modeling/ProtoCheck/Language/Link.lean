import ProtoCheck.Language.Declare

/-!
# Finding what names mean

When all names of a file are declared, the types of fields and methods are looked up, and the
numbers of fields are compared.

* `linkField`, `linkMessage`, `linkService`, `linkFile` : looking types up;
* `takeNumber` : a field takes its number, if it is free;
* `freeNumbers`, `suggest` : numbers that are suggested for the fields of a message.
-/

namespace ProtoCheck.Language

open Descriptor

namespace Building

/-! ## Numbers -/

/-- The length of the longest front part of the fields whose numbers are one, two, three, …. -/
def runOfNumbers (i : Nat) : List FieldNode → Nat
  | [] => i
  | f :: rest => if f.number = i + 1 then runOfNumbers (i + 1) rest else i

/-- The fields of a message that are numbered without a gap take their numbers first. -/
def takeFirstNumbers (full : String) (m : MessageNode) : Building Unit := do
  let first := m.fields.take (runOfNumbers 0 m.fields)
  modify fun b =>
    { b with
      numbered := b.numbered ++ first.map fun f => (full, (f.number : Int), qualified full f.name) }

/-- A field takes its number, unless another has it; an extension may not have the number of one in
another file either. -/
def takeNumber (owner full : String) (f : FieldNode) : Building Unit := do
  let b ← get
  let number : Int := f.number
  let isExtension := f.extendee.isSome
  match b.numbered.find? fun n => n.1 == owner && n.2.1 == number with
  | some (_, _, other) =>
    report f.numberPlace <|
      if isExtension then .extensionTaken number owner other
      else .numberTaken number owner (splitLast other).1
  | none =>
    set { b with numbered := b.numbered ++ [(owner, number, full)] }
    if isExtension then
      match b.fields.find? fun x => x.isExtension && x.owner == owner && x.number == number with
      | some x => report f.numberPlace (.extensionTakenIn number owner x.fullName x.file)
      | none => pure ()

/-! ## Types -/

/-- The message type that an extension extends. -/
def linkExtendee (full : String) (f : FieldNode) (extendee : String) :
    Building (Option String) := do
  let s ← lookUp false extendee full
  match s.found with
  | none =>
    reportMissing f.extendeePlace s extendee
    return none
  | some x =>
    match x.entity with
    | .message ranges =>
      reportIf (!ranges.any fun r => r.holds f.number) f.numberPlace
        (.numberNotOpen f.number x.name)
      return some x.name
    | _ =>
      report f.extendeePlace (.notMessage extendee)
      return none

def isWord (s : String) : Bool :=
  match s.toList with
  | c :: rest => startsWord c && rest.all isWordPart
  | [] => false

/-- Checks the default value of a field of an enum type. -/
def checkEnumDefault (enum : String) (d : DefaultNode) : Building Unit := do
  if !isWord d.text then report (some d.place) .defaultNotWord
  else
    let s ← lookUp false d.text enum
    match s.found.map Symbol.entity with
    | some (.enumValue e) => reportIf (e != enum) (some d.place) (.defaultNoValue enum d.text)
    | _ => report (some d.place) (.defaultNoValue enum d.text)

/-- The kind of a field whose type is the declaration of a name. -/
def linkNamed (full name : String) (f : FieldNode) : Building (Option FieldKind) := do
  let s ← lookUp true name full
  match s.found with
  | none =>
    reportMissing f.typePlace s name
    return none
  | some x =>
    match x.entity, f.type with
    | .message _, t =>
      if let some d := f.defaultValue then report (some d.place) .defaultMessage
      return some (match t with | .group _ => .group x.name | _ => .message x.name)
    | _, .group _ =>
      report f.typePlace (.notMessage name)
      return none
    | .enum _ _, _ =>
      if let some d := f.defaultValue then checkEnumDefault x.name d
      return some (.enum x.name)
    | _, _ =>
      report f.typePlace (.notType name)
      return none

def linkType (full : String) (f : FieldNode) : Building (Option FieldKind) :=
  match f.type with
  | .scalar k => return some (.scalar k)
  | .named name => linkNamed full name f
  | .group name => linkNamed full name f

/-- Finds the type of a field or an extension declared in `scope`, and gives it its number unless
it has taken it already. -/
def linkField (scope : String) (f : FieldNode) (hasNumber : Bool) : Building Unit := do
  let full := qualified scope f.name
  let owner? ← match f.extendee with
    | some e => linkExtendee full f e
    | none => pure (some scope)
  match owner? with
  | none => pure ()
  | some owner =>
    match ← linkType full f with
    | none => pure ()
    | some kind =>
      if !hasNumber then takeNumber owner full f
      let x : LinkedField :=
        ⟨f.name, full, owner, f.number, kind, f.label, f.extendee.isSome, (← get).file⟩
      modify fun b => { b with fields := b.fields ++ [x] }

def linkMessage (full : String) (m : MessageNode) : Building Unit := do
  let first := runOfNumbers 0 m.fields
  for (f, i) in m.fields.zipIdx do linkField full f (i < first)
  for f in m.extensions do linkField full f false
  for (o, i) in m.oneofs.zipIdx do
    reportIf (!m.fields.any fun f => f.oneof == some i) o.place .oneofEmpty

/-- Finds a message type of a method. -/
def linkMethodType (full name : String) (p : Position) : Building Unit := do
  let s ← lookUp false name full
  match s.found.map Symbol.entity with
  | none => reportMissing (some p) s name
  | some (.message _) => return ()
  | some _ => report (some p) (.notMessage name)

def linkService (scope : String) (s : ServiceNode) : Building Unit := do
  for m in s.methods do
    let full := qualified (qualified scope s.name) m.name
    linkMethodType full m.input m.inputPlace
    linkMethodType full m.output m.outputPlace

/-- Finds what all names in a file mean. -/
def linkFile (f : FileNode) : Building Unit := do
  MessageNode.walkAll takeFirstNumbers (fun _ _ => pure ()) f.package f.messages
  MessageNode.walkAll (fun _ _ => pure ()) linkMessage f.package f.messages
  for x in f.extensions do linkField f.package x false
  for s in f.services do linkService f.package s

/-! ## Suggested numbers -/

/-- The most numbers that are suggested at once. -/
def maxSuggestions : Nat := 3

/-- The first `count` numbers from `current` on that are in none of the ranges, which come in order,
their ends being the numbers behind them. -/
def freeNumbers (current count : Nat) : List (Nat × Nat) → List Nat
  | [] => []
  | (first, stop) :: rest =>
    let fresh := (List.range (min (first - current) count)).map (current + ·)
    fresh ++ freeNumbers (max (current + fresh.length) stop) (count - fresh.length) rest

/-- The numbers that a message uses or sets aside, as ranges in order. -/
def usedNumbers (m : MessageNode) : List (Nat × Nat) :=
  let clip := fun n : Int => min n.toNat (maxFieldNumber + 1)
  let single := fun f : FieldNode => (f.number, f.number + 1)
  let ranges := m.reserved.map (RangeNode.span maxFieldNumber) ++
    m.extensionRanges.map (RangeNode.span m.maxNumber)
  let all := (m.fields ++ m.extensions).filterMap (fun f =>
      if f.number = 0 || maxFieldNumber < f.number then none else some (single f)) ++
    (ranges.map fun s => (clip s.1, clip (s.2 + 1))).filter (fun r => r.1 < r.2) ++
    [(maxFieldNumber, maxFieldNumber + 1), libraryNumbers]
  all.mergeSort fun a b => a.1 < b.1 || (a.1 == b.1 && a.2 ≤ b.2)

/-- Suggests numbers for the messages at the top that asked for some. -/
def suggest (f : FileNode) : Building Unit := do
  for m in f.messages do
    let full := qualified f.package m.name
    match (← get).hints.find? fun h => h.message == full with
    | none => pure ()
    | some h =>
      let count := min maxSuggestions h.count
      reportIf (count != 0) h.place (.numbersFree full (freeNumbers 1 count (usedNumbers m)))

end Building

end ProtoCheck.Language
