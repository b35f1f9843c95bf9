import ProtoCheck.Language.Symbol

/-!
# Building a file

The declarations of a file are gone through several times: to declare their names, to find what
they name, and to check the rest. The faults stay in the order in which they are met.

* `LinkedField`, `Loaded` : what earlier files have left;
* `Build`, `Building` : the state of a file that is built, and steps on it;
* `report`, `warn`, `hint`, `declare`, `lookUp` : the steps;
* `MessageNode.walk` : going through messages and the messages inside them.
-/

namespace ProtoCheck.Language

open Descriptor

/-! ## What files leave -/

/-- A field, or an extension of `owner`, whose type is known. -/
structure LinkedField where
  name : String
  fullName : String
  owner : String
  number : Int
  kind : FieldKind
  label : Label
  isExtension : Bool
  file : String
  deriving DecidableEq, Repr, Inhabited

/-- A file that has been built: its package, the files whose declarations its importers see
through it, and what is written about it. -/
structure BuiltFile where
  name : String
  package : String
  publics : List String
  decl : FileDecl
  deriving Inhabited

/-- The files built so far with all that they declare. -/
structure Loaded where
  files : List BuiltFile := []
  symbols : List Symbol := []
  fields : List LinkedField := []
  deriving Inhabited

def Loaded.file? (l : Loaded) (name : String) : Option BuiltFile :=
  l.files.find? fun f => f.name == name

/-! ## The state -/

/-- Free numbers to be suggested for a message, and the place that first asked for them. -/
structure Hint where
  message : String
  count : Nat
  place : Option Position
  deriving Repr, Inhabited

/-- What is found about a file; a warning leaves it valid. -/
structure Finding where
  place : Option Position
  fault : DeclarationFault
  isWarning : Bool := false
  deriving DecidableEq, Repr

/-- A file that is built. -/
structure Build where
  file : String
  node : FileNode
  view : View
  fields : List LinkedField
  /-- The full names of fields by their messages and numbers. -/
  numbered : List (String × Int × String) := []
  hints : List Hint := []
  met : List String := []
  findings : List Finding := []

abbrev Building := StateM Build

/-- Whether something is wrong with the file. -/
def Build.isFaulty (b : Build) : Bool := b.findings.any fun f => !f.isWarning

namespace Building

def report (p : Option Position) (f : DeclarationFault) : Building Unit :=
  modify fun b => { b with findings := b.findings ++ [⟨p, f, false⟩] }

def warn (p : Option Position) (f : DeclarationFault) : Building Unit :=
  modify fun b => { b with findings := b.findings ++ [⟨p, f, true⟩] }

def reportIf (c : Bool) (p : Option Position) (f : DeclarationFault) : Building Unit :=
  if c then report p f else pure ()

/-- Asks for so many free numbers of a message. -/
def hint (message : String) (p : Option Position) (count : Nat) : Building Unit :=
  modify fun b =>
    { b with
      hints :=
        if b.hints.any fun h => h.message == message then
          b.hints.map fun h =>
            if h.message == message then { h with count := h.count + count } else h
        else b.hints ++ [⟨message, count, p⟩] }

/-- The part of a name behind its last point, and the part before. -/
def splitLast (name : String) : String × String :=
  let parts := name.splitOn "."
  (parts.getLastD "", ".".intercalate parts.dropLast)

/-- Declares a full name unless it stands for something already. -/
def declare (name : String) (p : Option Position) (e : Entity) : Building Bool := do
  let b ← get
  match b.view.known? name with
  | none =>
    set { b with view.symbols := b.view.symbols ++ [(⟨name, e, b.file⟩ : Symbol)] }
    return true
  | some earlier =>
    let (last, scope) := splitLast name
    report p <|
      if earlier.file != b.file then .definedInFile name earlier.file
      else if scope.isEmpty then .defined name
      else .definedIn last scope
    return false

/-- Declares a name that nothing more depends on. -/
def declareName (name : String) (p : Option Position) (e : Entity) : Building Unit := do
  let _ ← declare name p e

/-- What a name means inside a declaration; the files met count as used. -/
def lookUp (onlyTypes : Bool) (name inside : String) : Building Search := do
  let b ← get
  let s := b.view.resolve onlyTypes name inside
  set { b with met := s.met ++ b.met }
  return s

/-- Reports why a name means nothing. -/
def reportMissing (p : Option Position) (s : Search) (name : String) : Building Unit := do
  for f in s.faults (← get).file name do report p f

end Building

/-! ## Going through messages -/

mutual

/-- Does something before and after the messages inside a message, given its full name. -/
def MessageNode.walk (before after : String → MessageNode → Building Unit) (scope : String) :
    MessageNode → Building Unit
  | ⟨name, place, fields, messages, enums, ranges, rangeOptions, extensions, oneofs, reserved,
      names, options, entry⟩ => do
    let m : MessageNode := ⟨name, place, fields, messages, enums, ranges, rangeOptions, extensions,
      oneofs, reserved, names, options, entry⟩
    let full := qualified scope name
    before full m
    MessageNode.walkAll before after full messages
    after full m

/-- The same for the messages of a scope, one after the other. -/
def MessageNode.walkAll (before after : String → MessageNode → Building Unit) (scope : String) :
    List MessageNode → Building Unit
  | [] => return ()
  | m :: rest => do
    m.walk before after scope
    MessageNode.walkAll before after scope rest

end

/-- The pairs of an item and a later one. -/
def pairs {α : Type} : List α → List (α × α)
  | [] => []
  | x :: xs => xs.map (x, ·) ++ pairs xs

/-! ## Options that other checks look at -/

/-- The word that an option is set to. -/
def optionWord? (os : List OptionNode) (name : List String) : Option String :=
  os.findSome? fun o =>
    if o.name == name.map (⟨·, false⟩) then
      match o.value with
      | .word w => some w
      | _ => none
    else none

/-- Whether a message holds only extensions, by their numbers alone. -/
def MessageNode.isSet (m : MessageNode) : Bool :=
  optionWord? m.options ["message_set_wire_format"] == some "true"

/-- The greatest number of a field. -/
def maxFieldNumber : Nat := 536870911

/-- The greatest number that a message can open to extensions. -/
def MessageNode.maxNumber (m : MessageNode) : Nat := if m.isSet then 2147483646 else maxFieldNumber

/-- A range with its last number, which is `greatest` where none is given. -/
def RangeNode.span (greatest : Int) (r : RangeNode) : Span := (r.first, r.last.getD greatest)

def Span.meets (a b : Span) : Bool := a.1 ≤ b.2 && b.1 ≤ a.2

def Span.holds (a : Span) (n : Int) : Bool := a.1 ≤ n && n ≤ a.2

/-- Whether an enum has no values but those it declares: a feature of it or of its file says so, or
else the dialect. -/
def isClosed (file : FileNode) (e : EnumNode) : Bool :=
  let feature := ["features", "enum_type"]
  match (optionWord? e.options feature).orElse fun _ => optionWord? file.options feature with
  | some w => w == "CLOSED"
  | none => file.dialect == .proto2

end ProtoCheck.Language
