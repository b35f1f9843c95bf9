import ProtoCheck.Descriptor
import ProtoCheck.Language.Token

/-!
# Declarations of schema sources

What a source declares, with the places that faults are reported at. What a declaration brings
along without writing it down, such as the message of a map, has no places.

* `TypeRef`, `OptionNode`, `RangeNode` : the parts of declarations;
* `FieldNode`, `EnumNode`, `MessageNode`, `ServiceNode`, `FileNode` : the declarations;
* `FieldNode.mapEntry`, `MessageNode.withPresence` : what fields bring along.
-/

namespace ProtoCheck.Language

open Descriptor

/-! ## Parts -/

/-- The type of a field, as it is written. -/
inductive TypeRef where
  | scalar (k : ScalarKind)
  /-- A name, looked up from inside the declaration unless a point stands in front. -/
  | named (name : String)
  /-- The message that is declared together with the field. -/
  | group (name : String)
  deriving DecidableEq, Repr, Inhabited

/-- A part of an option's name; that of an extension stands in parentheses. -/
structure OptionPart where
  name : String
  isExtension : Bool := false
  deriving DecidableEq, Repr, Inhabited

/-- The value of an option. -/
inductive OptionValue where
  | word (w : String)
  | integer (n : Int)
  | decimal
  | text
  | block
  deriving DecidableEq, Repr, Inhabited

structure OptionNode where
  name : List OptionPart
  value : OptionValue
  namePlace : Position
  valuePlace : Position
  deriving DecidableEq, Repr, Inhabited

/-- Numbers from the first to the last; without a last one, up to the greatest. -/
structure RangeNode where
  first : Int
  last : Option Int
  place : Position
  deriving DecidableEq, Repr, Inhabited

/-- A value that a field has where none is given; words and signs stay as they are written. -/
structure DefaultNode where
  text : String
  place : Position
  deriving DecidableEq, Repr, Inhabited

/-! ## Declarations -/

/-- A field, or an extension of the message type `extendee`. -/
structure FieldNode where
  name : String
  place : Option Position := none
  number : Nat
  numberPlace : Option Position := none
  label : Label := .optional
  type : TypeRef
  typePlace : Option Position := none
  extendee : Option String := none
  extendeePlace : Option Position := none
  oneof : Option Nat := none
  /-- A label asks for presence where fields have none by themselves. -/
  asksPresence : Bool := false
  isMap : Bool := false
  defaultValue : Option DefaultNode := none
  jsonName : Option String := none
  jsonNamePlace : Option Position := none
  options : List OptionNode := []
  deriving Repr, Inhabited

structure OneofNode where
  name : String
  place : Option Position := none
  options : List OptionNode := []
  deriving Repr, Inhabited

structure EnumValueNode where
  name : String
  place : Option Position := none
  number : Int
  numberPlace : Option Position := none
  options : List OptionNode := []
  deriving Repr, Inhabited

structure EnumNode where
  name : String
  place : Option Position := none
  values : List EnumValueNode := []
  reserved : List RangeNode := []
  reservedNames : List String := []
  options : List OptionNode := []
  deriving Repr, Inhabited

structure MessageNode where
  name : String
  place : Option Position := none
  fields : List FieldNode := []
  messages : List MessageNode := []
  enums : List EnumNode := []
  extensionRanges : List RangeNode := []
  extensionOptions : List OptionNode := []
  extensions : List FieldNode := []
  oneofs : List OneofNode := []
  reserved : List RangeNode := []
  reservedNames : List String := []
  options : List OptionNode := []
  /-- Whether the message is the pair of key and value of a map field. -/
  mapEntry : Bool := false
  deriving Inhabited

structure MethodNode where
  name : String
  place : Position
  input : String
  inputPlace : Position
  output : String
  outputPlace : Position
  options : List OptionNode := []
  deriving Repr, Inhabited

structure ServiceNode where
  name : String
  place : Position
  methods : List MethodNode := []
  options : List OptionNode := []
  deriving Repr, Inhabited

structure ImportNode where
  name : String
  isPublic : Bool := false
  place : Option Position := none
  deriving DecidableEq, Repr, Inhabited

structure FileNode where
  dialect : Dialect := .proto2
  package : String := ""
  packagePlace : Option Position := none
  imports : List ImportNode := []
  messages : List MessageNode := []
  enums : List EnumNode := []
  services : List ServiceNode := []
  extensions : List FieldNode := []
  options : List OptionNode := []
  deriving Inhabited

/-- Whether an enum says that its values may share numbers; `none` when it does not say. -/
def EnumNode.aliasing? (e : EnumNode) : Option Bool :=
  (e.options.find? fun o => o.name == [⟨"allow_alias", false⟩]).map fun o => o.value == .word "true"

/-! ## What fields bring along -/

/-- The letters of a name joined without underscores, each behind one a capital; the first letter
as `upper` says. -/
def camelCase (upper : Bool) : List Char → List Char
  | [] => []
  | '_' :: rest => camelCase true rest
  | c :: rest => (if upper then c.toUpper else c) :: camelCase false rest

/-- The name of the message type of a map field. -/
def mapEntryName (field : String) : String := String.ofList (camelCase true field.toList) ++ "Entry"

/-- The message type of a map field: a key and a value. -/
def mapEntry (field : String) (key value : TypeRef) : MessageNode where
  name := mapEntryName field
  fields := [
    { name := "key", number := 1, type := key }, { name := "value", number := 2, type := value }]
  mapEntry := true

/-- A name for the presence of a field that is not among `taken`. -/
def presenceName (taken : List String) : Nat → String → String
  | 0, name => name
  | n + 1, name => if taken.contains name then presenceName taken n ("X" ++ name) else name

/-- One more oneof for each field that asks for presence, with the field as its only member. -/
def MessageNode.withPresence (m : MessageNode) : MessageNode :=
  let names := m.fields.map (·.name) ++ m.oneofs.map (·.name)
  let (fields, oneofs) := m.fields.foldl (fun (fields, oneofs) f =>
    if f.asksPresence then
      let own := if f.name.startsWith "_" then f.name else "_" ++ f.name
      let taken := names ++ oneofs.map OneofNode.name
      (fields ++ [{ f with oneof := some oneofs.length }],
        oneofs ++ [{ name := presenceName taken (taken.length + 1) own }])
    else (fields ++ [f], oneofs)) ([], m.oneofs)
  { m with fields := fields, oneofs := oneofs }

end ProtoCheck.Language
