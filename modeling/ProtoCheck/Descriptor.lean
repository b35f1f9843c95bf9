/-!
# Schema descriptors

What a schema compiler writes about the files it read: their messages, fields, enums and
extensions. Names of types are full names, without a dot in front.

* `ScalarKind`, `FieldKind`, `Label` : the kinds of fields;
* `FieldDecl`, `EnumDecl`, `MessageDecl`, `FileDecl` : the declarations;
* `FieldDecl.tracksPresence` : whether a field can be told from an unset one at its default.
-/

namespace ProtoCheck.Descriptor

/-- The kinds of fields that hold no message and no enum. -/
inductive ScalarKind where
  | double
  | float
  | int32
  | int64
  | uint32
  | uint64
  | sint32
  | sint64
  | fixed32
  | fixed64
  | sfixed32
  | sfixed64
  | bool
  | string
  | bytes
  deriving DecidableEq, Repr, Inhabited

/-- The word for a scalar kind in a schema. -/
def ScalarKind.name : ScalarKind → String
  | .double => "double"
  | .float => "float"
  | .int32 => "int32"
  | .int64 => "int64"
  | .uint32 => "uint32"
  | .uint64 => "uint64"
  | .sint32 => "sint32"
  | .sint64 => "sint64"
  | .fixed32 => "fixed32"
  | .fixed64 => "fixed64"
  | .sfixed32 => "sfixed32"
  | .sfixed64 => "sfixed64"
  | .bool => "bool"
  | .string => "string"
  | .bytes => "bytes"

def ScalarKind.all : List ScalarKind :=
  [.double, .float, .int32, .int64, .uint32, .uint64, .sint32, .sint64, .fixed32, .fixed64,
    .sfixed32, .sfixed64, .bool, .string, .bytes]

/-- The kind of a field; the others name the type of their values. -/
inductive FieldKind where
  | scalar (k : ScalarKind)
  | enum (type : String)
  | message (type : String)
  /-- A message that is declared together with its field. -/
  | group (type : String)
  deriving DecidableEq, Repr, Inhabited

/-- The message type of a field that has one. -/
def FieldKind.messageType? : FieldKind → Option String
  | .message t | .group t => some t
  | _ => none

inductive Label where
  | optional
  | required
  | repeated
  deriving DecidableEq, Repr, Inhabited

/-- The language versions of schema files. -/
inductive Dialect where
  | proto2
  | proto3
  | edition2023
  deriving DecidableEq, Repr, Inhabited

/-- A declared field, or an extension of the message type `extendee`. -/
structure FieldDecl where
  name : String
  number : Int
  label : Label
  kind : FieldKind
  extendee : Option String := none
  /-- The oneof of the field, as an index into those of its message. -/
  oneof : Option Nat := none
  /-- A feature takes the field's presence away. -/
  implicit : Bool := false
  /-- Whether several values are written as one block, where the declaration says so. -/
  packed : Option Bool := none
  deriving DecidableEq, Repr, Inhabited

structure EnumDecl where
  name : String
  values : List (String × Int)
  /-- Whether only declared numbers are values, where a feature says so. -/
  closed : Option Bool := none
  deriving DecidableEq, Repr, Inhabited

structure MessageDecl where
  name : String
  fields : List FieldDecl := []
  messages : List MessageDecl := []
  enums : List EnumDecl := []
  extensions : List FieldDecl := []
  /-- Whether some range of field numbers is open to extensions. -/
  extendable : Bool := false
  oneofs : List String := []
  /-- Whether the message is the pair of key and value of a map field. -/
  mapEntry : Bool := false
  deriving Inhabited

structure FileDecl where
  name : String
  package : String := ""
  dependencies : List String := []
  dialect : Dialect := .proto2
  messages : List MessageDecl := []
  enums : List EnumDecl := []
  extensions : List FieldDecl := []
  deriving Inhabited

/-- A name inside a scope. -/
def qualified (scope name : String) : String := if scope.isEmpty then name else scope ++ "." ++ name

/-- Whether a field that is set can be told from one that is not. -/
def FieldDecl.tracksPresence (dialect : Dialect) (f : FieldDecl) : Bool :=
  f.label != .repeated &&
    (f.kind.messageType?.isSome || f.oneof.isSome || f.extendee.isSome ||
      (dialect != .proto3 && !f.implicit))

end ProtoCheck.Descriptor
