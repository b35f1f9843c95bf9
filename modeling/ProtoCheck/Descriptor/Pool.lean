import ProtoCheck.Descriptor

/-!
# Pools of types

The types of several files, found by their full names. A file is added after the files that it
depends on.

* `Field`, `MessageType`, `EnumType` : types with their full names;
* `Pool.add?`, `Pool.ofFiles?` : adding files whose names all resolve;
* `Pool.message?`, `Pool.enum?`, `Pool.extension?`, `MessageType.field?` : finding types and fields.
-/

namespace ProtoCheck.Descriptor

/-- A field of a message type, or an extension of one. -/
structure Field where
  name : String
  fullName : String
  number : Int
  label : Label
  kind : FieldKind
  /-- The message type that holds the field. -/
  owner : String
  /-- What the field is declared in: a message type, or the package for an extension there. -/
  scope : String
  /-- Whether a set field can be told from an unset one. -/
  presence : Bool
  oneof : Option String
  isExtension : Bool
  /-- Whether several numbers are written as one block. -/
  packed : Bool
  deriving DecidableEq, Repr, Inhabited

structure MessageType where
  name : String
  fullName : String
  file : String
  fields : List Field
  extendable : Bool
  mapEntry : Bool
  deriving DecidableEq, Repr, Inhabited

structure EnumType where
  fullName : String
  values : List (String × Int)
  /-- Whether only declared numbers are values. -/
  closed : Bool
  deriving DecidableEq, Repr, Inhabited

/-- The types of some files. -/
structure Pool where
  files : List FileDecl := []
  messages : List MessageType := []
  enums : List EnumType := []
  extensions : List Field := []
  deriving Inhabited

/-! ## Finding -/

namespace Pool

def file? (p : Pool) (name : String) : Option FileDecl := p.files.find? fun f => f.name == name

def message? (p : Pool) (name : String) : Option MessageType :=
  p.messages.find? fun m => m.fullName == name

def enum? (p : Pool) (name : String) : Option EnumType := p.enums.find? fun e => e.fullName == name

def extension? (p : Pool) (name : String) : Option Field :=
  p.extensions.find? fun x => x.fullName == name

end Pool

namespace MessageType

def field? (m : MessageType) (name : String) : Option Field :=
  m.fields.find? fun f => f.name == name

end MessageType

/-- The field of a message type with a number, extensions included. -/
def Pool.numbered? (p : Pool) (m : MessageType) (number : Int) : Option Field :=
  (m.fields.find? fun f => f.number == number).orElse fun _ =>
    p.extensions.find? fun x => x.owner == m.fullName && x.number == number

/-! ## Types of a file -/

/-- The field of a declaration inside `scope`, whose oneofs are `oneofs`. -/
def FieldDecl.toField (dialect : Dialect) (scope : String) (oneofs : List String)
    (f : FieldDecl) : Field where
  name := f.name
  fullName := qualified scope f.name
  number := f.number
  label := f.label
  kind := f.kind
  owner := f.extendee.getD scope
  scope := scope
  presence := f.tracksPresence dialect
  oneof := f.oneof.bind fun i => oneofs[i]?
  isExtension := f.extendee.isSome
  packed := f.packed.getD (dialect != .proto2)

def EnumDecl.toType (dialect : Dialect) (scope : String) (e : EnumDecl) : EnumType :=
  ⟨qualified scope e.name, e.values, e.closed.getD (dialect == .proto2)⟩

/-- The types and extensions of declarations. -/
structure Contents where
  messages : List MessageType := []
  enums : List EnumType := []
  extensions : List Field := []

instance : Append Contents :=
  ⟨fun a b => ⟨a.messages ++ b.messages, a.enums ++ b.enums, a.extensions ++ b.extensions⟩⟩

mutual

/-- The types of a message declaration inside `scope`, its own first. -/
def MessageDecl.contents (file : String) (dialect : Dialect) (scope : String) :
    MessageDecl → Contents
  | ⟨name, fields, messages, enums, extensions, extendable, oneofs, mapEntry⟩ =>
    let full := qualified scope name
    let own : MessageType :=
      ⟨name, full, file, fields.map (FieldDecl.toField dialect full oneofs), extendable, mapEntry⟩
    (⟨[own], enums.map (EnumDecl.toType dialect full),
        extensions.map (FieldDecl.toField dialect full [])⟩ : Contents) ++
      MessageDecl.allContents file dialect full messages

/-- The types of message declarations inside `scope`. -/
def MessageDecl.allContents (file : String) (dialect : Dialect) (scope : String) :
    List MessageDecl → Contents
  | [] => {}
  | m :: rest => m.contents file dialect scope ++ MessageDecl.allContents file dialect scope rest

end

/-- The types of a file. -/
def FileDecl.contents (f : FileDecl) : Contents :=
  (⟨[], f.enums.map (EnumDecl.toType f.dialect f.package),
      f.extensions.map (FieldDecl.toField f.dialect f.package [])⟩ : Contents) ++
    MessageDecl.allContents f.name f.dialect f.package f.messages

/-- The full names that declarations take. -/
def Contents.names (c : Contents) : List String :=
  c.messages.flatMap (fun m => m.fullName :: m.fields.map (·.fullName)) ++
    c.enums.map (·.fullName) ++ c.extensions.map (·.fullName)

/-- Whether the types that a field names are there. -/
def Pool.resolves (p : Pool) (f : Field) : Bool :=
  (match f.kind with
    | .scalar _ => true
    | .enum t => (p.enum? t).isSome
    | .message t | .group t => (p.message? t).isSome) &&
    (!f.isExtension || (p.message? f.owner).isSome)

namespace Pool

/-- The pool with one more file, if its dependencies are there, its names are free and the types
that it names are known. -/
def add? (p : Pool) (f : FileDecl) : Option Pool :=
  let c := f.contents
  let q : Pool := ⟨p.files ++ [f], p.messages ++ c.messages, p.enums ++ c.enums,
    p.extensions ++ c.extensions⟩
  let taken := (⟨p.messages, p.enums, p.extensions⟩ : Contents).names
  if (p.file? f.name).isNone && f.dependencies.all (fun d => (p.file? d).isSome) &&
      c.names.all (fun n => !taken.contains n) && c.names.Nodup &&
      (c.messages.flatMap (·.fields)).all q.resolves && c.extensions.all q.resolves
  then some q else none

/-- The pool of files in order. -/
def ofFiles? (files : List FileDecl) : Option Pool := files.foldlM add? {}

end Pool

end ProtoCheck.Descriptor
