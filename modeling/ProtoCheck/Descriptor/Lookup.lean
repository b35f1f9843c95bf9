import ProtoCheck.Descriptor.Pool

/-!
# Finding a message type by name

* `FileDecl.declared?` : the first message at the top of a file with a simple or a full name;
* `findMessage?` : the same over several files.
-/

namespace ProtoCheck.Descriptor

namespace FileDecl

/-- The full name of a message at the top of a file. -/
def fullName (f : FileDecl) (m : MessageDecl) : String := qualified f.package m.name

/-- Whether a message at the top of a file has a name, simple or full. -/
def isCalled (f : FileDecl) (name : String) (m : MessageDecl) : Bool :=
  name == m.name || name == f.fullName m

/-- The full name of the first message at the top of a file that has a name. -/
def declared? (f : FileDecl) (name : String) : Option String :=
  (f.messages.find? (f.isCalled name)).map f.fullName

end FileDecl

/-- The first file that declares a message of a name, with the full name of the message. -/
def findMessage? (files : List FileDecl) (name : String) : Option (FileDecl × String) :=
  files.findSome? fun f => (f.declared? name).map fun full => (f, full)

/-- The files that are passed over before a message is found. -/
def passedOver (files : List FileDecl) (name : String) : List FileDecl :=
  files.takeWhile fun f => (f.declared? name).isNone

end ProtoCheck.Descriptor
