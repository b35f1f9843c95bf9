import ProtoCheck.Failure
import ProtoCheck.Store.Tree
import ProtoCheck.Text.Utf8

/-!
# Sources of files

Files come from memory, where names are looked up in their resolved form, or from a disk.

* `Content` : what a file in memory is given as, bytes or a text;
* `MemoryStore` : named contents, the last one added for a name counting;
* `Store`, `Store.read`, `Store.readParts` : either source, read at once or in parts;
* `AccessError` : why a name cannot be read, `AccessError.toStop` how that ends a run.
-/

namespace ProtoCheck

/-! ## Memory -/

/-- What a file is given as. -/
inductive Content where
  | bytes (b : Bytes)
  /-- A text, which is held as its UTF-8. -/
  | text (s : String)
  deriving DecidableEq, Repr

/-- The bytes that are held. -/
def Content.toBytes : Content → Bytes
  | .bytes b => b
  | .text s => Utf8.encodeString s

/-- Named contents by resolved name, the last one added first. -/
structure MemoryStore where
  entries : List (String × Bytes) := []
  deriving Repr

namespace MemoryStore

def add (m : MemoryStore) (name : String) (content : Bytes) : MemoryStore :=
  ⟨(normalised name, content) :: m.entries⟩

def get? (m : MemoryStore) (name : String) : Option Bytes :=
  m.entries.lookup (normalised name)

def contains (m : MemoryStore) (name : String) : Bool := (m.get? name).isSome

def ofList (files : List (String × Bytes)) : MemoryStore :=
  files.foldl (fun m f => m.add f.1 f.2) {}

def addContent (m : MemoryStore) (name : String) (content : Content) : MemoryStore :=
  m.add name content.toBytes

/-- With files added one after the other. -/
def addAll (m : MemoryStore) (files : List (String × Content)) : MemoryStore :=
  files.foldl (fun m f => m.addContent f.1 f.2) m

end MemoryStore

/-! ## Either source -/

/-- Why a name cannot be read. -/
inductive AccessError where
  /-- Memory holds no such name. -/
  | unknown (name : String)
  /-- The disk refuses it. -/
  | refused (name : String) (e : OsError)
  /-- It holds a NUL character, which no disk takes. -/
  | nul
  deriving DecidableEq, Repr

namespace AccessError

def message : AccessError → String
  | .unknown name => "unknown file " ++ name
  | .refused name e => "open " ++ name ++ ": " ++ e.message
  | .nul => "embedded null byte"

def toStop (e : AccessError) : Stop :=
  match e with
  | .unknown _ => .failed ⟨.access, e.message, none, none⟩
  | .refused _ os => .failed ⟨.access, e.message, none, some (.file os)⟩
  | .nul => .broken .nulInPath

end AccessError

/-- A source of files. -/
inductive Store where
  | memory (m : MemoryStore)
  | disk (t : Tree)

namespace Store

/-- The contents of a name. -/
def read (s : Store) (name : String) : Except AccessError Bytes :=
  match s with
  | .memory m =>
    match m.get? name with
    | some content => .ok content
    | none => .error (.unknown name)
  | .disk t =>
    if name.contains '\x00' then .error .nul
    else
      match t.read name with
      | .ok content => .ok content
      | .error e => .error (.refused name e)

/-- The contents of all files. -/
def contents : Store → List Bytes
  | .memory m => m.entries.map (·.2)
  | .disk t => t.nodes.filterMap fun n =>
    match n.2 with
    | .file content => some content
    | .directory => none

/-- Whether accesses are recorded: those to a disk are. -/
def recordsAccess : Store → Bool
  | .memory _ => false
  | .disk _ => true

end Store

/-- The bytes that reads of the given sizes give, one after the other; a negative size takes all
that is left. -/
def readInParts : Bytes → List Int → List Bytes
  | _, [] => []
  | content, n :: sizes =>
    let k := if n < 0 then content.length else n.toNat
    content.take k :: readInParts (content.drop k) sizes

/-- What reads of the given sizes give of a name that is opened for them. -/
def Store.readParts (s : Store) (name : String) (sizes : List Int) :
    Except AccessError (List Bytes) :=
  (s.read name).map (readInParts · sizes)

end ProtoCheck
