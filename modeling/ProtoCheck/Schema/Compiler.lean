import ProtoCheck.Descriptor.Lookup
import ProtoCheck.Descriptor.Wire
import ProtoCheck.Log
import ProtoCheck.Schema.Staging
import ProtoCheck.Text.Quoted

/-!
# Compiling schemas

A compiler is a program that is started on staged schemas and answers with a status, an error
output and perhaps the descriptors of what it compiled.

* `Invocation`, `Invocation.arguments` : one start of the compiler;
* `Answer`, `Compiler` : what it answers;
* `Journal`, `Traced` : a computation with its log records and its starts of the compiler;
* `compile`, `resolve` : compiling schemas, finding a message type in a compiled schema.
-/

namespace ProtoCheck.Schema

open Descriptor

/-! ## Starting a compiler -/

/-- One start: the number of import roots, the names to compile, the staged files. -/
structure Invocation where
  roots : Nat
  names : List String
  files : List StagedFile
  deriving DecidableEq, Repr

/-- The arguments of a start, the staging directory being `dir`: the compiler searches the
directories that files are staged in. -/
def Invocation.arguments (dir : String) (r : Invocation) : List String :=
  (List.range r.roots).map (fun i => "--proto_path=" ++ rootDirectory dir i) ++
    ["--include_imports", "--descriptor_set_out=" ++ dir ++ "/descriptor_set.pb"] ++ r.names

/-- A staged file as a path below the directory of all roots, with its size. -/
def StagedFile.listed (f : StagedFile) : String × Nat :=
  (toString f.root ++ "/" ++ f.name, f.content.length)

/-- The staged files by their paths. -/
def Invocation.listing (r : Invocation) : List (String × Nat) :=
  (r.files.map StagedFile.listed).mergeSort fun a b => a.1 ≤ b.1

/-- What a compiler leaves where the descriptors are expected. -/
inductive Written where
  | nothing
  | files (fs : List FileDecl)
  | bytes (bs : Bytes)

/-- What a start of a compiler comes to. -/
inductive Answer where
  | notStarted (e : StartError)
  /-- It ended, and one of its outputs is not UTF-8. -/
  | garbled
  | finished (status : Int) (output : String) (written : Written)

/-- A compiler: its command line, the staging directory, and its answers. The command line is one
without NUL characters, and the directory one that exists, with room for those of the roots in
it. -/
structure Compiler where
  command : List String
  directory : String
  answer : Invocation → Answer

/-! ## Journals -/

/-- What a computation has written to the log, how it has started the compiler, and the paths that
it has opened or tried to. -/
structure Journal where
  records : List Log.Record := []
  runs : List Invocation := []
  opened : List String := []
  deriving DecidableEq, Repr

instance : Append Journal :=
  ⟨fun a b => ⟨a.records ++ b.records, a.runs ++ b.runs, a.opened ++ b.opened⟩⟩

/-- A result, or what stopped the computation, with a journal. -/
structure Traced (α : Type) where
  result : Except Stop α
  journal : Journal := {}

namespace Traced

def pure {α : Type} (a : α) : Traced α := ⟨.ok a, {}⟩

def bind {α β : Type} (x : Traced α) (f : α → Traced β) : Traced β :=
  match x.result with
  | .error e => ⟨.error e, x.journal⟩
  | .ok a =>
    let y := f a
    ⟨y.result, x.journal ++ y.journal⟩

instance : Monad Traced where
  pure := Traced.pure
  bind := Traced.bind

def ofExcept {α : Type} (e : Except Stop α) : Traced α := ⟨e, {}⟩

def stop {α : Type} (e : Stop) : Traced α := ⟨.error e, {}⟩

def fail {α : Type} (f : Failure) : Traced α := stop (.failed f)

def log (records : List Log.Record) : Traced Unit := ⟨.ok (), { records }⟩

def start (r : Invocation) : Traced Unit := ⟨.ok (), { runs := [r] }⟩

def touch (path : String) : Traced Unit := ⟨.ok (), { opened := [path] }⟩

end Traced

/-! ## Reading answers -/

/-- The files that a compiler has written. -/
def Written.read? : Written → Except Breakdown (List FileDecl)
  | .nothing => .error .noDescriptorSet
  | .files fs => .ok fs
  | .bytes bs =>
    match filesOfBytes? bs with
    | some fs => .ok fs
    | none => .error .malformedDescriptorSet

/-- The compiled files of the requested names, among all types that were written. -/
structure Compiled where
  pool : Pool
  files : List FileDecl
  deriving Inhabited

/-- Loads what a compiler has written. -/
def load (names : List String) (w : Written) : Except Breakdown Compiled := do
  let files ← w.read?
  match Pool.ofFiles? files with
  | none => .error .inconsistentDescriptors
  | some pool =>
    match names.mapM pool.file? with
    | none => .error .schemaNotInSet
    | some fs => .ok ⟨pool, fs⟩

/-- The failure of a compiler that ends with a status other than zero. -/
def rejected (status : Int) (output : String) (ds : List Diagnostic) : Failure :=
  Failure.schemaCompile
    (if output.isEmpty then "protoc exited with status " ++ toString status else output)
    (Diagnostic.blamed ds) none none

/-- The failure of a compiler that cannot be started. -/
def unstarted (e : StartError) : Failure :=
  Failure.schemaCompile ("failed to run protoc: " ++ e.message) [] none (some (.start e))

/-- What follows from an answer: diagnostics go to the log when the status is zero, and into the
failure when it is not. -/
def settle (names : List String) : Answer → Traced Compiled
  | .notStarted e => .fail (unstarted e)
  | .garbled => .stop (.broken .outputNotUtf8)
  | .finished status output written =>
    let output := Text.trimmed output
    match Diagnostic.parse output with
    | none => .stop (.broken .numeralTooLong)
    | some ds =>
      if status != 0 then .fail (rejected status output ds)
      else do
        Traced.log (ds.map fun d => Log.Channel.schema.warn ("protoc: " ++ d.text))
        Traced.ofExcept ((load names written).mapError .broken)

/-! ## Compiling -/

/-- The roots that are searched: the current directory where none are given. -/
def searchedRoots (importPaths : List String) : List String :=
  if importPaths.isEmpty then ["."] else importPaths

/-- The record of something that happens while names are staged. -/
def Event.record (store : Store) : Event → List Log.Record
  | .opened path =>
    if store.recordsAccess then [Log.Channel.fileAccess.debug ("Opening file: " ++ path)] else []
  | .staged name root =>
    [Log.Channel.schema.debug ("Staged schema " ++ name ++ " from import path " ++ root)]

/-- The path that is opened. -/
def Event.path? : Event → Option String
  | .opened path => some path
  | .staged _ _ => none

/-- The names of schema paths, up to the first that has none. -/
def virtualNames : List String → Except Failure (List String)
  | [] => .ok []
  | path :: rest =>
    match virtualName? path with
    | none => .error (outsideRoots path)
    | some name => (virtualNames rest).map (name :: ·)

/-- Stages names, which all have to open. -/
def staged (dir : String) (store : Store) (roots names : List String) : Traced (List StagedFile) :=
  let (s, stopped) := stage dir store roots names
  ⟨match stopped with | some e => .error e | none => .ok s.files,
    { records := s.events.flatMap (Event.record store), opened := s.events.filterMap Event.path? }⟩

/-- Compiles schemas and what they import. -/
def compile (c : Compiler) (store : Store) (importPaths schemas : List String) :
    Traced Compiled := do
  if schemas.isEmpty then Traced.stop (.broken .noSchema)
  let roots := searchedRoots importPaths
  let names ← Traced.ofExcept ((virtualNames schemas).mapError .failed)
  let files ← staged c.directory store roots names
  let run : Invocation := ⟨roots.length, names, files⟩
  Traced.log [Log.Channel.schema.debug
    ("Running protoc: " ++ " ".intercalate (c.command ++ run.arguments c.directory))]
  Traced.start run
  settle names (c.answer run)

/-! ## Message types -/

/-- The record of a file that does not declare a message. -/
def passedRecord (name : String) (f : FileDecl) : Log.Record :=
  let names := (f.messages.map (·.name)).mergeSort fun a b => a ≤ b
  Log.Channel.messageType.debug
    (f.name ++ " declares " ++ Text.quotedList names ++ ", not " ++ name)

/-- The failure of a message that no file declares. -/
def messageNotFound : Failure := ⟨.messageNotFound, "message not found", none, none⟩

/-- Finds a message in files: the file that declares it, and its full name. -/
def find (files : List FileDecl) (name : String) : Traced (FileDecl × String) := do
  Traced.log ((passedOver files name).map (passedRecord name))
  match findMessage? files name with
  | some found => return found
  | none => Traced.fail messageNotFound

/-- A message type of a compiled schema. -/
structure Resolved where
  pool : Pool
  file : String
  type : MessageType
  deriving Inhabited

/-- Compiles a schema and finds a message type in it. -/
def resolve (c : Compiler) (store : Store) (importPaths : List String) (schema name : String) :
    Traced Resolved := do
  let compiled ← compile c store importPaths [schema]
  let (file, full) ← find compiled.files name
  Traced.log [Log.Channel.messageType.debug
    ("Resolved " ++ name ++ " to " ++ full ++ " in " ++ file.name)]
  return ⟨compiled.pool, file.name, (compiled.pool.message? full).getD default⟩

end ProtoCheck.Schema
