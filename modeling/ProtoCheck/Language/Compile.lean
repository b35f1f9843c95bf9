import ProtoCheck.Language.Rule
import ProtoCheck.Language.Source
import ProtoCheck.Path
import ProtoCheck.Schema.Compiler

/-!
# Compiling schemas

A file is read, then the files that it imports, the first time that they are met; then it is built.
A file that imports itself, directly or through others, has an error, and so has a file that
imports a file with errors. The bundled schemas are found behind all others.

* `Report`, `Report.line` : a line of the error output;
* `Sources`, `Sources.read` : the files that there are, and reading one;
* `buildFile` : building a file whose imports are built;
* `load`, `compileAll` : reading and building files with all that they import;
* `answer` : what the compiler answers.
-/

namespace ProtoCheck.Language

open Descriptor Schema

/-! ## Reports -/

/-- A line of the error output. -/
structure Report where
  file : String
  place : Option Position := none
  isWarning : Bool := false
  cause : Cause
  deriving DecidableEq, Repr

def Report.line (r : Report) : String :=
  r.file ++
    (r.place.map fun p => ":" ++ toString p.line ++ ":" ++ toString p.column).getD "" ++ ": " ++
    (if r.isWarning then "warning: " else "") ++ r.cause.message

/-! ## Files -/

/-- The files that can be read. -/
abbrev Sources := List StagedFile

/-- The name that a path stands for: without empty components and single points, slashes at its
ends apart. -/
def canonicalName (name : List Char) : List Char :=
  let parts := (name.splitOn '/').filter fun p => !p.isEmpty && p != ['.']
  let slashed := (if name.head? == some '/' then [[]] else []) ++ parts ++
    (if name.getLast? == some '/' then [[]] else [])
  ['/'].intercalate slashed

/-- Whether a name can be that of a file. -/
def isFileName (name : String) : Bool :=
  canonicalName name.toList == name.toList && !(name.toList.splitOn '/').contains ['.', '.']

/-- What reading a file gives: its declarations, or what is wrong with it. -/
def Sources.read (sources : Sources) (name : String) : Except (List Report) FileNode :=
  let staged := if isFileName name then sources.find? fun f => f.name == name else none
  match staged with
  | some f =>
    match FileNode.read f.content with
    | (node, []) => .ok node
    | (_, faults) => .error (faults.map fun x => ⟨name, some x.1, false, .source x.2⟩)
  | none =>
    match Bundle.bundled? name with
    | some node => .ok node
    | none =>
      .error [⟨name, none, false, .file (if isFileName name then .notFound else .badName)⟩]

/-! ## Building -/

/-- The place of an import: that of the last of the same name. -/
def FileNode.importPlace (f : FileNode) (name : String) : Option Position :=
  (f.imports.reverse.find? fun i => i.name == name).bind (·.place)

/-- Checks the imports of a file, up to one of the file itself; answers whether there is none. -/
def checkImports (l : Loaded) (f : FileNode) : List ImportNode → List String → Building Bool
  | [], _ => return true
  | i :: rest, before => do
    Building.reportIf (before.contains i.name) (f.importPlace i.name) (.importTwice i.name)
    if i.name == (← get).file then return false
    else
      Building.reportIf (l.file? i.name).isNone (f.importPlace i.name) (.importMissing i.name)
      checkImports l f rest (i.name :: before)

/-- The files whose declarations are seen through a file: itself, and what it imports publicly. -/
def seenThrough (l : Loaded) (name : String) : List String :=
  match l.file? name with
  | some f => f.name :: f.publics
  | none => []

/-- The imports of a file that nothing in it uses. Public imports serve others, and a file with
public imports may be imported for their sake. -/
def unusedImports (l : Loaded) (b : Build) : List ImportNode :=
  b.node.imports.filter fun i =>
    !(b.node.imports.any fun j => j.name == i.name && j.isPublic) && !b.met.contains i.name &&
      ((l.file? i.name).map (·.publics.isEmpty)).getD false

/-- The checks of a file, one after the other. Options and rules are looked at only when all names
are right. -/
def checkFile (l : Loaded) (f : FileNode) (isRequested : Bool) : Building Unit := do
  Building.declarePackage f
  if ← checkImports l f f.imports [] then
    Building.declareFile f
    Building.linkFile f
    Building.suggest f
    if !(← get).isFaulty then
      Building.checkFileOptions false f
      Building.checkFeatures f
      Building.checkFileOptions true f
    if !(← get).isFaulty then Building.checkRules f
    if (← get).isFaulty then
      MessageNode.walkAll (fun _ _ => pure ()) Building.checkMapEntries f.package f.messages
    else if isRequested then
      for i in unusedImports l (← get) do
        Building.warn (f.importPlace i.name) (.importUnused i.name)

/-- Whether a file imports itself and so cannot be built. -/
def importsItself (name : String) (f : FileNode) : Bool := f.imports.any fun i => i.name == name

/-! ## What is written -/

/-- A field as it is written. -/
def FieldNode.decl (b : Build) (scope : String) (f : FieldNode) : FieldDecl :=
  let x := (b.fields.find? fun x => x.fullName == qualified scope f.name).getD default
  { name := f.name
    number := f.number
    label :=
      if Building.presence? b.node f == some "LEGACY_REQUIRED" && f.label == .optional
        && f.oneof.isNone
      then .required else f.label
    kind := x.kind
    extendee := if x.isExtension then some x.owner else none
    oneof := f.oneof
    implicit := Building.isImplicit b.node f x.kind
    packed :=
      match optionWord? f.options ["packed"] with
      | some w => some (w == "true")
      | none => none }

def EnumNode.decl (b : Build) (e : EnumNode) : EnumDecl :=
  ⟨e.name, e.values.map fun v => (v.name, v.number), some (isClosed b.node e)⟩

mutual

/-- A message as it is written. -/
def MessageNode.decl (b : Build) (scope : String) : MessageNode → MessageDecl
  | ⟨name, _, fields, messages, enums, ranges, _, extensions, oneofs, _, _, _, entry⟩ =>
    let full := qualified scope name
    { name
      fields := fields.map (FieldNode.decl b full)
      messages := MessageNode.declAll b full messages
      enums := enums.map (EnumNode.decl b)
      extensions := extensions.map (FieldNode.decl b full)
      extendable := !ranges.isEmpty
      oneofs := oneofs.map (·.name)
      mapEntry := entry }

/-- The messages of a scope as they are written. -/
def MessageNode.declAll (b : Build) (scope : String) : List MessageNode → List MessageDecl
  | [] => []
  | m :: rest => m.decl b scope :: MessageNode.declAll b scope rest

end

/-- A file as it is written. -/
def Build.decl (b : Build) : FileDecl where
  name := b.file
  package := b.node.package
  dependencies := b.node.imports.map (·.name)
  dialect := b.node.dialect
  messages := MessageNode.declAll b b.node.package b.node.messages
  enums := b.node.enums.map (EnumNode.decl b)
  extensions := b.node.extensions.map (FieldNode.decl b b.node.package)

/-! ## Loading -/

/-- The files that are built, those that cannot be, and what has been reported. -/
structure Progress where
  loaded : Loaded := {}
  bad : List String := []
  reports : List Report := []
  deriving Inhabited

namespace Progress

def add (s : Progress) (rs : List Report) : Progress := { s with reports := s.reports ++ rs }

/-- A file cannot be built. -/
def refuse (s : Progress) (name : String) (rs : List Report) : Progress :=
  { s.add rs with bad := name :: s.bad }

/-- Builds a file whose imports have been tried. -/
def build (s : Progress) (requested : List String) (name : String) (f : FileNode) : Progress :=
  let l := s.loaded
  let seen := (name :: f.imports.flatMap fun i => seenThrough l i.name).filterMap fun n =>
    if n == name then some (name, f.package) else (l.file? n).map fun x => (n, x.package)
  let b := (StateT.run (checkFile l f (requested.contains name)) (Build.start name f l seen)).2
  let reports : List Report :=
    b.findings.map fun x => ⟨name, x.place, x.isWarning, .declaration x.fault⟩
  if b.isFaulty || importsItself name f then s.refuse name reports
  else
    let publics := (f.imports.filter (·.isPublic)).flatMap fun i => seenThrough l i.name
    { s.add reports with
      loaded := ⟨l.files ++ [⟨name, f.package, publics, b.decl⟩], b.view.symbols, b.fields⟩ }

/-- The report of a file that imports itself, the files on the way being `pending`. -/
def cycle (pending : List String) (name : String) (f : FileNode) : Report :=
  let way := pending.dropWhile (· != name)
  let next := (way.drop 1).headD name
  ⟨name, f.importPlace next, false, .declaration (.importCycle (way ++ [name]))⟩

/-- Loads a file, and before it all that it imports. The files in `pending` are being loaded, each
for the one before it; fuel bounds their number. -/
def load (sources : Sources) (requested : List String) :
    Nat → List String → String → Progress → Progress
  | 0, _, _, s => s
  | fuel + 1, pending, name, s =>
    if (s.loaded.file? name).isSome || s.bad.contains name then s
    else
      match sources.read name with
      | .error rs => s.refuse name rs
      | .ok f =>
        if pending.contains name then s.refuse name [cycle pending name f]
        else
          let s :=
            f.imports.foldl (fun s i => load sources requested fuel (pending ++ [name]) i.name s) s
          s.build requested name f

/-- Loads files in order, up to the first that cannot be. -/
def loadAll (sources : Sources) (requested : List String) : List String → Progress → Progress
  | [], s => s
  | name :: rest, s =>
    let fuel := sources.length + Bundle.schemas.length + 2
    let s := load sources requested fuel [] name { s with bad := [] }
    if (s.loaded.file? name).isSome then loadAll sources requested rest s else s

end Progress

/-! ## Answers -/

/-- What the compiler answers: the files requested and all that they import, each behind its
imports; or a status of one, when some file cannot be built. -/
def answer (r : Invocation) : Answer :=
  let s := Progress.loadAll r.files r.names r.names {}
  let output := String.join (s.reports.map fun x => x.line ++ "\n")
  if r.names.all fun n => (s.loaded.file? n).isSome then
    .finished 0 output (.files (s.loaded.files.map (·.decl)))
  else .finished 1 output .nothing

end ProtoCheck.Language
