import ProtoCheck.Schema.Imports
import ProtoCheck.Schema.Name
import ProtoCheck.Store

/-!
# Staging schemas

Before schemas are compiled, each of them and all that they import is copied into directories of
their own, one for each import root. A name is looked up under the roots in order and staged under
the first where it opens; a name that opens under none is left for the compiler to report.

* `lookUp` : where a name opens;
* `rootDirectory`, `stagedPath` : where a root and a file under it are staged;
* `conflict?` : why a name cannot be a file beside those that are staged;
* `Staging`, `Staging.run` : the names looked up so far, and looking up more, depth first;
* `Staging.request` : staging the requested names, each of which has to open.
-/

namespace ProtoCheck.Schema

/-! ## Looking a name up -/

/-- The path of a name under an import root. -/
def pathUnder (root name : String) : String := normalised (join root name)

/-- What looking a name up gives. -/
inductive Lookup where
  | found (root : Nat) (content : Bytes)
  /-- It opens under no root; the error is that under the first. -/
  | missing (e : Option AccessError)
  /-- It holds a NUL character, which no disk takes. -/
  | nul
  deriving DecidableEq, Repr

/-- Looks a name up under the roots from number `i` on, `first` being the first error so far. -/
def lookUpFrom (store : Store) (name : String) (i : Nat) (first : Option AccessError) :
    List String → Lookup
  | [] => .missing first
  | root :: rest =>
    match store.read (pathUnder root name) with
    | .ok content => .found i content
    | .error .nul => .nul
    | .error e => lookUpFrom store name (i + 1) (first.orElse fun _ => some e) rest

/-- Where a name opens. -/
def lookUp (store : Store) (roots : List String) (name : String) : Lookup :=
  lookUpFrom store name 0 none roots

/-- The paths that looking a name up opens, or tries to. -/
def triedPaths (roots : List String) (name : String) : Lookup → List String
  | .found root _ => (roots.take (root + 1)).map (pathUnder · name)
  | .missing _ => roots.map (pathUnder · name)
  | .nul =>
    -- the search ends at the first path that holds the character, which may come from a root
    let holding := roots.findIdx fun root => (pathUnder root name).contains '\x00'
    (roots.take (holding + 1)).map (pathUnder · name)

/-- The names that a schema imports; a path that leads out of the roots has none. -/
def importedNames (content : Bytes) : List String :=
  (scanImports (Utf8.decodeLossy content)).filterMap virtualName?

/-! ## Files that are staged -/

/-- A schema staged under the root of a number. -/
structure StagedFile where
  root : Nat
  name : String
  content : Bytes
  deriving DecidableEq, Repr

/-- The components of a staged name. -/
def StagedFile.parts (f : StagedFile) : List (List Char) := Path.namedParts f.name.toList

/-- The staged directory of the root of a number, the staging directory being `dir`. -/
def rootDirectory (dir : String) (i : Nat) : String := dir ++ "/roots/" ++ toString i

/-- The path of a file or directory with these components under the root of a number. -/
def stagedPath (dir : String) (root : Nat) (parts : List (List Char)) : List Char :=
  (rootDirectory dir root).toList ++ parts.flatMap ('/' :: ·)

/-- What stands in the way of a directory with these components: a component that is too long, or
a staged file. It matters whether the file is where the last directory would be. -/
def parentConflict? (files : List (List (List Char))) (parents : List (List Char)) :
    Option Breakdown :=
  (List.range parents.length).findSome? fun i =>
    if Tree.maxComponent < (Utf8.encode (parents.getD i [])).length then
      some Breakdown.stagedNameTooLong
    else if files.contains (parents.take (i + 1)) then
      some (if i + 1 = parents.length then .stagedParentIsFile else .stagedAncestorIsFile)
    else none

/-- Why a name cannot be staged under a root beside `staged`. The whole path of its directory is
looked at before any component of it, and so is its own. -/
def conflict? (dir : String) (staged : List StagedFile) (root : Nat) (name : String) :
    Option Breakdown :=
  let files := (staged.filter (·.root == root)).map StagedFile.parts
  let parts := Path.namedParts name.toList
  let parents := parts.dropLast
  let last := parts.getLast?.getD []
  if parents.any (·.contains '\x00') then some .nulInPath
  else if Tree.maxPath ≤ (Utf8.encode (stagedPath dir root parents)).length then
    some .stagedPathTooLong
  else
    (parentConflict? files parents).orElse fun _ =>
      if last.contains '\x00' then some .nulInPath
      else if Tree.maxPath ≤ (Utf8.encode (stagedPath dir root parts)).length then
        some .stagedPathTooLong
      else if Tree.maxComponent < (Utf8.encode last).length then some .stagedNameTooLong
      else if parts.isEmpty || files.any fun f => f.dropLast.take parts.length == parts then
        some .stagedNameIsDirectory
      else none

/-! ## Staging -/

/-- What happens while names are staged. -/
inductive Event where
  | opened (path : String)
  | staged (name root : String)
  deriving DecidableEq, Repr

/-- The names looked up, the files staged, the names that open nowhere, and what has happened. -/
structure Staging where
  seen : List String := []
  files : List StagedFile := []
  missing : List (String × Option AccessError) := []
  events : List Event := []
  broken : Option Breakdown := none
  deriving DecidableEq, Repr

namespace Staging

/-- A name has been looked up. -/
def look (s : Staging) (roots : List String) (name : String) (l : Lookup) : Staging :=
  { s with
    seen := name :: s.seen
    events := s.events ++ (triedPaths roots name l).map Event.opened }

/-- A name opens nowhere. -/
def miss (s : Staging) (name : String) (e : Option AccessError) : Staging :=
  { s with missing := (name, e) :: s.missing }

/-- A file is staged. -/
def keep (s : Staging) (roots : List String) (f : StagedFile) : Staging :=
  { s with
    files := s.files ++ [f]
    events := s.events ++ [.staged f.name (roots.getD f.root "")] }

/-- Nothing more can be staged. -/
def stop (s : Staging) (b : Breakdown) : Staging := { s with broken := some b }

def holds (s : Staging) (name : String) : Bool := s.files.any fun f => f.name == name

/-- Looks up the pending names and, behind each that opens, the names it imports; files are staged
in the directory `dir`. Fuel bounds their number. -/
def run (dir : String) (store : Store) (roots : List String) (fuel : Nat)
    (pending : List String) (s : Staging) : Staging :=
  match pending with
  | [] => s
  | name :: rest =>
    if s.seen.contains name then run dir store roots fuel rest s
    else
      let l := lookUp store roots name
      let s := s.look roots name l
      match l with
      | .nul => s.stop .nulInPath
      | .missing e => run dir store roots fuel rest (s.miss name e)
      | .found root content =>
        match conflict? dir s.files root name, fuel with
        | some b, _ => s.stop b
        | none, 0 => s
        | none, fuel + 1 =>
          run dir store roots fuel (importedNames content ++ rest)
            (s.keep roots ⟨root, name, content⟩)
termination_by (fuel, pending.length)

/-- All names that can come up: those requested and those that some file imports. -/
def mentioned (store : Store) (names : List String) : List String :=
  names ++ store.contents.flatMap importedNames

/-- The failure of a requested name that opens nowhere. -/
def notFound (s : Staging) (name : String) : Failure :=
  let reason := ((s.missing.lookup name).bind id).elim "file not found" AccessError.message
  Failure.schemaCompile (name ++ ": " ++ reason) [] (some (Location.ofFile name)) none

/-- Stages the requested names and what they import, up to the first that does not open. -/
def request (dir : String) (store : Store) (roots : List String) (fuel : Nat) :
    List String → Staging → Staging × Option Stop
  | [], s => (s, none)
  | name :: rest, s =>
    let s := run dir store roots fuel [name] s
    match s.broken with
    | some b => (s, some (.broken b))
    | none =>
      if s.holds name then request dir store roots fuel rest s
      else (s, some (.failed (s.notFound name)))

end Staging

/-- Stages names and what they import in the directory `dir`. -/
def stage (dir : String) (store : Store) (roots names : List String) : Staging × Option Stop :=
  Staging.request dir store roots (Staging.mentioned store names).length names {}

end ProtoCheck.Schema
