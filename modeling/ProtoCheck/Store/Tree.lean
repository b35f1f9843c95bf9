import ProtoCheck.Failure
import ProtoCheck.Path
import ProtoCheck.Text.Utf8

/-!
# A directory tree

* `Tree` : the files and directories below the root, and the current directory;
* `Tree.kind?` : what stands at a place;
* `Tree.walk` : the place that a path leads to, component by component;
* `Tree.read` : the contents of the file at a path.
-/

namespace ProtoCheck

/-- A place in a tree: the components that lead to it from the root. -/
abbrev Place := List (List Char)

/-- A file or a directory. -/
inductive TreeNode where
  | file (content : Bytes)
  | directory
  deriving DecidableEq, Repr

/-- Files and directories by place. The places above them are directories too. -/
structure Tree where
  current : Place
  nodes : List (Place × TreeNode)

namespace Tree

/-- The longest name of a component, in bytes. -/
def maxComponent : Nat := 255

/-- The first length of a path, in bytes, that is too long. -/
def maxPath : Nat := 4096

/-- What stands at a place. -/
def kind? (t : Tree) (p : Place) : Option TreeNode :=
  match t.nodes.lookup p with
  | some n => some n
  | none =>
    if t.current.take p.length == p || t.nodes.any (fun n => n.1.take p.length == p) then
      some .directory
    else none

/-- The place that the components of a path lead to from the place `p`. An empty component and `.`
stay in the directory, `..` leaves it. -/
def walk (t : Tree) (p : Place) : List (List Char) → Except OsError Place
  | [] => .ok p
  | part :: rest =>
    match t.kind? p with
    | none => .error .noEntry
    | some (.file _) => .error .notDirectory
    | some .directory =>
      if part.isEmpty || part == ['.'] then walk t p rest
      else if part == Path.up then walk t p.dropLast rest
      else if maxComponent < (Utf8.encode part).length then .error .nameTooLong
      else
        match t.kind? (p ++ [part]) with
        | none => .error .noEntry
        | some _ => walk t (p ++ [part]) rest

/-- The contents of the file at a path. -/
def read (t : Tree) (path : String) : Except OsError Bytes :=
  let s := path.toList
  if s.isEmpty then .error .noEntry
  else if maxPath ≤ (Utf8.encode s).length then .error .nameTooLong
  else
    let start := if s.head? == some '/' then [] else t.current
    match t.walk start (Text.pieces (· == '/') s) with
    | .error e => .error e
    | .ok place =>
      match t.kind? place with
      | some (.file content) => .ok content
      | some .directory => .error .isDirectory
      | none => .error .noEntry

/-- The tree of the directory `current` with files and directories below it. -/
def ofLists (current : Place) (files : List (String × Bytes)) (dirs : List String) : Tree :=
  let place := fun name : String => current ++ Path.namedParts name.toList
  ⟨current, files.map (fun f => (place f.1, .file f.2)) ++ dirs.map fun d => (place d, .directory)⟩

end Tree

end ProtoCheck
