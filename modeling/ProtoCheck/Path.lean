import ProtoCheck.Text.Blank

/-!
# Paths

A path is a root (none, one slash, or two) and components; `.` and empty components mean nothing.
There are two readings of the rest. The *tidy* one keeps `..`, as a path shown to a user; the
*resolved* one lets `..` cancel the component before it, as a name looked up in a store.

* `Path`, `Path.render` : a root with components, and its text (`.` for none);
* `Path.tidy`, `tidied` : the reading that keeps `..`;
* `Path.resolve`, `normalised` : the reading that cancels;
* `join` : a path below a directory;
* `relativeTo?` : the components of a path below another one.
-/

namespace ProtoCheck

/-- What a path starts from. -/
inductive Path.Root where
  /-- The current directory. -/
  | relative
  /-- One slash, or three and more. -/
  | absolute
  /-- Exactly two slashes. -/
  | double
  deriving DecidableEq, Repr

/-- A root and the components below it. -/
structure Path where
  root : Path.Root
  parts : List (List Char)
  deriving DecidableEq, Repr

namespace Path

/-! ## Text and components -/

/-- The root that a text begins with. -/
def Root.ofChars : List Char → Root
  | '/' :: '/' :: '/' :: _ => .absolute
  | '/' :: '/' :: _ => .double
  | '/' :: _ => .absolute
  | _ => .relative

/-- The slashes of a root. -/
def Root.chars : Root → List Char
  | .relative => []
  | .absolute => ['/']
  | .double => ['/', '/']

/-- A component that names something: neither empty nor `.`. -/
def isNamed (part : List Char) : Bool := !part.isEmpty && part != ['.']

/-- The components of a text that mean something, `..` among them. -/
def namedParts (s : List Char) : List (List Char) :=
  (Text.pieces (· == '/') s).filter isNamed

/-- Components with a slash between neighbours. -/
def joinParts : List (List Char) → List Char
  | [] => []
  | [part] => part
  | part :: rest => part ++ '/' :: joinParts rest

/-- The text of a path; the current directory is `.`. -/
def render (p : Path) : List Char :=
  let text := p.root.chars ++ joinParts p.parts
  if text.isEmpty then ['.'] else text

/-! ## The tidy reading -/

/-- The path of a text, every `..` kept. -/
def tidy (s : List Char) : Path := ⟨Root.ofChars s, namedParts s⟩

/-! ## The resolved reading -/

/-- The parent of the current directory. -/
def up : List Char := ['.', '.']

/-- One more component below resolved ones, which are held last first: `..` takes the last one
away, is kept where a relative path has none left to take, and means nothing at a root. -/
def push (root : Root) (above : List (List Char)) (part : List Char) : List (List Char) :=
  if part != up then part :: above
  else
    match above with
    | [] => if root = .relative then [up] else []
    | last :: rest => if last == up then up :: above else rest

/-- The path of a text, with `..` cancelling the component before it. -/
def resolve (s : List Char) : Path :=
  let root := Root.ofChars s
  ⟨root, ((namedParts s).foldl (push root) []).reverse⟩

end Path

/-! ## On texts -/

/-- The shown form of a path: slashes single, no `.`, `..` kept. -/
def tidied (s : String) : String := String.ofList (Path.tidy s.toList).render

/-- The looked-up form of a path: as the shown one, with `..` cancelled. -/
def normalised (s : String) : String := String.ofList (Path.resolve s.toList).render

/-- `name` below the directory `dir`; an absolute `name` stands for itself. -/
def join (dir name : String) : String :=
  if name.startsWith "/" then name
  else if dir.isEmpty || dir.endsWith "/" then dir ++ name
  else dir ++ "/" ++ name

/-- The tidy path `s` relative to the directory `base`, if it lies there. -/
def relativeTo? (s base : String) : Option String :=
  let p := Path.tidy s.toList
  let b := Path.tidy base.toList
  if b.root = .relative && b.parts.isEmpty then
    if p.root = .relative then some (tidied s) else none
  else if p.root = b.root && p.parts.take b.parts.length == b.parts then
    some (String.ofList (Path.render ⟨.relative, p.parts.drop b.parts.length⟩))
  else none

end ProtoCheck
