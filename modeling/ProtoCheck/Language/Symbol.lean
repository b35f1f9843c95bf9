import ProtoCheck.Language.Fault
import ProtoCheck.Language.Tree

/-!
# Names of declarations

Every declaration has a full name. A name that is written without its scope is looked up from the
inside out, by its first part; only what its file or an import of it declares is seen.

* `Entity`, `Symbol` : what names stand for;
* `View.find` : the declaration of a full name;
* `View.resolve` : the declaration that a written name means, with what was passed over.
-/

namespace ProtoCheck.Language

/-! ## Symbols -/

/-- What a full name stands for. -/
inductive Entity where
  | package
  /-- A message, with the numbers that are open to extensions. -/
  | message (ranges : List Span)
  /-- An enum, with its values, and whether it has only these. -/
  | enum (values : List (String × Int)) (closed : Bool)
  /-- A value of the enum of a full name. -/
  | enumValue (enum : String)
  | field
  | oneof
  | service
  | method
  deriving DecidableEq, Repr, Inhabited

/-- Whether declarations can stand inside. -/
def Entity.holdsOthers : Entity → Bool
  | .package | .message _ | .enum _ _ | .service => true
  | _ => false

/-- Whether fields can be of this type. -/
def Entity.isType : Entity → Bool
  | .message _ | .enum _ _ => true
  | _ => false

/-- A declaration by its full name. -/
structure Symbol where
  name : String
  entity : Entity
  file : String
  deriving DecidableEq, Repr, Inhabited

/-- The names around a full name, the innermost first. -/
def enclosing (name : String) : List String :=
  let parts := name.splitOn "."
  (List.range parts.length).reverse.filterMap fun i =>
    if i = 0 then none else some (".".intercalate (parts.take i))

/-- The part of a name before its first point. -/
def firstPart (name : String) : String := (name.splitOn ".").headD ""

/-! ## Looking names up -/

/-- The declarations that are known, and the files whose declarations are seen, with the packages
of these files. -/
structure View where
  symbols : List Symbol
  seen : List (String × String)

/-- What a search has come to: what was found, a declaration that is not seen, the name inside a
found scope that is missing, and the files whose declarations were met. -/
structure Search where
  found : Option Symbol := none
  unseen : Option (String × String) := none
  missing : Option String := none
  met : List String := []
  deriving Repr, Inhabited

/-- The first declaration of a full name, seen or not. -/
def View.known? (v : View) (name : String) : Option Symbol :=
  v.symbols.find? fun s => s.name == name

/-- Whether a package is, or is around, the package of some file that is seen. -/
def View.seesPackage (v : View) (name : String) : Bool :=
  v.seen.any fun f => f.2 == name || f.2.startsWith (name ++ ".")

/-- Finds the declaration of a full name, after a search that may have come to something else. -/
def View.find (v : View) (before : Search) (name : String) : Search :=
  match v.known? name with
  | none => { before with found := none }
  | some s =>
    if s.entity == .package then
      if (v.seen.any fun f => f.1 == s.file) || v.seesPackage name then
        { before with found := some s }
      else { before with found := none, unseen := some (name, s.file) }
    else if v.seen.any fun f => f.1 == s.file then
      { before with found := some s, met := s.file :: before.met }
    else { before with found := none, unseen := some (name, s.file) }

/-- Looks a name up in scopes, the innermost first, and then as a full name. The scope that holds
its first part is the one that counts, if declarations can stand inside. With `onlyTypes` a name of
one part that is no type is passed over. -/
def View.resolveIn (v : View) (onlyTypes : Bool) (name : String) (s : Search) :
    List String → Search
  | [] => v.find s name
  | scope :: rest =>
    let first := firstPart name
    let here := v.find s (scope ++ "." ++ first)
    match here.found with
    | none => v.resolveIn onlyTypes name here rest
    | some x =>
      if first == name then
        if onlyTypes && !x.entity.isType then v.resolveIn onlyTypes name here rest else here
      else if x.entity.holdsOthers then
        let whole := scope ++ "." ++ name
        let inner := v.find here whole
        if inner.found.isSome then inner else { inner with missing := some whole }
      else v.resolveIn onlyTypes name here rest

/-- What a name means in the declaration of the full name `inside`. A point in front makes it a
full name. -/
def View.resolve (v : View) (onlyTypes : Bool) (name inside : String) : Search :=
  if name.startsWith "." then v.find {} (String.ofList (name.toList.drop 1))
  else v.resolveIn onlyTypes name {} (enclosing inside)

/-- Why a name means nothing. -/
def Search.faults (s : Search) (own name : String) : List DeclarationFault :=
  let unseen := s.unseen.toList.map fun u => DeclarationFault.definedElsewhere u.1 u.2 own
  let missing := s.missing.toList.map fun m => DeclarationFault.innerNotDefined name m
  if unseen.isEmpty && missing.isEmpty then [.notDefined name] else unseen ++ missing

end ProtoCheck.Language
