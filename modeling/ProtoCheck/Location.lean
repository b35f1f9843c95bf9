import ProtoCheck.Path

/-!
# Source locations

* `Location` : a file, a path into a document, a line and a column, each of them optional;
* `Location.inFile` : a location with the file filled in where it names none;
* `SourceMap`, `SourceMap.locate` : the positions of the nodes of a document;
* `Location.describe` : a location as the end of a message.
-/

namespace ProtoCheck

/-- A place in a source. The file is held in its shown form; lines and columns count from one. -/
structure Location where
  file : Option String := none
  yamlPath : Option String := none
  line : Option Int := none
  column : Option Int := none
  deriving DecidableEq, Repr, Inhabited

namespace Location

/-- The location of a file as a whole. -/
def ofFile (file : String) : Location := { file := some (tidied file) }

/-- The location with `file` filled in where it names none. -/
def inFile (loc : Option Location) (file : String) : Location :=
  match loc with
  | none => ofFile file
  | some loc => if loc.file.isSome then loc else { loc with file := some (tidied file) }

end Location

/-- Positions by document path: line and column. -/
abbrev SourceMap := List (String × Option Int × Option Int)

namespace SourceMap

/-- The last entry for a path. -/
def get? (m : SourceMap) (path : String) : Option (Option Int × Option Int) :=
  (m.reverse.find? fun e => e.1 == path).map (·.2)

/-- The location of a document path; a path without entry has no position. -/
def locate (m : SourceMap) (path : Option String) : Location :=
  let position := (path.bind m.get?).getD (none, none)
  { yamlPath := path, line := position.1, column := position.2 }

end SourceMap

namespace Location

/-- A file as locations show it: relative to `root` when it lies there. -/
def shownFile (root : Option String) (file : String) : String :=
  match root with
  | none => file
  | some root => if root.isEmpty then file else (relativeTo? file root).getD file

/-- A location in brackets behind a blank, as a message ends with it; nothing when neither a file
nor a document path is known. -/
def describe (root : Option String) (loc : Option Location) : String :=
  match loc with
  | none => ""
  | some loc =>
    let position := match loc.line, loc.column with
      | some l, some c => ":" ++ toString l ++ ":" ++ toString c
      | some l, none => ":" ++ toString l
      | none, _ => ""
    let source := (loc.file.map fun f => "source= " ++ shownFile root f ++ position).toList
    let path := ((loc.yamlPath.filter (!·.isEmpty)).map ("yaml_path=" ++ ·)).toList
    let parts := source ++ path
    if parts.isEmpty then "" else " (" ++ " ".intercalate parts ++ ")"

end Location

end ProtoCheck
