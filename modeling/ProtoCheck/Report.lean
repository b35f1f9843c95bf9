import ProtoCheck.Failure
import ProtoCheck.Json

/-!
# Reports

* `Entry`, `Outcome` : what is recorded about one validated file;
* `Outcome.add`, `Outcome.record` : recording an entry, recording a failure;
* `Style`, `Style.print` : the three ways of printing outcomes.
-/

namespace ProtoCheck

/-- One recorded error. The file is given where it is not the validated one. -/
structure Entry where
  message : String
  stage : String
  file : Option String := none
  line : Option Int := none
  column : Option Int := none
  deriving DecidableEq, Repr

/-- The errors recorded for a file, which is held in its shown form. -/
structure Outcome where
  file : String
  entries : List Entry := []
  deriving DecidableEq, Repr

namespace Outcome

/-- A file without errors. -/
def ofFile (file : String) : Outcome := ⟨tidied file, []⟩

def ok (o : Outcome) : Bool := o.entries.isEmpty

def add (o : Outcome) (e : Entry) : Outcome := { o with entries := o.entries ++ [e] }

/-- The entry for a failure; its file is left out where it is `file` itself. -/
def entryOf (file : String) (f : Failure) : Entry where
  message := f.message
  stage := f.stage.name
  file := (f.location.bind (·.file)).filter (· != file)
  line := f.location.bind (·.line)
  column := f.location.bind (·.column)

def record (o : Outcome) (f : Failure) : Outcome := o.add (entryOf o.file f)

end Outcome

/-! ## Printing -/

/-- The ways of printing outcomes. -/
inductive Style where
  | human
  | json
  /-- Workflow commands that annotate files. -/
  | annotations
  deriving DecidableEq, Repr

namespace Style

def name : Style → String
  | .human => "human"
  | .json => "json"
  | .annotations => "github-actions"

def all : List Style := [.human, .json, .annotations]

def named? (name : String) : Option Style := all.find? fun s => s.name == name

end Style

/-- What is written to the two output streams. -/
structure Printed where
  out : String := ""
  err : String := ""
  deriving DecidableEq, Repr

instance : Append Printed := ⟨fun a b => ⟨a.out ++ b.out, a.err ++ b.err⟩⟩

namespace Entry

def toJson (e : Entry) : Json :=
  .object ([("message", .string e.message), ("stage", .string e.stage)] ++
    (e.file.map fun f => ("file", Json.string f)).toList ++
    (e.line.map fun n => ("line", Json.int n)).toList ++
    (e.column.map fun n => ("column", Json.int n)).toList)

/-- The text of a workflow command with percent signs and line ends escaped. -/
def escaped (s : String) : String :=
  Text.escapeWith (fun c =>
    if c == '%' then some "%25"
    else if c == '\r' then some "%0D"
    else if c == '\n' then some "%0A"
    else none) s

/-- The workflow command for an entry of a file. -/
def annotation (file : String) (e : Entry) : String :=
  "::error file=" ++ e.file.getD file ++ ",line=" ++ toString (e.line.getD 1) ++
    (match e.column with | some n => ",col=" ++ toString n | none => "") ++
    "::" ++ escaped e.message

end Entry

namespace Outcome

def toJson (o : Outcome) : Json :=
  .object [("file", .string o.file), ("valid", .bool o.ok),
    ("errors", .array (o.entries.map Entry.toJson))]

end Outcome

/-- The number of errors in outcomes. -/
def errorCount (os : List Outcome) : Nat := (os.flatMap (·.entries)).length

namespace Style

/-- Lines, each with a line feed behind it. -/
def unlines (ls : List String) : String := String.join (ls.map (· ++ "\n"))

/-- Outcomes as one document. -/
def document (os : List Outcome) : Json :=
  .object [("files", .int os.length), ("errors", .int (errorCount os)),
    ("results", .array (os.map Outcome.toJson))]

/-- An outcome in plain words: success on one stream, each error on the other. -/
def plain (o : Outcome) : Printed :=
  if o.ok then ⟨"Successfully validated " ++ o.file ++ "\n", ""⟩
  else ⟨"", unlines (o.entries.map fun e => "Failed parsing " ++ o.file ++ ": " ++ e.message)⟩

/-- Outcomes as a style prints them. -/
def print (s : Style) (os : List Outcome) : Printed :=
  match s with
  | .human => (os.map plain).foldl (· ++ ·) {}
  | .json => ⟨(document os).pretty ++ "\n", ""⟩
  | .annotations => ⟨unlines (os.flatMap fun o => o.entries.map (Entry.annotation o.file)), ""⟩

end Style

end ProtoCheck
