import ProtoCheck.Report
import ProtoCheck.Yaml.Data
import ProtoCheck.Yaml.Positions

/-!
# Settings in a document

A document of settings is a mapping with the keys `import_paths`, a list of texts that are not
empty, `log_level` and `output_format`, each a text out of a list. All of them may be left out.

* `Settings` : what a document sets;
* `Violation`, `Violation.message` : how data breaks the rules;
* `violation?` : the violation that is reported, and the path that leads to it;
* `violations` : all of them;
* `Settings.ofData` : the settings that data without violation holds.
-/

namespace ProtoCheck

open Yaml

/-- What a document sets. -/
structure Settings where
  importPaths : List String := []
  logLevel : Option String := none
  outputFormat : Option String := none
  deriving DecidableEq, Repr

namespace Settings

def importPathsKey : String := "import_paths"
def logLevelKey : String := "log_level"
def outputFormatKey : String := "output_format"

/-- The keys of a document. -/
def keys : List String := [importPathsKey, logLevelKey, outputFormatKey]

/-- The levels that a document may set. -/
def levels : List String :=
  ["DEBUG", "INFO", "WARNING", "ERROR", "CRITICAL", "debug", "info", "warning", "error", "critical"]

/-- The output formats. -/
def formats : List String := Style.all.map Style.name

end Settings

/-! ## Violations -/

/-- How data breaks the rules. -/
inductive Violation where
  | wrongType (value : Data) (wanted : String)
  | notAmong (value : String) (allowed : List String)
  | emptyText
  | unknownKeys (keys : List Data)

/-- A violation in words. -/
def Violation.message : Violation → String
  | .wrongType d wanted => d.shown ++ " is not of type " ++ Text.quoted wanted
  | .notAmong s allowed => Text.quoted s ++ " is not one of " ++ Text.quotedList allowed
  | .emptyText => Text.quoted "" ++ " should be non-empty"
  | .unknownKeys keys =>
    "Additional properties are not allowed (" ++ ", ".intercalate (keys.map Data.shown) ++
      (if keys.length == 1 then " was" else " were") ++ " unexpected)"

/-- Whether a violation can be put in words. -/
def Violation.isShowable : Violation → Bool
  | .wrongType d _ => d.isShowable
  | .notAmong .. | .emptyText => true
  | .unknownKeys keys => keys.all Data.isShowable

/-- The keys of a mapping that no setting has, sorted as texts. -/
def unknownKeys (pairs : List (Data × Data)) : List Data :=
  let unknown :=
    (pairs.map (·.1)).filter fun k => !Settings.keys.any fun name => k.sameKey (.text name)
  unknown.mergeSort fun a b => decide (a.asText ≤ b.asText)

/-- The violation of a text that has to be among those of a list. -/
def choiceViolation? (allowed : List String) (d : Data) : Option Violation :=
  match d with
  | .text s => if allowed.contains s then none else some (.notAmong s allowed)
  | d => some (.wrongType d "string")

/-- The violation of an import path. -/
def pathViolation? : Data → Option Violation
  | .text s => if s.isEmpty then some .emptyText else none
  | d => some (.wrongType d "string")

/-- The violation of the last item that has one, with the steps to it. -/
def itemViolation? (path : List Step) (items : List Data) : Option (List Step × Violation) :=
  items.zipIdx.reverse.findSome? fun (d, i) =>
    (pathViolation? d).map fun v => (path ++ [.index i], v)

/-- The violation that is reported, with the steps to the data that has it: of several the one
nearest to the root, and of those that are equally near the one whose path is last. -/
def violation? (d : Data) : Option (List Step × Violation) :=
  match d with
  | .mapping pairs =>
    let unknown := unknownKeys pairs
    if !unknown.isEmpty then some ([], .unknownKeys unknown)
    else
      let choice := fun key allowed =>
        ((d.get? key).bind (choiceViolation? allowed)).map fun v => ([Step.key key], v)
      let path := [Step.key Settings.importPathsKey]
      let list := match d.get? Settings.importPathsKey with
        | none => none
        | some (.list items) => itemViolation? path items
        | some d => some (path, .wrongType d "array")
      (choice Settings.outputFormatKey Settings.formats).orElse fun _ =>
        (choice Settings.logLevelKey Settings.levels).orElse fun _ => list
  | d => some ([], .wrongType d "object")

/-- All violations of data. Each of them is put in words, also where another one is reported. -/
def violations (d : Data) : List Violation :=
  match d with
  | .mapping pairs =>
    let unknown := unknownKeys pairs
    let choice := fun key allowed => ((d.get? key).bind (choiceViolation? allowed)).toList
    let list := match d.get? Settings.importPathsKey with
      | none => []
      | some (.list items) => items.filterMap pathViolation?
      | some d => [.wrongType d "array"]
    (if unknown.isEmpty then [] else [.unknownKeys unknown]) ++
      choice Settings.outputFormatKey Settings.formats ++
      choice Settings.logLevelKey Settings.levels ++ list
  | d => [.wrongType d "object"]

/-! ## Settings of data -/

/-- The text that data is. -/
def text? : Data → Option String
  | .text s => some s
  | _ => none

/-- The settings that data without violation holds. -/
def Settings.ofData (d : Data) : Settings where
  importPaths := match d.get? importPathsKey with
    | some (.list items) => items.filterMap text?
    | _ => []
  logLevel := (d.get? logLevelKey).bind text?
  outputFormat := (d.get? outputFormatKey).bind text?

end ProtoCheck
