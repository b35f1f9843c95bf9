import ProtoCheck.Schema.Diagnostic
import ProtoCheck.Text.Quoted

/-!
# Failures and breakdowns

A *failure* is what a run reports: a kind that tells the stage, a message, a place and what it was
raised from. A *breakdown* is a condition that no report covers; it ends the program.

* `OsError`, `StartError` : what the operating system answers;
* `Failure`, `Failure.stage` : reported failures;
* `Breakdown` : the others;
* `Stop` : either of them.
-/

namespace ProtoCheck

/-! ## The operating system -/

/-- Why a file cannot be opened. -/
inductive OsError where
  | noEntry
  | isDirectory
  | notDirectory
  | nameTooLong
  deriving DecidableEq, Repr

def OsError.message : OsError → String
  | .noEntry => "No such file or directory"
  | .isDirectory => "Is a directory"
  | .notDirectory => "Not a directory"
  | .nameTooLong => "File name too long"

/-- Why a program cannot be started: a bare text, or a code with a text and perhaps a file. -/
inductive StartError where
  | bare (text : String)
  | coded (code : Int) (text : String) (file : Option String)
  deriving DecidableEq, Repr

def StartError.message : StartError → String
  | .bare text => text
  | .coded code text file =>
    "[Errno " ++ toString code ++ "] " ++ text ++
      (match file with | some f => ": " ++ Text.quoted f | none => "")

/-! ## Failures -/

/-- The steps of a run, and the two that stand for no step of it. -/
inductive Stage where
  | read
  | header
  | resolve
  | decode
  | config
  | validate
  deriving DecidableEq, Repr

def Stage.name : Stage → String
  | .read => "read"
  | .header => "header"
  | .resolve => "resolve"
  | .decode => "decode"
  | .config => "config"
  | .validate => "validate"

/-- The kinds of a YAML reader's errors. -/
inductive YamlErrorKind where
  | reader
  | scanner
  | parser
  | composer
  | constructor
  deriving DecidableEq, Repr

/-- What a failure was raised from. -/
inductive Cause where
  | file (e : OsError)
  | start (e : StartError)
  | notUtf8
  | textFormat
  | compile (diagnostics : List Diagnostic)
  | messageNotFound
  | violation
  | yaml (kind : YamlErrorKind)
  deriving DecidableEq, Repr

/-- The kinds of failures, with what a kind carries beside its message. -/
inductive FailureKind where
  | general
  | access
  | header
  | missingDirective
  | duplicateDirective (lineIndex : Int)
  | resolution
  | schemaCompile (diagnostics : List Diagnostic)
  | messageNotFound
  | decode
  | configuration
  deriving DecidableEq, Repr

/-- The stage that a kind of failure belongs to. -/
def FailureKind.stage : FailureKind → Stage
  | .general => .validate
  | .access => .read
  | .header | .missingDirective | .duplicateDirective _ => .header
  | .resolution | .schemaCompile _ | .messageNotFound => .resolve
  | .decode => .decode
  | .configuration => .config

/-- A failure that a run reports. -/
structure Failure where
  kind : FailureKind
  message : String
  location : Option Location := none
  cause : Option Cause := none
  deriving DecidableEq, Repr

namespace Failure

def stage (f : Failure) : Stage := f.kind.stage

/-- A schema that does not compile: without a place of its own it stands where the first of its
diagnostics that names a file does. -/
def schemaCompile (message : String) (diagnostics : List Diagnostic)
    (location : Option Location) (cause : Option Cause) : Failure :=
  ⟨.schemaCompile diagnostics, message,
    location.orElse (fun _ => Diagnostic.firstLocation diagnostics), cause⟩

/-- What a failure is to one that is raised from it. -/
def asCause (f : Failure) : Option Cause :=
  match f.kind with
  | .schemaCompile ds => some (.compile ds)
  | .messageNotFound => some .messageNotFound
  | _ => none

end Failure

/-! ## Breakdowns -/

/-- Conditions that no failure covers. -/
inductive Breakdown where
  /-- A compilation without a schema. -/
  | noSchema
  /-- A number of more digits than are read or written. -/
  | numeralTooLong
  /-- A path with a NUL character. -/
  | nulInPath
  /-- A schema to stage below a directory that is a staged schema already. -/
  | stagedParentIsFile
  /-- The same, further up. -/
  | stagedAncestorIsFile
  /-- A schema to stage where a directory is. -/
  | stagedNameIsDirectory
  /-- A name to stage with a component that the file system does not take. -/
  | stagedNameTooLong
  /-- A name to stage whose whole path is too long for the file system. -/
  | stagedPathTooLong
  /-- An output of the compiler that is not UTF-8. -/
  | outputNotUtf8
  /-- The compiler reported success and wrote no descriptors. -/
  | noDescriptorSet
  /-- What the compiler wrote is no descriptor set. -/
  | malformedDescriptorSet
  /-- The descriptors do not fit together. -/
  | inconsistentDescriptors
  /-- The descriptors lack a requested schema. -/
  | schemaNotInSet
  /-- A message to pack lacks required fields. -/
  | unpackableMessage
  /-- An enum number that 32 bits do not hold. -/
  | enumOutOfRange
  /-- A configuration file that is not UTF-8. -/
  | configNotUtf8
  /-- A YAML value that its type does not take. -/
  | yamlValue
  /-- A YAML text that is no key of its type's table. -/
  | yamlKey
  /-- A YAML text that does not have its type's form. -/
  | yamlForm
  /-- An empty YAML text where a first character is needed. -/
  | yamlEmpty
  /-- A YAML number beyond what its type holds. -/
  | yamlRange
  /-- A YAML value of a kind that an operation does not take. -/
  | yamlKind
  /-- A document that contains itself. -/
  | endlessDocument
  /-- A level name that is none. -/
  | unknownLevel
  /-- A level setting that is a text. -/
  | levelIsText
  /-- A level setting that is a table. -/
  | levelIsTable
  /-- A level setting that is no number, where it is compared with one. -/
  | levelsApart
  deriving DecidableEq, Repr

/-- What ends a computation early. -/
inductive Stop where
  | failed (f : Failure)
  | broken (b : Breakdown)
  deriving DecidableEq, Repr

end ProtoCheck
