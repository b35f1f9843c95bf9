import ProtoCheck.CommandLine
import ProtoCheck.Config
import ProtoCheck.Log.Format
import ProtoCheck.Validation

/-!
# Runs of the program

* `Host` : what surrounds a run;
* `Ending` : how a run ends, `Session` : that and what it leaves behind;
* `settle` : the settings of a run;
* `run` : a run with the arguments of its command line;
* `opened` : the paths that it opens.
-/

namespace ProtoCheck

/-- What surrounds a run: the disk, the environment and the compiler. -/
structure Host where
  tree : Tree
  environment : Environment
  compiler : Schema.Compiler

/-- How a run ends. -/
inductive Ending where
  | exit (code : Nat)
  | broken (b : Breakdown)
  deriving DecidableEq, Repr

/-- How a run ends, what it writes and how often the compiler runs. -/
structure Session where
  ending : Ending
  printed : Printed := {}
  compilerRuns : Nat := 0
  deriving Repr

namespace Host

/-- The settings of a run: from the environment, the configuration file and the command line. -/
def settle (h : Host) (o : Options) : Except Stop Config := do
  let start := Config.ofEnvironment h.environment
  let c ← match o.config.filter (!·.isEmpty) with
    | none => .ok start
    | some path => start.withFile h.tree path
  (c.updated ⟨o.importPaths, none, o.format⟩).mapError .failed

/-- Settings with the level that a count of verbosity flags gives. Where a level is compared, it has
to be one. -/
def verbose (c : Config) (verbosity : Nat) : Except Breakdown Config :=
  let withLevel := fun level : Int =>
    Except.ok { c with logLevel := Log.levelName (Log.verbosityLevel verbosity level) }
  if verbosity == 0 then .ok c
  else
    match c.setting with
    | .level n => withLevel n
    | _ => if verbosity == 1 then .error .levelsApart else withLevel Log.Level.warning.value

/-- The streams that records and results are written to. -/
def written (r : Log.Routing) (records : List Log.Record) (results : Printed) : Printed :=
  let emitted := fun s => r.emit Log.Format.brief.line records s
  (⟨emitted .out, emitted .err⟩ : Printed) ++ results

/-- The record of the import paths of a run. -/
def pathsRecord (c : Config) : Log.Record :=
  Log.Channel.program.debug ("Import paths: " ++ Text.quotedList c.importPaths)

/-- The validator of a run with settled settings. -/
def validator (h : Host) (c : Config) : Validator := ⟨.disk h.tree, c.importPaths, h.compiler⟩

/-- Validates files with settled settings, and prints what comes of it. -/
def validateAll (h : Host) (c : Config) (r : Log.Routing) (files : List String) : Session :=
  let x := (h.validator c).checkAll files
  let records := pathsRecord c :: x.journal.records
  let runs := x.journal.runs.length
  match x.result with
  | .ok outcomes =>
    ⟨.exit (if outcomes.all Outcome.ok then 0 else 1), written r records (c.style.print outcomes),
      runs⟩
  | .error (.broken b) => ⟨.broken b, written r records {}, runs⟩
  | .error (.failed _) => ⟨.exit 1, written r records {}, runs⟩

/-- What is shown for settings that cannot be used. -/
def unusable (e : Environment) (f : Failure) : String :=
  "Invalid configuration: " ++ f.message ++ Location.describe e.sourceRoot f.location ++ "\n"

/-- A run with options. -/
def runOptions (h : Host) (o : Options) : Session :=
  match h.settle o with
  | .error (.failed f) => ⟨.exit 1, ⟨"", unusable h.environment f⟩, 0⟩
  | .error (.broken b) => ⟨.broken b, {}, 0⟩
  | .ok c =>
    match verbose c o.verbosity with
    | .error b => ⟨.broken b, {}, 0⟩
    | .ok c =>
      match c.routing with
      | .error b => ⟨.broken b, {}, 0⟩
      | .ok r => h.validateAll c r o.files

/-- A run with the arguments of its command line. -/
def run (h : Host) (args : List String) : Session :=
  match Request.ofArguments args with
  | .misuse m => ⟨.exit 2, ⟨"", misused m⟩, 0⟩
  | .help => ⟨.exit 0, ⟨help, ""⟩, 0⟩
  | .run o => h.runOptions o

/-- The paths that a run opens, or tries to. -/
def opened (h : Host) (args : List String) : List String :=
  match Request.ofArguments args with
  | .run o =>
    (o.config.filter (!·.isEmpty)).toList ++
      match h.settle o with
      | .ok c => ((h.validator c).checkAll o.files).journal.opened
      | .error _ => []
  | _ => []

end Host

end ProtoCheck
