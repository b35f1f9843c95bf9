import ProtoCheck.Config.Settings
import ProtoCheck.Log
import ProtoCheck.Store.Tree
import ProtoCheck.Text.Breaks
import ProtoCheck.Yaml.Data.OfNode

/-!
# Configuration

Settings come from the environment, from a configuration file and from the command line, in that
order. Import paths add up behind the current directory; the other settings replace one another.

* `mergeImportPaths` : import paths one after the other, each of them once;
* `Config`, `Config.ofEnvironment` : the settings of a run, at its start;
* `Config.updated` : with more settings, `Config.withFile` : with those of a file;
* `Config.setting` : what the level's text stands for.
-/

namespace ProtoCheck

/-- The import paths that are always searched. -/
def usualImportPaths : List String := ["."]

/-- A list with an item behind it, unless it is there already or says nothing. -/
def addPath (paths : List String) (path : String) : List String :=
  if path.isEmpty || paths.contains path then paths else paths ++ [path]

/-- The usual import paths and then those of the groups, each of them once. -/
def mergeImportPaths (groups : List (List String)) : List String :=
  (usualImportPaths :: groups).flatten.foldl addPath []

/-- The variables of the environment. -/
structure Environment where
  importPath : Option String := none
  logLevel : Option String := none
  sourceRoot : Option String := none
  deriving DecidableEq, Repr

/-- The settings of a run. -/
structure Config where
  importPaths : List String := usualImportPaths
  logLevel : String := Log.Level.warning.name
  style : Style := .human
  deriving DecidableEq, Repr

namespace Config

/-- The paths of a text with a colon between neighbours; an empty text has none. -/
def splitPaths (s : String) : List String :=
  if s.isEmpty then [] else (Text.pieces (· == ':') s.toList).map String.ofList

/-- The settings at the start of a run. -/
def ofEnvironment (e : Environment) : Config where
  importPaths := mergeImportPaths [((e.importPath).map splitPaths).getD []]
  logLevel := e.logLevel.getD Log.Level.warning.name

/-- The failure of a configuration. -/
def failure (message : String) (location : Option Location) (cause : Option Cause) : Failure :=
  ⟨.configuration, message, location, cause⟩

/-- Settings with more import paths, and with those of the other settings that are given; a level
that says nothing is not given. -/
def updated (c : Config) (s : Settings) : Except Failure Config :=
  let withStyle := fun style =>
    Except.ok { importPaths := mergeImportPaths [c.importPaths, s.importPaths]
                logLevel := (s.logLevel.filter (!·.isEmpty)).getD c.logLevel
                style := style : Config }
  match s.outputFormat with
  | none => withStyle c.style
  | some name =>
    match Style.named? name with
    | some style => withStyle style
    | none => .error (failure ("Unknown output format: " ++ name) none none)

/-! ## Files -/

/-- The failure of a file that cannot be opened. -/
def unreadable (path : String) (e : OsError) : Failure :=
  failure ("Failed to read configuration file " ++ path ++ ": " ++ e.message)
    (some (Location.ofFile path)) (some (.file e))

/-- The failure of a file whose text is not well formed. -/
def malformed (path : String) (text : List Char) (e : Yaml.YamlError) : Failure :=
  let number := fun n : Nat => ((n + 1 : Nat) : Int)
  failure ("Failed to parse YAML file " ++ path ++ ": " ++ e.message text)
    (some { Location.ofFile path with
      line := e.problemMark.map fun m => number m.line
      column := e.problemMark.map fun m => number m.column })
    (some (.yaml e.kind))

/-- The failure of a file whose data breaks the rules, at the place that its source map gives. -/
def invalid (path : String) (places : SourceMap) (steps : List Yaml.Step) (v : Violation) :
    Failure :=
  let found := places.locate (some (Yaml.pathText steps))
  failure ("Invalid configuration file " ++ path ++ ": " ++ v.message)
    (some { Location.ofFile path with
      yamlPath := found.yamlPath.filter (!·.isEmpty), line := found.line, column := found.column })
    (some .violation)

/-- The text of a file, each line end a line feed. -/
def readText (t : Tree) (path : String) : Except Stop (List Char) :=
  if path.contains '\x00' then .error (.broken .nulInPath)
  else
    match t.read path with
    | .error e => .error (.failed (unreadable path e))
    | .ok bytes =>
      match Utf8.decode? bytes with
      | .error _ => .error (.broken .configNotUtf8)
      | .ok text => .ok (Text.unifyBreaks text)

/-- The settings in the text of a file. A document without contents sets nothing. Violations that
cannot all be put in words are not reported. -/
def settings (path : String) (text : List Char) : Except Stop Settings := do
  let data ← match Yaml.Data.ofText? text with
    | .ok .null => .ok (.mapping [])
    | .ok d => .ok d
    | .error (.error e) => .error (.failed (malformed path text e))
    | .error (.breakdown b) => .error (.broken b)
  let places ← (Yaml.sourceMap? text).mapError .broken
  if !(violations data).all Violation.isShowable then .error (.broken .numeralTooLong)
  else
    match violation? data with
    | some (steps, v) => .error (.failed (invalid path places steps v))
    | none => .ok (Settings.ofData data)

/-- The configuration with the settings of a file. -/
def withFile (c : Config) (t : Tree) (path : String) : Except Stop Config := do
  let path := tidied path
  let s ← settings path (← readText t path)
  (c.updated s).mapError .failed

/-! ## Levels -/

/-- What the level's text stands for. -/
def setting (c : Config) : Log.Setting := Log.Setting.named c.logLevel

/-- How records are routed; only a level can be set. -/
def routing (c : Config) : Except Breakdown Log.Routing :=
  match c.setting with
  | .level n => .ok { Log.Routing.default with level := n }
  | .formatText => .error .levelIsText
  | .styleTable => .error .levelIsTable

end Config

end ProtoCheck
