import ProtoCheck.Text.Blank

/-!
# Log records

Levels are integers; some have names. A record goes to standard output below the threshold of the
error stream and to the error stream from there on.

* `Level` : the named levels, `levelName` : how a level is shown;
* `Record`, `Channel` : a record and the parts of the program that write them;
* `Routing`, `Routing.stream?` : which stream a record of some level goes to;
* `Routing.emit` : the two streams that a list of records gives.
-/

namespace ProtoCheck.Log

/-! ## Levels -/

/-- The levels that have names. -/
inductive Level where
  | notset
  | debug
  | info
  | warning
  | error
  | critical
  deriving DecidableEq, Repr

namespace Level

def value : Level → Int
  | .notset => 0
  | .debug => 10
  | .info => 20
  | .warning => 30
  | .error => 40
  | .critical => 50

def name : Level → String
  | .notset => "NOTSET"
  | .debug => "DEBUG"
  | .info => "INFO"
  | .warning => "WARNING"
  | .error => "ERROR"
  | .critical => "CRITICAL"

def all : List Level := [.notset, .debug, .info, .warning, .error, .critical]

/-- The level that a name stands for; two levels have a second name. -/
def named? (name : String) : Option Level :=
  if name == "FATAL" then some .critical
  else if name == "WARN" then some .warning
  else all.find? fun l => l.name == name

end Level

/-- How a level is shown: by its name, or as a number when it has none. -/
def levelName (n : Int) : String :=
  match Level.all.find? fun l => l.value == n with
  | some l => l.name
  | none => "Level " ++ toString n

/-- The capital form of a letter in ASCII: that of an ASCII letter, and of the few other letters
whose capital form is ASCII. -/
def capital (c : Char) : List Char :=
  match c.toNat with
  | 0xDF => ['S', 'S']
  | 0x131 => ['I']
  | 0x17F => ['S']
  | 0xFB00 => ['F', 'F']
  | 0xFB01 => ['F', 'I']
  | 0xFB02 => ['F', 'L']
  | 0xFB03 => ['F', 'F', 'I']
  | 0xFB04 => ['F', 'F', 'L']
  | 0xFB05 => ['S', 'T']
  | 0xFB06 => ['S', 'T']
  | _ => [c.toUpper]

/-- What a text given as a level can stand for. -/
inductive Setting where
  | level (n : Int)
  /-- The name of the basic line format, which is a text and no level. -/
  | formatText
  /-- The name of the table of format styles, which is no level either. -/
  | styleTable
  deriving DecidableEq, Repr

/-- The setting a text stands for in any case; a text that names nothing stands for `WARNING`. -/
def Setting.named (text : String) : Setting :=
  let name := String.ofList (text.toList.flatMap capital)
  if name == "BASIC_FORMAT" then .formatText
  else if name == "_STYLES" then .styleTable
  else .level ((Level.named? name).getD .warning).value

/-- The level for a count of verbosity flags: one lowers the default to `INFO` at most, more give
`DEBUG`. -/
def verbosityLevel (verbosity default : Int) : Int :=
  if verbosity ≤ 0 then default
  else if verbosity = 1 then min default Level.info.value
  else Level.debug.value

/-! ## Records -/

/-- A record: who writes it, its level and its text. -/
structure Record where
  channel : String
  level : Int
  text : String
  deriving DecidableEq, Repr

/-- The parts of the program that write records. -/
inductive Channel where
  | program
  | fileAccess
  | header
  | schema
  | messageType
  | validation
  | config
  deriving DecidableEq, Repr

def Channel.name : Channel → String
  | .program => "textproto_validator"
  | .fileAccess => "textproto_validator.file_io.file_access"
  | .header => "textproto_validator.parsers.header_parser"
  | .schema => "textproto_validator.resolvers.schema_compiler"
  | .messageType => "textproto_validator.resolvers.type_resolver"
  | .validation => "textproto_validator.validator"
  | .config => "textproto_validator.config"

def Channel.debug (c : Channel) (text : String) : Record := ⟨c.name, Level.debug.value, text⟩

def Channel.warn (c : Channel) (text : String) : Record := ⟨c.name, Level.warning.value, text⟩

/-! ## Streams -/

/-- The two output streams. -/
inductive Stream where
  | out
  | err
  deriving DecidableEq, Repr

/-- The level of the root and the level from which records go to the error stream. -/
structure Routing where
  level : Int
  errLevel : Int
  deriving DecidableEq, Repr

namespace Routing

/-- The levels used where none are given. -/
def default : Routing := ⟨Level.info.value, Level.warning.value⟩

/-- The threshold of the error stream: never below `DEBUG`. -/
def threshold (r : Routing) : Int := max r.errLevel Level.debug.value

/-- Each stream has one handler; this says which levels pass the handler of a stream. -/
def accepts (r : Routing) (n : Int) : Stream → Bool
  | .out => Level.debug.value ≤ n && n < r.threshold
  | .err => r.threshold ≤ n

/-- Whether the root lets a level through; levels up to zero are never logged. -/
def enabled (r : Routing) (n : Int) : Bool := 0 < n && r.level ≤ n

/-- The stream that a record of level `n` is written to. -/
def stream? (r : Routing) (n : Int) : Option Stream :=
  if r.enabled n then [Stream.out, Stream.err].find? (r.accepts n) else none

/-- What the records put on a stream: a line each, as `show` writes it. -/
def emit (r : Routing) (line : Record → String) (records : List Record) (s : Stream) : String :=
  String.join ((records.filter fun rec => r.stream? rec.level == some s).map fun rec =>
    line rec ++ "\n")

end Routing

end ProtoCheck.Log
