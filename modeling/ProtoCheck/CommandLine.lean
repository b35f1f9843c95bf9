import ProtoCheck.Config.Settings
import ProtoCheck.Text.Digit
import ProtoCheck.Text.Quoted

/-!
# The command line

* `Switch` : the options by name, long names shortened to what tells them apart;
* `Argument`, `Argument.ofString` : what an argument is by its form;
* `Options` : what a command line asks for;
* `Request`, `Request.ofArguments` : a run, the help text, or a misuse;
* `usage`, `help`, `misused` : the texts that are shown.
-/

namespace ProtoCheck

open Text

/-! ## Switches -/

/-- The options. -/
inductive Switch where
  | help
  | importPath
  | config
  | format
  | verbose
  deriving DecidableEq, Repr

namespace Switch

def names : Switch → List String
  | .help => ["-h", "--help"]
  | .importPath => ["-I", "--import-path"]
  | .config => ["--config"]
  | .format => ["--format"]
  | .verbose => ["-v", "--verbose"]

def all : List Switch := [.help, .importPath, .config, .format, .verbose]

/-- Whether a value belongs to the option. -/
def takesValue : Switch → Bool
  | .help | .verbose => false
  | .importPath | .config | .format => true

/-- All names, with what they stand for. -/
def table : List (String × Switch) := all.flatMap fun s => s.names.map fun name => (name, s)

def named? (name : String) : Option Switch := table.lookup name

/-- The option as messages name it. -/
def title (s : Switch) : String := "/".intercalate s.names

end Switch

/-! ## Misuses -/

/-- What is wrong with a command line. -/
inductive Misuse where
  | ambiguous (text : String) (names : List String)
  | noValue (s : Switch)
  | unusedValue (s : Switch) (value : String)
  | notAChoice (s : Switch) (value : String) (choices : List String)
  | noFile
  | unrecognized (texts : List String)
  deriving DecidableEq, Repr

namespace Misuse

/-- What is wrong with the use of an option. -/
def ofSwitch (s : Switch) (problem : String) : String := "argument " ++ s.title ++ ": " ++ problem

def message : Misuse → String
  | .ambiguous text names =>
      "ambiguous option: " ++ text ++ " could match " ++ ", ".intercalate names
  | .noValue s => ofSwitch s "expected one argument"
  | .unusedValue s v => ofSwitch s ("ignored explicit argument " ++ quoted v)
  | .notAChoice s v choices =>
    ofSwitch s ("invalid choice: " ++ quoted v ++ " (choose from " ++
      ", ".intercalate (choices.map quoted) ++ ")")
  | .noFile => "the following arguments are required: FILE"
  | .unrecognized texts => "unrecognized arguments: " ++ " ".intercalate texts

end Misuse

/-! ## Arguments -/

/-- What stands behind the name of an option in one argument. -/
inductive Attached where
  | nothing
  /-- A text, behind an equals sign or behind the name itself. -/
  | text (behindEquals : Bool) (s : List Char)
  deriving DecidableEq, Repr

/-- An argument by its form. -/
inductive Argument where
  | word (s : String)
  /-- Two dashes, behind which all arguments are words. -/
  | divider
  /-- An option, by a name of one letter or by a long one. -/
  | option (s : Switch) (isLetter : Bool) (attached : Attached)
  /-- What has the form of an option and names none. -/
  | unknown (text : String)
  deriving DecidableEq, Repr

namespace Argument

def isWord : Argument → Bool
  | .word _ => true
  | _ => false

/-- Whether an argument is an option or has the form of one. -/
def isOption : Argument → Bool
  | .option .. | .unknown _ => true
  | _ => false

/-- Arguments that are no options, as they were given. -/
def texts (args : List Argument) : List String :=
  args.filterMap fun a =>
    match a with
    | .word s => some s
    | .divider => some "--"
    | _ => none

/-- A text up to its first equals sign, and what stands behind that. -/
def atEquals (s : List Char) : List Char × Attached :=
  match s.dropWhile (· != '=') with
  | _ :: value => (s.takeWhile (· != '='), .text true value)
  | [] => (s, .nothing)

/-- Whether a text has the form of a negative number: digits, with a point among or before them. -/
def isNegativeNumber (s : List Char) : Bool :=
  match s with
  | '-' :: rest =>
    let rest := if rest.getLast? == some '\n' then rest.dropLast else rest
    match rest.dropWhile isDecimal with
    | [] => !rest.isEmpty
    | '.' :: fraction => !fraction.isEmpty && fraction.all isDecimal
    | _ => false
  | _ => false

/-- The options that a text with a dash in front can stand for: those whose long name it begins, or
the one whose letter stands behind the dash. -/
def candidates (text : String) : List (String × Argument) :=
  match text.toList with
  | '-' :: '-' :: _ =>
    let (start, attached) := atEquals text.toList
    (Switch.table.filter fun e => (after? start e.1.toList).isSome).map fun e =>
      (e.1, .option e.2 false attached)
  | '-' :: letter :: rest =>
    let name := String.ofList ['-', letter]
    ((Switch.named? name).map fun s => (name, Argument.option s true (.text false rest))).toList
  | _ => []

/-- An argument in front of two dashes, by its form. -/
def ofString (text : String) : Except Misuse Argument :=
  let s := text.toList
  let (name, value) := atEquals s
  let exact := fun name : List Char => Switch.named? (String.ofList name)
  let isLetter := s.take 2 != ['-', '-']
  if s.head? != some '-' then .ok (.word text)
  else
    match exact s, exact name with
    | some sw, _ => .ok (.option sw isLetter .nothing)
    | none, some sw => .ok (.option sw isLetter value)
    | none, none =>
      if s == ['-'] then .ok (.word text)
      else
        match candidates text with
        | [(_, a)] => .ok a
        | [] =>
          .ok (if isNegativeNumber s || s.contains ' ' then .word text else .unknown text)
        | several => .error (.ambiguous text (several.map (·.1)))

/-- Arguments by their form. -/
def ofStrings : List String → Except Misuse (List Argument)
  | [] => .ok []
  | text :: rest =>
    if text == "--" then .ok (.divider :: rest.map .word)
    else do
      let a ← ofString text
      return a :: (← ofStrings rest)

end Argument

/-! ## Options -/

/-- What a command line asks for. -/
structure Options where
  files : List String := []
  importPaths : List String := []
  config : Option String := none
  format : Option String := none
  verbosity : Nat := 0
  deriving DecidableEq, Repr

/-- The uses of options that one argument stands for: those without a value, then one whose value
may be attached, and letters that name no option. -/
structure Uses where
  plain : List Switch := []
  valued : Option (Switch × Option String) := none
  unknown : Option String := none
  deriving DecidableEq, Repr

/-- The uses that an option with a text attached stands for. An option that takes a value takes the
text; behind another one of one letter, the text is read as further letters. -/
def usesOf (s : Switch) (isLetter behindEquals : Bool) (text : List Char) : Except Misuse Uses :=
  if s.takesValue then .ok { valued := some (s, some (String.ofList text)) }
  else
    match text with
    | [] => .error (.unusedValue s "")
    | c :: rest =>
      if !isLetter || behindEquals || c == '-' then .error (.unusedValue s (String.ofList text))
      else
        match Switch.named? (String.ofList ['-', c]) with
        | none => .ok { plain := [s], unknown := some (String.ofList ('-' :: text)) }
        | some next =>
          let more : Except Misuse Uses := match rest with
            | [] =>
              if next.takesValue then .ok { valued := some (next, none) }
              else .ok { plain := [next] }
            | '=' :: value => usesOf next true true value
            | rest => usesOf next true false rest
          more.map fun u => { u with plain := s :: u.plain }
termination_by text.length

/-- The uses that an option in an argument stands for. -/
def uses (s : Switch) (isLetter : Bool) : Attached → Except Misuse Uses
  | .nothing =>
    if s.takesValue then .ok { valued := some (s, none) } else .ok { plain := [s] }
  | .text behindEquals text => usesOf s isLetter behindEquals text

/-! ## Requests -/

/-- What a command line amounts to. -/
inductive Request where
  | run (o : Options)
  | help
  | misuse (m : Misuse)
  deriving DecidableEq, Repr

/-- What has been read so far: the options, whether there are files, and what was not recognized. -/
structure Reading where
  options : Options := {}
  hasFiles : Bool := false
  extras : List String := []

namespace Reading

/-- An option without a value; the help text ends the reading. -/
def usePlain (r : Reading) (s : Switch) : Except Request Reading :=
  match s with
  | .verbose => .ok { r with options.verbosity := r.options.verbosity + 1 }
  | _ => .error .help

/-- An option with its value. -/
def useValue (r : Reading) (s : Switch) (value : String) : Except Request Reading :=
  match s with
  | .importPath => .ok { r with options.importPaths := r.options.importPaths ++ [value] }
  | .config => .ok { r with options.config := some value }
  | .format =>
    if Settings.formats.contains value then .ok { r with options.format := some value }
    else .error (.misuse (.notAChoice s value Settings.formats))
  | _ => .ok r

/-- The uses of options in one argument, in front of others: the value that is not attached is the
next argument. -/
def useAll (r : Reading) (u : Uses) (rest : List Argument) :
    Except Request (Reading × List Argument) := do
  let (valued, rest) ← match u.valued, rest with
    | none, rest => .ok (none, rest)
    | some (s, some value), rest => .ok (some (s, value), rest)
    | some (s, none), .word value :: rest => .ok (some (s, value), rest)
    | some (s, none), _ => .error (.misuse (.noValue s))
  let r ← u.plain.foldlM usePlain { r with extras := r.extras ++ u.unknown.toList }
  match valued with
  | none => return (r, rest)
  | some (s, value) => return (← r.useValue s value, rest)

/-- Words between options: the first of them are the files, others are not recognized. Of the two
dashes that divide words from options nothing stays in the files. -/
def takeWords (r : Reading) (args : List Argument) : Reading :=
  let given := Argument.texts args
  if !r.hasFiles && args.any Argument.isWord then
    { r with options.files := given.erase "--", hasFiles := true }
  else { r with extras := r.extras ++ given }

/-- Reads arguments; each round takes one of them at least. -/
def readAll : Nat → Reading → List Argument → Except Request Reading
  | 0, r, _ => .ok r
  | fuel + 1, r, args =>
    match args with
    | [] => .ok r
    | .option s isLetter attached :: rest => do
      let u ← (uses s isLetter attached).mapError .misuse
      let (r, rest) ← r.useAll u rest
      readAll fuel r rest
    | .unknown text :: rest => readAll fuel { r with extras := r.extras ++ [text] } rest
    | args =>
      readAll fuel (r.takeWords (args.takeWhile (!·.isOption))) (args.dropWhile (!·.isOption))

/-- What is asked for when all arguments are read: files are needed, and nothing may be left
over. -/
def request (r : Reading) : Request :=
  if !r.hasFiles then .misuse .noFile
  else if !r.extras.isEmpty then .misuse (.unrecognized r.extras)
  else .run r.options

end Reading

/-- What a command line amounts to. -/
def Request.ofArguments (args : List String) : Request :=
  match Argument.ofStrings args with
  | .error m => .misuse m
  | .ok args =>
    match Reading.readAll args.length {} args with
    | .ok r => r.request
    | .error q => q

/-! ## Texts -/

/-- The name of the program. -/
def programName : String := "textproto-validator"

/-- How to use the program, in short. -/
def usage : String :=
  "usage: textproto-validator [-h] [-I DIR] [--config FILE]\n" ++
  "                           [--format \x7bhuman,json,github-actions\x7d] [-v]\n" ++
  "                           FILE [FILE ...]\n"

/-- How to use the program. -/
def help : String :=
  usage ++ "\n" ++
  "Validate protobuf text-format files against the schema named in their header\n\n" ++
  "positional arguments:\n" ++
  "  FILE                  Textproto file(s) to validate\n\n" ++
  "options:\n" ++
  "  -h, --help            show this help message and exit\n" ++
  "  -I DIR, --import-path DIR\n" ++
  "                        Specify the directory in which to search for proto\n" ++
  "                        imports. May be specified multiple times.\n" ++
  "  --config FILE         YAML configuration file (import_paths, log_level,\n" ++
  "                        output_format)\n" ++
  "  --format \x7bhuman,json,github-actions\x7d\n" ++
  "                        Output format (default: human)\n" ++
  "  -v, --verbose         Increase log verbosity (-v info, -vv debug)\n\n" ++
  "Each FILE must start with two comments naming its schema and message type:\n\n" ++
  "  # proto-file: path/to/schema.proto\n" ++
  "  # proto-message: package.MessageName\n"

/-- What is shown for a misuse. -/
def misused (m : Misuse) : String := usage ++ programName ++ ": error: " ++ m.message ++ "\n"

end ProtoCheck
