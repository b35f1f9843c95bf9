import ProtoCheck.Failure
import ProtoCheck.Text.Blank

/-!
# Header directives

A file names its schema and its message type in comments at its very top: lines of three words,
the comment mark, a key and a value. The header ends at the first line that is no comment.

* `Directive` : the two keys;
* `headerLines`, `directive?` : the lines of the header and what one of them says;
* `Directives`, `extract` : both values, each given exactly once;
* `HeaderError` : which one is missing or given twice.
-/

namespace ProtoCheck

/-- What a header line can give. -/
inductive Directive where
  /-- The path of the schema. -/
  | schema
  /-- The name of the message type. -/
  | message
  deriving DecidableEq, Repr

/-- The word for a directive. -/
def Directive.name : Directive → String
  | .schema => "proto-file"
  | .message => "proto-message"

/-- The key of a directive: its word and a colon. -/
def Directive.key (d : Directive) : List Char := d.name.toList ++ [':']

/-- The values of both directives. -/
structure Directives where
  schema : String
  message : String
  deriving DecidableEq, Repr

/-- What is wrong with a header. -/
inductive HeaderError where
  | missing (d : Directive)
  /-- A directive given again; lines count from zero. -/
  | duplicate (d : Directive) (line : Nat)
  deriving DecidableEq, Repr

namespace Header

/-- The trimmed lines at the top of a text that begin with the comment mark. -/
def headerLines (text : List Char) : List (List Char) :=
  ((Text.lines text).map Text.trim).takeWhile fun line => line.head? == some '#'

/-- The directive that a header line gives: it has three words, the first of them the comment
mark alone and the second a key. -/
def directive? (line : List Char) : Option (Directive × String) :=
  match Text.words line with
  | [mark, key, value] =>
    if mark == ['#'] then
      if key == Directive.schema.key then some (.schema, String.ofList value)
      else if key == Directive.message.key then some (.message, String.ofList value)
      else none
    else none
  | _ => none

/-- The values found so far. -/
structure Found where
  schema : Option String := none
  message : Option String := none
  deriving DecidableEq, Repr

def Found.get (f : Found) : Directive → Option String
  | .schema => f.schema
  | .message => f.message

def Found.set (f : Found) (d : Directive) (value : String) : Found :=
  match d with
  | .schema => { f with schema := some value }
  | .message => { f with message := some value }

/-- Collects the values of header lines, the first of which is line `index` of the text. -/
def collect (index : Nat) (found : Found) : List (List Char) → Except HeaderError Found
  | [] => .ok found
  | line :: rest =>
    match directive? line with
    | none => collect (index + 1) found rest
    | some (d, value) =>
      if (found.get d).isSome then .error (.duplicate d index)
      else collect (index + 1) (found.set d value) rest

/-- The directives of a text. -/
def extract (text : List Char) : Except HeaderError Directives := do
  let found ← collect 0 {} (headerLines text)
  match found.schema, found.message with
  | some schema, some message => .ok ⟨schema, message⟩
  | none, _ => .error (.missing .schema)
  | _, none => .error (.missing .message)

end Header

namespace HeaderError

def message : HeaderError → String
  | .missing d => "could not find " ++ d.name ++ " comment"
  | .duplicate d line => "duplicate " ++ d.name ++ " at line " ++ toString line

def toFailure (e : HeaderError) : Failure :=
  match e with
  | .missing _ => ⟨.missingDirective, e.message, none, none⟩
  | .duplicate _ line =>
    ⟨.duplicateDirective line, e.message, some { line := some ((line : Int) + 1) }, none⟩

end HeaderError

end ProtoCheck
