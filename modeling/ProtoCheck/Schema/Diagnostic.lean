import ProtoCheck.Location
import ProtoCheck.Text.Breaks
import ProtoCheck.Text.Digit

/-!
# Compiler diagnostics

A schema compiler reports lines `file:line:column: text`, `file: text`, or plain ones.

* `Diagnostic`, `Severity` : one reported line;
* `Diagnostic.ofLine?`, `parse` : reading the lines of an error output;
* `Diagnostic.text` : writing one;
* `blamed` : the diagnostics that a failed run is blamed on.
-/

namespace ProtoCheck

inductive Severity where
  | error
  | warning
  deriving DecidableEq, Repr

/-- A line of a compiler's error output. -/
structure Diagnostic where
  message : String
  location : Location
  severity : Severity
  deriving DecidableEq, Repr

namespace Diagnostic

open Text

/-! ## Reading -/

/-- A run of decimal digits with a colon behind it, and what follows. -/
def digitsColon? (s : List Char) : Option (List Char × List Char) :=
  match s.dropWhile isDecimal with
  | ':' :: rest =>
    let ds := s.takeWhile isDecimal
    if ds.isEmpty then none else some (ds, rest)
  | _ => none

/-- The part before the first colon, if there is one and it is not empty, and what follows. -/
def fileColon? (s : List Char) : Option (List Char × List Char) :=
  match s.dropWhile (· != ':') with
  | ':' :: rest =>
    let file := s.takeWhile (· != ':')
    if file.isEmpty then none else some (file, rest)
  | _ => none

/-- The file, line, column and text of a line `file:line:column: text`. -/
def located? (s : List Char) : Option (List Char × List Char × List Char × List Char) := do
  let (file, rest) ← fileColon? s
  let (line, rest) ← digitsColon? rest
  let (column, rest) ← digitsColon? rest
  match rest with
  | ' ' :: text => some (file, line, column, text)
  | _ => none

/-- The file and text of a line `file: text`; the words `warning` and `error` name no file. -/
def inFile? (s : List Char) : Option (List Char × List Char) := do
  let (file, rest) ← fileColon? s
  match rest with
  | ' ' :: text =>
    let word := String.ofList (lower file)
    if word == "warning" || word == "error" then none else some (file, text)
  | _ => none

/-- The severity of a text behind a location: a warning says so first. -/
def severityOf (text : List Char) : Severity :=
  if (after? "warning:".toList (lower text)).isSome then .warning else .error

/-- The severity of a line without location. -/
def plainSeverity (s : List Char) : Severity :=
  let s := lower s
  if (after? "warning".toList s).isSome || (after? "[libprotobuf warning".toList s).isSome then
    .warning
  else .error

/-- The most digits that a line or column number may have. -/
def maxDigits : Nat := 4300

/-- A number of at most `maxDigits` digits. -/
def count? (digits : List Char) : Option Int :=
  if maxDigits < digits.length then none else (number? digits).map Int.ofNat

/-- The diagnostic of a line that is neither blank nor surrounded by blanks; `none` when a line or
column number has too many digits. -/
def ofLine? (s : List Char) : Option Diagnostic :=
  match located? s with
  | some (file, line, column, text) => do
    let l ← count? line
    let c ← count? column
    return ⟨String.ofList text,
      { file := some (tidied (String.ofList file)), line := some l, column := some c },
      severityOf text⟩
  | none =>
    match inFile? s with
    | some (file, text) =>
      some ⟨String.ofList text, { file := some (tidied (String.ofList file)) }, severityOf text⟩
    | none => some ⟨String.ofList s, {}, plainSeverity s⟩

/-- The diagnostics of an error output, one for each line that is not blank; `none` when one of
them has too long a number. -/
def parse (output : String) : Option (List Diagnostic) :=
  (((splitLines output.toList).map trim).filter (!·.isEmpty)).mapM ofLine?

/-! ## Writing -/

/-- The line that reports a diagnostic. -/
def text (d : Diagnostic) : String :=
  match d.location.line, d.location.column with
  | some l, some c =>
    d.location.file.getD "None" ++ ":" ++ toString l ++ ":" ++ toString c ++ ": " ++ d.message
  | _, _ =>
    match d.location.file with
    | some f => f ++ ": " ++ d.message
    | none => d.message

/-- The errors among diagnostics, or all of them when none is an error. -/
def blamed (ds : List Diagnostic) : List Diagnostic :=
  let errors := ds.filter fun d => d.severity == .error
  if errors.isEmpty then ds else errors

/-- The location of the first diagnostic that names a file. -/
def firstLocation (ds : List Diagnostic) : Option Location :=
  (ds.find? fun d => d.location.file.isSome).map (·.location)

end Diagnostic

end ProtoCheck
