import ProtoCheck.Header
import ProtoCheck.Report
import ProtoCheck.Schema.Compiler
import ProtoCheck.TextFormat.Decode

/-!
# Validating files

A run reads a file, takes the directives from its header, resolves the message type that they name
and decodes the whole file as a message of that type. The first step that fails ends it.

* `Validator` : where files come from, the import roots and the compiler;
* `Validator.validate` : one run;
* `Validator.check` : a run with its outcome recorded, `Validator.checkAll` : several.
-/

namespace ProtoCheck

open Schema

/-- What runs have in common. -/
structure Validator where
  store : Store
  importPaths : List String
  compiler : Compiler

namespace Validator

/-- The contents of a file to validate. -/
def readInput (v : Validator) (path : String) : Traced Bytes := do
  if v.store.recordsAccess then
    Traced.log [Log.Channel.fileAccess.debug ("Reading file: " ++ path)]
  Traced.touch path
  Traced.ofExcept ((v.store.read path).mapError AccessError.toStop)

/-- The record of directives that are found. -/
def headerRecord (d : Directives) : Log.Record :=
  Log.Channel.header.debug ("Found header directives: " ++ Directive.schema.name ++ "=" ++
    d.schema ++ " " ++ Directive.message.name ++ "=" ++ d.message)

/-- The directives of a file; a failure stands in that file. -/
def readHeader (path : String) (raw : Bytes) : Traced Directives :=
  match Header.extract (Utf8.decodeLossy raw) with
  | .ok d => do
    Traced.log [headerRecord d]
    return d
  | .error e =>
    let f := e.toFailure
    Traced.fail { f with location := some (Location.inFile f.location path) }

/-- The failure of a file whose message type cannot be resolved, raised from `f`. -/
def unresolved (d : Directives) (f : Failure) : Failure :=
  ⟨.resolution, "failed to find message " ++ d.message ++ " in " ++ d.schema ++ ": " ++ f.message,
    f.location, f.asCause⟩

/-- The message type that directives name. -/
def resolveType (v : Validator) (d : Directives) : Traced Resolved :=
  let x := resolve v.compiler v.store v.importPaths d.schema d.message
  { x with result := x.result.mapError fun e => match e with
    | .failed f => .failed (unresolved d f)
    | .broken b => .broken b }

/-- One run. -/
def validate (v : Validator) (path : String) : Traced Unit := do
  let raw ← v.readInput path
  let d ← readHeader path raw
  let r ← v.resolveType d
  let _ ← Traced.ofExcept (TextFormat.decodeFile r.pool r.type (some path) raw)
  Traced.log [Log.Channel.validation.debug ("Validated " ++ path ++ " as " ++ r.type.fullName)]

/-- One run with its failure, if there is one, recorded. -/
def check (v : Validator) (path : String) : Traced Outcome :=
  let x := v.validate path
  { x with result := match x.result with
    | .ok () => .ok (Outcome.ofFile path)
    | .error (.failed f) => .ok ((Outcome.ofFile path).record f)
    | .error (.broken b) => .error (.broken b) }

/-- Several runs, one after the other. -/
def checkAll (v : Validator) : List String → Traced (List Outcome)
  | [] => return []
  | path :: rest => do
    let o ← v.check path
    if o.ok then Traced.log [Log.Channel.validation.debug (path ++ ": valid")]
    return o :: (← v.checkAll rest)

end Validator

end ProtoCheck
