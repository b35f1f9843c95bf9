import ProtoCheck.TextFormat.Reader

/-!
# Decoding a file as text format

* `decodeFile` : the message that the bytes of a file give, or the failure: bytes that are no
  UTF-8, text that is refused, required fields that are not set.
-/

namespace ProtoCheck.TextFormat

open Descriptor Message

/-- The place of a file as a whole; a file without a name has none. -/
def filePlace (file : Option String) : Option Location :=
  (file.filter (!·.isEmpty)).map Location.ofFile

/-- The failure of a text that is refused. -/
def Refusal.toStop (file : Option String) : Refusal → Stop
  | .broken b => .broken b
  | .whole text =>
    .failed ⟨.decode, "unmarshal failure: " ++ text, some ((filePlace file).getD {}),
      some .textFormat⟩
  | .at line column text =>
    .failed ⟨.decode,
      "unmarshal failure: " ++ toString line ++ ":" ++ toString column ++ " : " ++ text,
      some { (filePlace file).getD {} with line := some line, column := some column },
      some .textFormat⟩

/-- The failure of bytes that are no text. -/
def notText (file : Option String) (e : Utf8.Fault) : Failure :=
  ⟨.decode, "unmarshal failure: invalid UTF-8: " ++ e.message, filePlace file, some .notUtf8⟩

/-- The failure of a message without some required fields. -/
def fieldsMissing (file : Option String) (type : MessageType) (paths : List String) : Failure :=
  ⟨.decode,
    "unmarshal failure: required field " ++
      ", ".intercalate (paths.map fun p => type.fullName ++ "." ++ p) ++ " not set",
    filePlace file, none⟩

/-- The message of type `type` that the bytes of a file give. -/
def decodeFile (pool : Pool) (type : MessageType) (file : Option String) (raw : Bytes) :
    Except Stop Fields :=
  match Utf8.decode? raw with
  | .error e => .error (.failed (notText file e))
  | .ok text =>
    match readMessage pool type text with
    | .error e => .error (e.toStop file)
    | .ok fields =>
      let missing := missingFields pool type fields
      if missing.isEmpty then .ok fields
      else .error (.failed (fieldsMissing file type missing))

end ProtoCheck.TextFormat
