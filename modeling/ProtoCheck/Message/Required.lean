import ProtoCheck.Message.Wire

/-!
# Required fields

* `missingFields` : the required fields that a message and the messages inside it lack, as paths:
  its own in the order of declaration, then those of each message inside by field number.
-/

namespace ProtoCheck.Message

open Descriptor

/-- A character of a key between its quotes. -/
def keyChar (b : UInt8) : List Char :=
  let c := Char.ofNat b.toNat
  if c == '\n' then ['\\', 'n']
  else if c == '\r' then ['\\', 'r']
  else if c == '\t' then ['\\', 't']
  else if c == '"' || c == '\'' || c == '\\' then ['\\', c]
  else if 32 ≤ b.toNat && b.toNat < 127 then [c]
  else
    let digit := fun n : Nat => Nat.digitChar (b.toNat / n % 8)
    ['\\', digit 64, digit 8, digit 1]

/-- A key of a map in a path. -/
def keyText : Scalar → String
  | .bool b => if b then "true" else "false"
  | .int n => toString n
  | .text s => "\"" ++ String.ofList ((Utf8.encodeString s).flatMap keyChar) ++ "\""
  | _ => ""

/-- A field in a path: extensions stand in brackets. -/
def stepText (f : Field) : String := if f.isExtension then "(" ++ f.fullName ++ ")" else f.name

/-- The missing fields of a message itself. -/
def ownMissing (type : MessageType) (start : String) (fields : Fields) : List String :=
  (type.fields.filter fun f => f.label == .required && !fields.has f.number).map fun f =>
    start ++ f.name

mutual

/-- The paths inside a value, behind `start`. -/
def missingInValue (pool : Pool) (kind : FieldKind) (start : String) : Value → List String
  | .scalar _ => []
  | .message fields =>
    let type := subType pool kind
    ownMissing type start fields ++ missingInFields pool type start fields

/-- The paths inside values, the first of which has index `i`. -/
def missingInValues (pool : Pool) (kind : FieldKind) (start : String) (i : Nat) :
    List Value → List String
  | [] => []
  | v :: rest =>
    missingInValue pool kind (start ++ "[" ++ toString i ++ "].") v ++
      missingInValues pool kind start (i + 1) rest

/-- The paths inside the values of a map. -/
def missingInPairs (pool : Pool) (kind : FieldKind) (start : String) :
    List (Scalar × Value) → List String
  | [] => []
  | (k, v) :: rest =>
    missingInValue pool kind (start ++ "[" ++ keyText k ++ "].") v ++
      missingInPairs pool kind start rest

/-- The paths inside what a field holds. -/
def missingInSlot (pool : Pool) (f : Field) (start : String) : Slot → List String
  | .one v => missingInValue pool f.kind (start ++ stepText f ++ ".") v
  | .many vs => missingInValues pool f.kind (start ++ stepText f) 0 vs
  | .map pairs =>
    let kind := (((subType pool f.kind).field? "value").map (·.kind)).getD default
    missingInPairs pool kind (start ++ stepText f) pairs

/-- The paths inside the set fields `fields` of a message of type `type`. -/
def missingInFields (pool : Pool) (type : MessageType) (start : String) :
    List (Int × Slot) → List String
  | [] => []
  | (number, slot) :: rest =>
    (match pool.numbered? type number with
      | some f => missingInSlot pool f start slot
      | none => []) ++ missingInFields pool type start rest

end

/-- The paths of the required fields that a message lacks. -/
def missingFields (pool : Pool) (type : MessageType) (fields : Fields) : List String :=
  ownMissing type "" fields ++ missingInFields pool type "" fields

end ProtoCheck.Message
