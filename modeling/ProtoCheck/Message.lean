import ProtoCheck.Number.Binary
import ProtoCheck.Text.Utf8

/-!
# Messages

* `Scalar`, `Value`, `Slot` : the values of fields;
* `Fields` : the set fields of a message, by their numbers;
* `Fields.get?`, `Fields.put`, `Fields.append`, `Fields.putPair` : reading and setting them.
-/

namespace ProtoCheck.Message

/-- A value that is no message. The numbers of the binary formats are held as their patterns, those
of enums as integers. -/
inductive Scalar where
  | bool (b : Bool)
  | int (n : Int)
  | text (s : String)
  | bytes (b : Bytes)
  | single (bits : Nat)
  | double (bits : Nat)
  deriving DecidableEq, Repr, Inhabited

/-- Whether the value is the one that a field has when it is not set. -/
def Scalar.isDefault : Scalar → Bool
  | .bool b => !b
  | .int n => n == 0
  | .text s => s.isEmpty
  | .bytes b => b.isEmpty
  | .single bits => bits == 0
  | .double bits => bits == 0

/-- Whether the value counts as given: neither empty nor false nor a zero of either sign. -/
def Scalar.isGiven : Scalar → Bool
  | .single bits => bits % Number.Format.single.signBit != 0
  | .double bits => bits % Number.Format.double.signBit != 0
  | s => !s.isDefault

mutual

/-- A scalar, or a message as its set fields by number. -/
inductive Value where
  | scalar (s : Scalar)
  | message (fields : List (Int × Slot))

/-- What a set field holds. -/
inductive Slot where
  | one (v : Value)
  | many (vs : List Value)
  | map (pairs : List (Scalar × Value))

end

instance : Inhabited Value := ⟨.message []⟩

/-- The set fields of a message, by number in increasing order. -/
abbrev Fields := List (Int × Slot)

namespace Fields

def get? (fs : Fields) (number : Int) : Option Slot := fs.lookup number

def has (fs : Fields) (number : Int) : Bool := (fs.get? number).isSome

/-- Sets a field. -/
def put (number : Int) (slot : Slot) : Fields → Fields
  | [] => [(number, slot)]
  | (n, s) :: rest =>
    if n = number then (number, slot) :: rest
    else if number < n then (number, slot) :: (n, s) :: rest
    else (n, s) :: put number slot rest

/-- The values of a field that holds several. -/
def values (fs : Fields) (number : Int) : List Value :=
  match fs.get? number with
  | some (.many vs) => vs
  | _ => []

/-- Adds a value to a field that holds several. -/
def append (number : Int) (v : Value) (fs : Fields) : Fields :=
  put number (.many (fs.values number ++ [v])) fs

/-- The pairs of a field that is a map. -/
def pairs (fs : Fields) (number : Int) : List (Scalar × Value) :=
  match fs.get? number with
  | some (.map ps) => ps
  | _ => []

/-- Gives a key of a map its value, in the place that the key has. -/
def setPair (key : Scalar) (v : Value) : List (Scalar × Value) → List (Scalar × Value)
  | [] => [(key, v)]
  | p :: rest => if p.1 = key then (key, v) :: rest else p :: setPair key v rest

/-- Gives a key of a field that is a map its value. -/
def putPair (number : Int) (key : Scalar) (v : Value) (fs : Fields) : Fields :=
  put number (.map (setPair key v (fs.pairs number))) fs

/-- The scalar of a field that holds one. -/
def scalar? (fs : Fields) (number : Int) : Option Scalar :=
  match fs.get? number with
  | some (.one (.scalar s)) => some s
  | _ => none

end Fields

/-! ## Maps in order -/

/-- The order of keys: `false` before `true`, integers by value, texts by code points. -/
def Scalar.le : Scalar → Scalar → Bool
  | .bool a, .bool b => !a || b
  | .int a, .int b => a ≤ b
  | .text a, .text b => a ≤ b
  | _, _ => true

/-- The pairs of a map by their keys. -/
def sortedPairs (ps : List (Scalar × Value)) : List (Scalar × Value) :=
  ps.mergeSort fun a b => a.1.le b.1

end ProtoCheck.Message
