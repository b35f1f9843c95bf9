import ProtoCheck.Descriptor.Pool
import ProtoCheck.Message

/-!
# The wire form of messages

A field is a tag, made of its number and a wire type, and a payload. Fields are written by
increasing number.

* `varint` : integers in groups of seven bits, the lowest first;
* `scalarPayload` : the payload of a scalar;
* `fieldsBytes` : the bytes of a message.
-/

namespace ProtoCheck.Message

open Descriptor

/-! ## Payloads -/

/-- A number in groups of seven bits, the lowest first; all but the last have the top bit set. -/
def varint (n : Nat) : Bytes :=
  if n < 128 then [UInt8.ofNat n] else UInt8.ofNat (128 + n % 128) :: varint (n / 128)
termination_by n
decreasing_by omega

/-- An integer modulo `2 ^ width`. -/
def wrapped (width : Nat) (n : Int) : Nat := (n % (Nat.pow 2 width : Int)).toNat

/-- Integers of small size as small numbers: the sign is the lowest bit. -/
def zigzag (n : Int) : Nat := if n < 0 then 2 * n.natAbs - 1 else 2 * n.toNat

/-- The `count` lowest bytes of a number, the lowest first. -/
def littleEndian (count n : Nat) : Bytes :=
  (List.range count).map fun i => UInt8.ofNat (n / Nat.pow 256 i % 256)

/-- Bytes behind their number. -/
def delimited (bs : Bytes) : Bytes := varint bs.length ++ bs

/-- How a payload ends: by itself, after eight or four bytes, or after a number of bytes. -/
inductive WireType where
  | varint
  | fixed64
  | delimited
  | groupStart
  | groupEnd
  | fixed32
  deriving DecidableEq, Repr

def WireType.code : WireType → Nat
  | .varint => 0
  | .fixed64 => 1
  | .delimited => 2
  | .groupStart => 3
  | .groupEnd => 4
  | .fixed32 => 5

def tag (number : Int) (w : WireType) : Bytes := varint (number.toNat * 8 + w.code)

/-- The wire type of a kind of fields. -/
def wireType : FieldKind → WireType
  | .scalar k =>
    match k with
    | .double | .fixed64 | .sfixed64 => .fixed64
    | .float | .fixed32 | .sfixed32 => .fixed32
    | .string | .bytes => .delimited
    | _ => .varint
  | .enum _ => .varint
  | .message _ => .delimited
  | .group _ => .groupStart

/-- The payload of an integer. -/
def intPayload (kind : FieldKind) (n : Int) : Bytes :=
  match kind with
  | .scalar .sint32 | .scalar .sint64 => varint (zigzag n)
  | .scalar .fixed32 | .scalar .sfixed32 => littleEndian 4 (wrapped 32 n)
  | .scalar .fixed64 | .scalar .sfixed64 => littleEndian 8 (wrapped 64 n)
  | _ => varint (wrapped 64 n)

/-- The payload of a scalar in a field of some kind. -/
def scalarPayload (kind : FieldKind) : Scalar → Bytes
  | .bool b => varint (if b then 1 else 0)
  | .int n => intPayload kind n
  | .text s => delimited (Utf8.encodeString s)
  | .bytes bs => delimited bs
  | .single bits => littleEndian 4 bits
  | .double bits => littleEndian 8 bits

/-- The scalar that an unset field of some kind has; that of an enum is its first value. -/
def defaultScalar (pool : Pool) : FieldKind → Scalar
  | .scalar k =>
    match k with
    | .double => .double 0
    | .float => .single 0
    | .bool => .bool false
    | .string => .text ""
    | .bytes => .bytes []
    | _ => .int 0
  | .enum t => .int (((pool.enum? t).bind fun e => e.values.head?.map (·.2)).getD 0)
  | _ => .int 0

/-- The value that an unset field of some kind has. -/
def defaultValue (pool : Pool) (kind : FieldKind) : Value :=
  match kind with
  | .message _ | .group _ => .message []
  | kind => .scalar (defaultScalar pool kind)

/-! ## Messages -/

/-- The type of the messages in a field. -/
def subType (pool : Pool) (kind : FieldKind) : MessageType :=
  (kind.messageType?.bind pool.message?).getD default

/-- A field number with a payload; a group ends with a tag of its own. -/
def framed (number : Int) (kind : FieldKind) (payload : Bytes) : Bytes :=
  match kind with
  | .group _ => tag number .groupStart ++ payload ++ tag number .groupEnd
  | .message _ => tag number .delimited ++ delimited payload
  | kind => tag number (wireType kind) ++ payload

mutual

/-- The payload of a value in a field of some kind, without the length of a message. -/
def payload (pool : Pool) (kind : FieldKind) : Value → Bytes
  | .scalar s => scalarPayload kind s
  | .message fields => fieldsBytes pool (subType pool kind) fields

/-- The payloads of several values. -/
def payloads (pool : Pool) (kind : FieldKind) : List Value → List Bytes
  | [] => []
  | v :: rest => payload pool kind v :: payloads pool kind rest

/-- The payloads of the pairs of a map, each a message of key and value. -/
def pairPayloads (pool : Pool) (key value : FieldKind) : List (Scalar × Value) → List Bytes
  | [] => []
  | (k, v) :: rest =>
    (framed 1 key (scalarPayload key k) ++ framed 2 value (payload pool value v)) ::
      pairPayloads pool key value rest

/-- The bytes of a set field. -/
def slotBytes (pool : Pool) (f : Field) : Slot → Bytes
  | .one v => framed f.number f.kind (payload pool f.kind v)
  | .many vs =>
    let ps := payloads pool f.kind vs
    let numeric := match wireType f.kind with
      | .delimited | .groupStart => false
      | _ => true
    if f.packed && numeric then tag f.number .delimited ++ delimited ps.flatten
    else ps.flatMap (framed f.number f.kind)
  | .map pairs =>
    let entry := subType pool f.kind
    let kindOf := fun name => ((entry.field? name).map (·.kind)).getD default
    (pairPayloads pool (kindOf "key") (kindOf "value") pairs).flatMap fun p =>
      tag f.number .delimited ++ delimited p

/-- The bytes of the set fields of a message of type `type`. -/
def fieldsBytes (pool : Pool) (type : MessageType) : List (Int × Slot) → Bytes
  | [] => []
  | (number, slot) :: rest =>
    (match pool.numbered? type number with
      | some f => slotBytes pool f slot
      | none => []) ++ fieldsBytes pool type rest

end

end ProtoCheck.Message
