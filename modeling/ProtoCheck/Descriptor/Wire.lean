import ProtoCheck.Descriptor
import ProtoCheck.Text.Utf8

/-!
# The wire form of descriptors

A descriptor set is a message in wire form: numbered entries, each a number or a run of bytes.

* `WireEntry`, `entries?` : the entries of a message, whatever it means;
* `filesOfBytes?` : the files of a descriptor set.
-/

namespace ProtoCheck.Descriptor

/-! ## Entries -/

/-- The payload of an entry. -/
inductive WireValue where
  | number (n : Nat)
  | bytes (bs : Bytes)
  deriving Repr

/-- The fields of a message by number. -/
abbrev WireEntries := List (Nat × WireValue)

/-- A number in groups of seven bits, at most `fuel` of them, and what follows. -/
def varint? : (fuel : Nat) → Bytes → Option (Nat × Bytes)
  | 0, _ => none
  | _ + 1, [] => none
  | fuel + 1, b :: rest =>
    if b.toNat < 128 then some (b.toNat, rest)
    else (varint? fuel rest).map fun r => (b.toNat - 128 + 128 * r.1, r.2)

/-- The most bytes of a number. -/
def varintSize : Nat := 10

/-- Takes exactly `n` bytes. -/
def takeBytes? (n : Nat) (bs : Bytes) : Option (Bytes × Bytes) :=
  if n ≤ bs.length then some (bs.take n, bs.drop n) else none

/-- The entries of a message, up to the end of the group `group` where one is open, and what
follows; `fuel` bounds the number of entries. -/
def entriesUpTo? : (fuel : Nat) → (group : Option Nat) → Bytes → Option (WireEntries × Bytes)
  | 0, _, _ => none
  | _ + 1, none, [] => some ([], [])
  | fuel + 1, group, bs => do
    let (tag, rest) ← varint? varintSize bs
    let number := tag / 8
    if number = 0 ∨ 0x100000000 ≤ tag then none
    else
      match tag % 8 with
      | 0 => do
        let (n, rest) ← varint? varintSize rest
        let (more, rest) ← entriesUpTo? fuel group rest
        return ((number, .number (n % 0x10000000000000000)) :: more, rest)
      | 1 => do
        let (bs, rest) ← takeBytes? 8 rest
        let (more, rest) ← entriesUpTo? fuel group rest
        return ((number, .bytes bs) :: more, rest)
      | 2 => do
        let (n, rest) ← varint? varintSize rest
        let (bs, rest) ← takeBytes? n rest
        let (more, rest) ← entriesUpTo? fuel group rest
        return ((number, .bytes bs) :: more, rest)
      | 3 => do
        let (_, rest) ← entriesUpTo? fuel (some number) rest
        entriesUpTo? fuel group rest
      | 4 => if group = some number then some ([], rest) else none
      | 5 => do
        let (bs, rest) ← takeBytes? 4 rest
        let (more, rest) ← entriesUpTo? fuel group rest
        return ((number, .bytes bs) :: more, rest)
      | _ => none

/-- The entries of a message. -/
def entries? (bs : Bytes) : Option WireEntries :=
  (entriesUpTo? (bs.length + 1) none bs).map (·.1)

/-! ## Looking entries up -/

/-- The byte runs of a number, in order. -/
def WireEntries.all (es : WireEntries) (number : Nat) : List Bytes :=
  es.filterMap fun e => match e with
    | (n, .bytes bs) => if n = number then some bs else none
    | _ => none

/-- The last text of a number. -/
def WireEntries.text? (es : WireEntries) (number : Nat) : Option String :=
  (es.all number).getLast?.map fun bs => String.ofList (Utf8.decodeLossy bs)

def WireEntries.text (es : WireEntries) (number : Nat) : String := (es.text? number).getD ""

/-- The last number of a number. -/
def WireEntries.nat? (es : WireEntries) (number : Nat) : Option Nat :=
  (es.filterMap fun e => match e with
    | (n, .number v) => if n = number then some v else none
    | _ => none).getLast?

/-- The last number of a number, as a signed one of 32 bits. -/
def WireEntries.int (es : WireEntries) (number : Nat) : Int :=
  let n : Nat := (es.nat? number).getD 0 % 0x100000000
  if n < 0x80000000 then (n : Int) else (n : Int) - 0x100000000

/-- The messages of a number. -/
def WireEntries.messages? (es : WireEntries) (number : Nat) : Option (List WireEntries) :=
  (es.all number).mapM entries?

/-! ## Declarations -/

/-- A type name without the dot in front. -/
def typeName (s : String) : String := String.ofList (s.toList.dropWhile (· == '.'))

def labelOf (n : Nat) : Label :=
  match n with
  | 2 => .required
  | 3 => .repeated
  | _ => .optional

def kindOf (n : Nat) (type : String) : FieldKind :=
  match n with
  | 1 => .scalar .double
  | 2 => .scalar .float
  | 3 => .scalar .int64
  | 4 => .scalar .uint64
  | 5 => .scalar .int32
  | 6 => .scalar .fixed64
  | 7 => .scalar .fixed32
  | 8 => .scalar .bool
  | 9 => .scalar .string
  | 10 => .group type
  | 11 => .message type
  | 12 => .scalar .bytes
  | 13 => .scalar .uint32
  | 14 => .enum type
  | 15 => .scalar .sfixed32
  | 16 => .scalar .sfixed64
  | 17 => .scalar .sint32
  | _ => .scalar .sint64

def fieldOf? (es : WireEntries) : Option FieldDecl := do
  let options ← es.messages? 8
  let features ← (options.flatMap fun o => o.all 21).mapM entries?
  let presence := (features.filterMap fun f => f.nat? 1).getLast?
  return {
    name := es.text 1
    number := es.int 3
    label := if presence = some 3 then .required else labelOf ((es.nat? 4).getD 1)
    kind := kindOf ((es.nat? 5).getD 1) (typeName (es.text 6))
    extendee := (es.text? 2).map typeName
    oneof := es.nat? 9
    implicit := presence = some 2
    packed := (options.filterMap fun o => o.nat? 2).getLast?.map (· != 0) }

def enumOf? (es : WireEntries) : Option EnumDecl := do
  let values ← es.messages? 2
  return ⟨es.text 1, values.map fun v => (v.text 1, v.int 2), none⟩

/-- The message of entries; `fuel` bounds how deep messages are declared in each other. -/
def messageOf? : (fuel : Nat) → WireEntries → Option MessageDecl
  | 0, _ => none
  | fuel + 1, es => do
    let options ← es.messages? 7
    return {
      name := es.text 1
      fields := ← (← es.messages? 2).mapM fieldOf?
      messages := ← (← es.messages? 3).mapM (messageOf? fuel)
      enums := ← (← es.messages? 4).mapM enumOf?
      extensions := ← (← es.messages? 6).mapM fieldOf?
      extendable := !(es.all 5).isEmpty
      oneofs := (← es.messages? 8).map fun o => o.text 1
      mapEntry := (options.filterMap fun o => o.nat? 7).getLast?.getD 0 != 0 }

def dialectOf (word : String) : Dialect :=
  if word == "proto3" then .proto3 else if word == "editions" then .edition2023 else .proto2

def fileOf? (bs : Bytes) : Option FileDecl := do
  let es ← entries? bs
  let fuel := bs.length + 1
  return {
    name := es.text 1
    package := es.text 2
    dependencies := (es.all 3).map fun d => String.ofList (Utf8.decodeLossy d)
    dialect := dialectOf (es.text 12)
    messages := ← (← es.messages? 4).mapM (messageOf? fuel)
    enums := ← (← es.messages? 5).mapM enumOf?
    extensions := ← (← es.messages? 7).mapM fieldOf? }

/-- The files of a descriptor set in wire form. -/
def filesOfBytes? (bs : Bytes) : Option (List FileDecl) := do
  let es ← entries? bs
  (es.all 1).mapM fileOf?

end ProtoCheck.Descriptor
