import ProtoCheck.Text.Blank
import ProtoCheck.Text.Digit

/-!
# Integer literals

A literal is an optional sign, an optional base mark (`0x`, `0o`, `0b` in either case) and digits,
with single underscores between them.

* `digits?` : the digits of a base, underscores taken out;
* `unsigned?` : a literal without its sign, in a given base or in the base its mark names;
* `integer?` : a whole literal, white space around it allowed.
-/

namespace ProtoCheck.Number

open Text

/-- The most decimal digits that are read or written. -/
def maxDigits : Nat := 4300

/-- Whether an integer has as many decimal digits at most as are written. -/
def isWritable (n : Int) : Bool := n.natAbs < Nat.pow 10 maxDigits

/-- The value of a digit: a decimal digit of any script, or an ASCII letter from ten upward. -/
def digitValue? (c : Char) : Option Nat := (decimal? c).orElse fun _ => digit36? c

/-- The values of the digits of `base`, a single underscore allowed before each of them but the
first. -/
def digits? (base : Nat) : List Char → Option (List Nat)
  | [] => some []
  | '_' :: c :: rest => do
    let d ← (digitValue? c).filter (· < base)
    return d :: (← digits? base rest)
  | c :: rest => do
    let d ← (digitValue? c).filter (· < base)
    return d :: (← digits? base rest)

/-- The number that digits of `base` stand for. There is at least one, no underscore stands first,
and in a base that is no power of two there are at most `maxDigits`. -/
def magnitude? (base : Nat) (s : List Char) : Option Nat := do
  if s.isEmpty || s.head? == some '_' then none
  let values ← digits? base s
  if (base == 2 || base == 8 || base == 16 || base == 32 || values.length ≤ maxDigits)
  then some (ofDigits base values) else none

/-- The base that a mark behind a zero names. -/
def baseMark? : Char → Option Nat
  | 'x' | 'X' => some 16
  | 'o' | 'O' => some 8
  | 'b' | 'B' => some 2
  | _ => none

/-- A literal without sign: with base zero its mark tells the base, and decimal digits that begin
with a zero are all zeros; with another base the mark of that base may be left out. One underscore
may follow a mark. -/
def unsigned? (base : Nat) (s : List Char) : Option Nat :=
  match s with
  | '0' :: mark :: rest =>
    match baseMark? mark with
    | some b =>
      if base == 0 || base == b then
        magnitude? b (if rest.head? == some '_' then rest.drop 1 else rest)
      else magnitude? base s
    | none => if base == 0 then (magnitude? 10 s).filter (· == 0) else magnitude? base s
  | _ => magnitude? (if base == 0 then 10 else base) s

/-- An integer literal with white space around it. -/
def integer? (base : Nat) (s : List Char) : Option Int :=
  match trim s with
  | '-' :: rest => (unsigned? base rest).map fun n => -(n : Int)
  | '+' :: rest => (unsigned? base rest).map Int.ofNat
  | rest => (unsigned? base rest).map Int.ofNat

/-- An integer literal whose base its mark tells, where two digits and more behind a zero are
octal, as in `017`. -/
def integerOrOctal? (s : List Char) : Option Int :=
  let octal := fun rest : List Char =>
    match rest with
    | '0' :: d :: more => if (d :: more).all isDecimal then unsigned? 8 (d :: more) else none
    | _ => none
  match s with
  | '-' :: '0' :: d :: more =>
    if (d :: more).all isDecimal then (octal ('0' :: d :: more)).map fun n => -(n : Int)
    else integer? 0 s
  | '0' :: d :: more =>
    if (d :: more).all isDecimal then (octal s).map Int.ofNat else integer? 0 s
  | _ => integer? 0 s

end ProtoCheck.Number
