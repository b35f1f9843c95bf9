import ProtoCheck.Number.Binary
import ProtoCheck.Text.Blank
import ProtoCheck.Text.Digit

/-!
# Real number literals and their shortest form

* `real?` : reads a literal: a decimal number with an optional point and exponent, single
  underscores between digits, or the name of an infinity or of the undefined value;
* `shortest` : the fewest digits that read back as a finite value, the nearest such to it;
* `Double.text` : the written form, positional for exponents from `-4` to `15`.
-/

namespace ProtoCheck.Number

open Text

/-! ## Reading -/

/-- Takes out the underscores that stand between two digits; fails at any other one. -/
def dropUnderscores (last : Option Char) : List Char → Option (List Char)
  | [] => if last == some '_' then none else some []
  | c :: rest =>
    if c == '_' then
      if (last.map isAsciiDigit).getD false then dropUnderscores (some c) rest else none
    else if last == some '_' && !isAsciiDigit c then none
    else (dropUnderscores (some c) rest).map (c :: ·)

/-- The value nearest to `digits * 10 ^ exponent`. Beyond every finite value, and below half of the
least one, the powers need not be formed. -/
def ofScientific (negative : Bool) (digits : Nat) (exponent : Int) : Double :=
  if digits == 0 then ⟨negative, 0⟩
  else
    let size : Int := (Nat.log2 digits : Int) * 30103 / 100000 + exponent
    if 400 < size then Double.infinity negative
    else if size < -400 then ⟨negative, 0⟩
    else if 0 ≤ exponent then Double.ofRatio negative (digits * Nat.pow 10 exponent.toNat) 1
    else Double.ofRatio negative digits (Nat.pow 10 (-exponent).toNat)

/-- The exponent part of a literal: nothing, or a mark, an optional sign and digits. -/
def exponent? : List Char → Option Int
  | [] => some 0
  | mark :: rest =>
    if mark == 'e' || mark == 'E' then
      match rest with
      | '-' :: ds => if ds.all isAsciiDigit then (number? ds).map fun n => -(n : Int) else none
      | '+' :: ds => if ds.all isAsciiDigit then (number? ds).map Int.ofNat else none
      | ds => if ds.all isAsciiDigit then (number? ds).map Int.ofNat else none
    else none

/-- A decimal number without sign and underscores. -/
def decimalReal? (negative : Bool) (s : List Char) : Option Double := do
  let whole := s.takeWhile isAsciiDigit
  let rest := s.dropWhile isAsciiDigit
  let (fraction, rest) :=
    match rest with
    | '.' :: more => (more.takeWhile isAsciiDigit, more.dropWhile isAsciiDigit)
    | _ => ([], rest)
  let n ← number? (whole ++ fraction)
  let e ← exponent? rest
  return ofScientific negative n (e - fraction.length)

/-- The reals that have names, in any case. -/
def namedReal? (negative : Bool) (s : List Char) : Option Double :=
  let name := String.ofList (lower s)
  if name == "inf" || name == "infinity" then some (Double.infinity negative)
  else if name == "nan" then some { Double.undefined with negative := negative }
  else none

/-- A literal without its sign. -/
def unsignedReal? (negative : Bool) (s : List Char) : Option Double :=
  (namedReal? negative s).orElse fun _ => decimalReal? negative s

/-- Decimal digits of every script as ASCII ones. -/
def asciiDigits (s : List Char) : List Char :=
  s.map fun c => ((decimal? c).map Nat.digitChar).getD c

/-- A real number literal, white space around it allowed. -/
def real? (s : List Char) : Option Double := do
  let s ← dropUnderscores none (asciiDigits (trim s))
  match s with
  | '-' :: rest => unsignedReal? true rest
  | '+' :: rest => unsignedReal? false rest
  | rest => unsignedReal? false rest

/-! ## The fewest digits that read back -/

/-- Digits and an exponent: the value `digits * 10 ^ exponent`. -/
structure Scientific where
  digits : Nat
  exponent : Int
  deriving DecidableEq, Repr

/-- The grid of spacing `10 ^ e` at the quotient `num / den`: its point below, and that point's
distance as a quotient of the same denominator. -/
def gridBelow (num den : Nat) (e : Int) : Nat × Nat × Nat :=
  let (n, d) :=
    if 0 ≤ e then (num, den * Nat.pow 10 e.toNat) else (num * Nat.pow 10 (-e).toNat, den)
  (n / d, n % d, d)

/-- The nearer of the two neighbours of a pattern's value on the grid of spacing `10 ^ e` that read
back as the pattern. -/
def gridPoint? (bits num den : Nat) (e : Int) : Option Nat :=
  let (q, r, d) := gridBelow num den e
  let back := fun n => (ofScientific false n e).bits == bits
  let candidates := if 2 * r ≤ d then [q, q + 1] else [q + 1, q]
  candidates.find? back

/-- The exponent of the first digit of `num / den`. -/
def decimalExponent (num den : Nat) : Int :=
  let guess : Int := (Format.floorLog num den) * 30103 / 100000
  let below := fun k : Int =>
    if 0 ≤ k then den * Nat.pow 10 k.toNat ≤ num else den ≤ num * Nat.pow 10 (-k).toNat
  if below (guess + 1) then guess + 1 else if below guess then guess else guess - 1

/-- The fewest digits that read back as the positive finite pattern `bits`, at most seventeen. -/
def shortest (bits : Nat) : Scientific :=
  let (num, den) := Format.double.ratio bits
  let top := decimalExponent num den
  let found := (List.range 17).findSome? fun (k : Nat) =>
    let e := top - (k : Int)
    (gridPoint? bits num den e).map fun n => (⟨n, e⟩ : Scientific)
  found.getD ⟨0, 0⟩

/-! ## Writing -/

/-- Least and greatest exponent of the first digit that are written without an exponent part. -/
def positional : Int × Int := (-4, 15)

/-- The written form of digits whose first one has exponent `e`. -/
def writeDigits (ds : List Char) (e : Int) : List Char :=
  if positional.1 ≤ e && e ≤ positional.2 then
    if e < 0 then '0' :: '.' :: (List.replicate (-e - 1).toNat '0' ++ ds)
    else
      let whole := e.toNat + 1
      let padded := ds ++ List.replicate (whole - ds.length) '0'
      let fraction := padded.drop whole
      padded.take whole ++ '.' :: (if fraction.isEmpty then ['0'] else fraction)
  else
    let mantissa := match ds with
      | [] => []
      | [d] => [d]
      | d :: more => d :: '.' :: more
    let size := (toString e.natAbs).toList
    mantissa ++ 'e' :: (if e < 0 then '-' else '+') ::
      (List.replicate (2 - size.length) '0' ++ size)

/-- The written form of a real: the shortest that reads back. -/
def Double.text (x : Double) : String :=
  if x.isUndefined then "nan"
  else
    let body :=
      if x.isInfinite then "inf".toList
      else if x.isZero then "0.0".toList
      else
        let s := shortest x.bits
        let ds := (toString s.digits).toList
        let kept := (ds.reverse.dropWhile (· == '0')).reverse
        writeDigits kept (s.exponent + ds.length - 1)
    String.ofList (if x.negative then '-' :: body else body)

end ProtoCheck.Number
