/-!
# Binary floating point formats

A format has `precision` significant bits and the least exponent `least`; a finite value is
`m * 2 ^ e` with `m < 2 ^ precision` and `least ≤ e`. Values are handled as their bit patterns
without sign, which are ordered as the values are.

* `Format`, `Format.single`, `Format.double`;
* `Format.ofRatio` : the pattern nearest to a quotient, a tie going to the even one;
* `Format.parts` : the `m` and `e` of a finite pattern;
* `Double` : a signed pattern of the double format, with its sum and product by integers;
* `Double.toSingle` : the nearest single pattern.
-/

namespace ProtoCheck.Number

/-- A binary format: the significant bits, the exponent of the least positive value as a power of
two below one, and the width of the exponent field. -/
structure Format where
  precision : Nat
  least : Nat
  exponentBits : Nat

namespace Format

/-- 32 bits: 24 significant ones, least positive value `2 ^ -149`. -/
def single : Format := ⟨24, 149, 8⟩

/-- 64 bits: 53 significant ones, least positive value `2 ^ -1074`. -/
def double : Format := ⟨53, 1074, 11⟩

/-- The pattern of infinity. -/
def infinity (f : Format) : Nat := (Nat.pow 2 f.exponentBits - 1) * Nat.pow 2 (f.precision - 1)

/-- The sign bit. -/
def signBit (f : Format) : Nat := Nat.pow 2 (f.exponentBits + f.precision - 1)

/-- The quotient `num / den` rounded to the nearest natural number, a tie to the even one. -/
def roundDiv (num den : Nat) : Nat :=
  let q := num / den
  let r := num % den
  if den < 2 * r || (2 * r == den && q % 2 == 1) then q + 1 else q

/-- The largest power of two, as an exponent, that is at most `num / den`, for positive `num` and
`den`. -/
def floorLog (num den : Nat) : Int :=
  let k : Int := (Nat.log2 num : Int) - (Nat.log2 den : Int)
  let fits := if 0 ≤ k then den * Nat.pow 2 k.toNat ≤ num else den ≤ num * Nat.pow 2 (-k).toNat
  if fits then k else k - 1

/-- The pattern of the value nearest to `num / den`, a tie going to the even pattern; infinity from
half a unit above the greatest finite value upward. -/
def ofRatio (f : Format) (num den : Nat) : Nat :=
  if num == 0 || den == 0 then 0
  else
    let e := max (floorLog num den - (f.precision : Int) + 1) (-(f.least : Int))
    let m :=
      if 0 ≤ e then roundDiv num (den * Nat.pow 2 e.toNat)
      else roundDiv (num * Nat.pow 2 (-e).toNat) den
    min f.infinity ((e + (f.least : Int)).toNat * Nat.pow 2 (f.precision - 1) + m)

/-- The significand and the exponent of a finite pattern. -/
def parts (f : Format) (bits : Nat) : Nat × Int :=
  let unit := Nat.pow 2 (f.precision - 1)
  if bits < unit then (bits, -(f.least : Int))
  else (unit + bits % unit, ((bits / unit : Nat) : Int) - 1 - (f.least : Int))

/-- The value of a finite pattern as a quotient. -/
def ratio (f : Format) (bits : Nat) : Nat × Nat :=
  let (m, e) := f.parts bits
  if 0 ≤ e then (m * Nat.pow 2 e.toNat, 1) else (m, Nat.pow 2 (-e).toNat)

end Format

/-- A value of the double format: a sign and a pattern without sign, which is above that of
infinity for a value that is no number. -/
structure Double where
  negative : Bool
  bits : Nat
  deriving DecidableEq, Repr

namespace Double

def infinity (negative : Bool) : Double := ⟨negative, Format.double.infinity⟩

/-- The value that is no number. -/
def undefined : Double := ⟨false, Format.double.infinity + Nat.pow 2 51⟩

def isUndefined (x : Double) : Bool := Format.double.infinity < x.bits

def isInfinite (x : Double) : Bool := x.bits == Format.double.infinity

def isZero (x : Double) : Bool := x.bits == 0

def neg (x : Double) : Double := { x with negative := !x.negative }

/-- The value nearest to `± num / den`. -/
def ofRatio (negative : Bool) (num den : Nat) : Double := ⟨negative, Format.double.ofRatio num den⟩

/-- The value nearest to a natural number. -/
def ofNat (n : Nat) : Double := ofRatio false n 1

/-- The pattern with its sign. -/
def toBits (x : Double) : Nat := if x.negative then Format.double.signBit + x.bits else x.bits

/-- The nearest value of the single format, as a pattern with its sign. -/
def toSingle (x : Double) : Nat :=
  let sign := if x.negative then Format.single.signBit else 0
  if x.isUndefined then sign + Format.single.infinity + Nat.pow 2 22
  else if x.isInfinite then sign + Format.single.infinity
  else
    let (num, den) := Format.double.ratio x.bits
    sign + Format.single.ofRatio num den

/-- The value of a finite real as a quotient. -/
def toRatio (x : Double) : Int × Nat :=
  let (num, den) := Format.double.ratio x.bits
  (if x.negative then -(num : Int) else (num : Int), den)

/-- The rounded product of two reals. -/
def mul (x y : Double) : Double :=
  let sign := x.negative != y.negative
  if x.isUndefined || y.isUndefined then undefined
  else if x.isInfinite || y.isInfinite then
    if x.isZero || y.isZero then undefined else infinity sign
  else
    let (a, b) := Format.double.ratio x.bits
    let (c, d) := Format.double.ratio y.bits
    ofRatio sign (a * c) (b * d)

/-- The rounded sum of two reals; a sum of zero is positive unless both terms are negative. -/
def add (x y : Double) : Double :=
  if x.isUndefined || y.isUndefined then undefined
  else if x.isInfinite && y.isInfinite && x.negative != y.negative then undefined
  else if x.isInfinite then x
  else if y.isInfinite then y
  else
    let (a, b) := x.toRatio
    let (c, d) := y.toRatio
    let num := a * d + c * b
    if num == 0 then ⟨x.negative && y.negative, 0⟩
    else ofRatio (num < 0) num.natAbs (b * d)

end Double

end ProtoCheck.Number
