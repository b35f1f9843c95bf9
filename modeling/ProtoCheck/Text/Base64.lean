/-!
# Base 64

* `sextet?` : the six bits of a digit;
* `decode` : the bytes of a text of digits, characters of other kinds left aside.
-/

namespace ProtoCheck.Text.Base64

/-- The six bits that a digit stands for. -/
def sextet? (c : Char) : Option Nat :=
  if 'A' ≤ c && c ≤ 'Z' then some (c.toNat - 'A'.toNat)
  else if 'a' ≤ c && c ≤ 'z' then some (c.toNat - 'a'.toNat + 26)
  else if '0' ≤ c && c ≤ '9' then some (c.toNat - '0'.toNat + 52)
  else if c == '+' then some 62
  else if c == '/' then some 63
  else none

/-- The digits of a text up to the padding that ends it, and whether there is such padding. A mark
of padding counts from the third place of a group of four on; marks that do not fill the group are
left aside, and so are those that a digit follows. -/
def digits (place pads : Nat) : List Char → List Nat × Bool
  | [] => ([], false)
  | c :: rest =>
    if c == '=' then
      if place < 2 then digits place pads rest
      else if 4 ≤ place + pads + 1 then ([], true)
      else digits place (pads + 1) rest
    else
      match sextet? c with
      | none => digits place pads rest
      | some d =>
        let (ds, padded) := digits ((place + 1) % 4) 0 rest
        (d :: ds, padded)

/-- The whole bytes that digits hold. -/
def bytes : List Nat → List UInt8
  | a :: b :: rest =>
    UInt8.ofNat (a * 4 + b / 16) ::
      (match rest with
        | [] => []
        | c :: more => UInt8.ofNat (b % 16 * 16 + c / 4) ::
          (match more with
            | [] => []
            | d :: others => UInt8.ofNat (c % 4 * 64 + d) :: bytes others))
  | _ => []

/-- Why a text has no bytes. -/
inductive Fault where
  /-- One digit is left over behind groups of four. -/
  | looseDigit (count : Nat)
  /-- The last group is not filled. -/
  | padding
  deriving DecidableEq, Repr

def Fault.message : Fault → String
  | .looseDigit n =>
    "Invalid base64-encoded string: number of data characters (" ++ toString n ++
      ") cannot be 1 more than a multiple of 4"
  | .padding => "Incorrect padding"

/-- The bytes of a text. -/
def decode (s : List Char) : Except Fault (List UInt8) :=
  let (ds, padded) := digits 0 0 s
  if padded || ds.length % 4 == 0 then .ok (bytes ds)
  else if ds.length % 4 == 1 then .error (.looseDigit ds.length)
  else .error .padding

end ProtoCheck.Text.Base64
