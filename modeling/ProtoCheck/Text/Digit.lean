/-!
# Decimal digits

* `zeros` : the zero of each run of ten decimal digits (general category Nd, Unicode 14);
* `decimal?` : the value of a decimal digit of any script;
* `number?` : the value of a non-empty text of decimal digits;
* `hex?`, `hexNumber?` : the same for ASCII hexadecimal digits.
-/

namespace ProtoCheck.Text

/-- The code point of the zero of each run of decimal digits. -/
def zeros : List Nat := [
  0x30, 0x660, 0x6f0, 0x7c0, 0x966, 0x9e6, 0xa66, 0xae6, 0xb66, 0xbe6, 0xc66, 0xce6, 0xd66, 0xde6,
  0xe50, 0xed0, 0xf20, 0x1040, 0x1090, 0x17e0, 0x1810, 0x1946, 0x19d0, 0x1a80, 0x1a90, 0x1b50,
  0x1bb0, 0x1c40, 0x1c50, 0xa620, 0xa8d0, 0xa900, 0xa9d0, 0xa9f0, 0xaa50, 0xabf0, 0xff10, 0x104a0,
  0x10d30, 0x11066, 0x110f0, 0x11136, 0x111d0, 0x112f0, 0x11450, 0x114d0, 0x11650, 0x116c0,
  0x11730, 0x118e0, 0x11950, 0x11c50, 0x11d50, 0x11da0, 0x16a60, 0x16ac0, 0x16b50, 0x1d7ce,
  0x1d7d8, 0x1d7e2, 0x1d7ec, 0x1d7f6, 0x1e140, 0x1e2f0, 0x1e950, 0x1fbf0
]

/-- The value of a decimal digit of any script. -/
def decimal? (c : Char) : Option Nat :=
  (zeros.find? fun z => z ≤ c.toNat && c.toNat < z + 10).map (c.toNat - ·)

/-- Whether the character is a decimal digit of any script. -/
def isDecimal (c : Char) : Bool := (decimal? c).isSome

/-- Whether the character is one of the ten ASCII digits. -/
def isAsciiDigit (c : Char) : Bool := '0'.toNat ≤ c.toNat && c.toNat ≤ '9'.toNat

/-- The number that digit values, most significant first, stand for in a base. -/
def ofDigits (base : Nat) (digits : List Nat) : Nat :=
  digits.foldl (fun n d => n * base + d) 0

/-- The number that a non-empty text of decimal digits stands for. -/
def number? (s : List Char) : Option Nat :=
  if s.isEmpty then none else (s.mapM decimal?).map (ofDigits 10)

/-- The value of an ASCII digit or letter: ten and up for the letters of either case. -/
def digit36? (c : Char) : Option Nat :=
  let n := c.toNat
  if '0'.toNat ≤ n && n ≤ '9'.toNat then some (n - '0'.toNat)
  else if 'a'.toNat ≤ n && n ≤ 'z'.toNat then some (n - 'a'.toNat + 10)
  else if 'A'.toNat ≤ n && n ≤ 'Z'.toNat then some (n - 'A'.toNat + 10)
  else none

/-- The value of an ASCII hexadecimal digit. -/
def hex? (c : Char) : Option Nat := (digit36? c).filter (· < 16)

/-- Whether the character is an ASCII hexadecimal digit. -/
def isHex (c : Char) : Bool := (hex? c).isSome

/-- The number that hexadecimal digits stand for; a character of another kind counts as zero. -/
def hexNumber (s : List Char) : Nat := ofDigits 16 (s.map fun c => (hex? c).getD 0)

/-- The lower-case digit for a value below sixteen. -/
def hexDigit (n : Nat) : Char := Nat.digitChar n

/-- The `width` lowest hexadecimal digits of a number. -/
def hexText (width n : Nat) : String :=
  String.ofList ((List.range width).reverse.map fun i => hexDigit (n / Nat.pow 16 i % 16))

end ProtoCheck.Text
