import ProtoCheck.Text.Digit
import ProtoCheck.Text.Printable

/-!
# Values in quotes

How a text or a byte string is shown inside a message.

* `quoteFor` : the quote, single unless the text holds single quotes and no double ones;
* `shownChar` : a character inside the quotes;
* `quoted` : a text in its quotes, `quotedBytes` : bytes, behind a `b`.
-/

namespace ProtoCheck.Text

/-- The quote around a text: the single one, unless only the double one does not occur in it. -/
def quoteFor (s : List Char) : Char :=
  if s.contains '\'' && !s.contains '"' then '"' else '\''

/-- A character as it stands between quotes: the quote and the backslash behind a backslash, tab
and line ends by letter, what is not printable by its code. -/
def shownChar (quote c : Char) : List Char :=
  if c == quote || c == '\\' then ['\\', c]
  else if c == '\t' then ['\\', 't']
  else if c == '\n' then ['\\', 'n']
  else if c == '\r' then ['\\', 'r']
  else if isPrintable c then [c]
  else if c.toNat < 0x100 then ("\\x" ++ hexText 2 c.toNat).toList
  else if c.toNat < 0x10000 then ("\\u" ++ hexText 4 c.toNat).toList
  else ("\\U" ++ hexText 8 c.toNat).toList

/-- A text between its quotes. -/
def quotedChars (s : List Char) : List Char :=
  let quote := quoteFor s
  quote :: (s.flatMap (shownChar quote) ++ [quote])

/-- A text between its quotes. -/
def quoted (s : String) : String := String.ofList (quotedChars s.toList)

/-- A byte as it stands between quotes; bytes above ASCII are shown by their code. -/
def shownByte (quote : Char) (b : UInt8) : List Char :=
  if b.toNat < 0x7F then shownChar quote (Char.ofNat b.toNat)
  else ("\\x" ++ hexText 2 b.toNat).toList

/-- Bytes between their quotes, behind a `b`. -/
def quotedBytes (bytes : List UInt8) : String :=
  let quote := quoteFor (bytes.map fun b => Char.ofNat b.toNat)
  String.ofList ('b' :: quote :: (bytes.flatMap (shownByte quote) ++ [quote]))

/-- Items in square brackets, a comma and a space between neighbours. -/
def bracketed (items : List String) : String := "[" ++ ", ".intercalate items ++ "]"

/-- A list of texts, each in its quotes, in square brackets. -/
def quotedList (items : List String) : String := bracketed (items.map quoted)

end ProtoCheck.Text
