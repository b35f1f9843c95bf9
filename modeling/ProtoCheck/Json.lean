import ProtoCheck.Text.Digit

/-!
# JSON documents

* `Json` : a document, the fields of an object in the order they are written;
* `Json.compact` : on one line without blanks;
* `Json.pretty` : a field and an item to a line, two blanks deeper for each level.

Both write ASCII only: other characters are escaped by their UTF-16 units.
-/

namespace ProtoCheck

/-- A JSON document. -/
inductive Json where
  | null
  | bool (b : Bool)
  | int (n : Int)
  | string (s : String)
  | array (items : List Json)
  | object (fields : List (String × Json))
  deriving Inhabited

namespace Json

open Text

/-! ## Texts -/

/-- The escape of a UTF-16 unit. -/
def unit (n : Nat) : String := "\\u" ++ hexText 4 n

/-- A character inside a JSON text. -/
def charText (c : Char) : String :=
  let n := c.toNat
  if c == '"' then "\\\""
  else if c == '\\' then "\\\\"
  else if c == '\n' then "\\n"
  else if c == '\r' then "\\r"
  else if c == '\t' then "\\t"
  else if n == 8 then "\\b"
  else if n == 12 then "\\f"
  else if 32 ≤ n && n < 127 then c.toString
  else if n < 0x10000 then unit n
  else unit (0xD800 + (n - 0x10000) / 1024) ++ unit (0xDC00 + (n - 0x10000) % 1024)

/-- A text between its quotes. -/
def stringText (s : String) : String :=
  s.foldl (fun out c => out ++ charText c) "\"" ++ "\""

/-! ## Documents -/

mutual

/-- A document on one line without blanks. -/
def compact : Json → String
  | .null => "null"
  | .bool b => if b then "true" else "false"
  | .int n => toString n
  | .string s => stringText s
  | .array items => "[" ++ ",".intercalate (compactItems items) ++ "]"
  | .object fields => "\x7b" ++ ",".intercalate (compactFields fields) ++ "\x7d"

def compactItems : List Json → List String
  | [] => []
  | item :: rest => compact item :: compactItems rest

def compactFields : List (String × Json) → List String
  | [] => []
  | (key, value) :: rest => (stringText key ++ ":" ++ compact value) :: compactFields rest

end

/-- A line feed and the blanks of a depth. -/
def newLine (depth : Nat) : String := "\n" ++ String.ofList (List.replicate (2 * depth) ' ')

/-- Lines at a depth between two brackets, a comma at the end of all but the last. -/
def block (opening closing : String) (depth : Nat) (parts : List String) : String :=
  if parts.isEmpty then opening ++ closing
  else
    opening ++ newLine (depth + 1) ++ ("," ++ newLine (depth + 1)).intercalate parts ++
      newLine depth ++ closing

mutual

/-- A document over several lines, at a depth. -/
def prettyAt (depth : Nat) : Json → String
  | .array items => block "[" "]" depth (prettyItems (depth + 1) items)
  | .object fields => block "\x7b" "\x7d" depth (prettyFields (depth + 1) fields)
  | .null => "null"
  | .bool b => if b then "true" else "false"
  | .int n => toString n
  | .string s => stringText s

def prettyItems (depth : Nat) : List Json → List String
  | [] => []
  | item :: rest => prettyAt depth item :: prettyItems depth rest

def prettyFields (depth : Nat) : List (String × Json) → List String
  | [] => []
  | (key, value) :: rest =>
    (stringText key ++ ": " ++ prettyAt depth value) :: prettyFields depth rest

end

/-- A document over several lines. -/
def pretty (j : Json) : String := prettyAt 0 j

end Json

end ProtoCheck
