import ProtoCheck.Number.Integer
import ProtoCheck.Text.Utf8
import ProtoCheck.Yaml.Scalar
import ProtoCheck.Yaml.Token

/-!
# Names, tags and directives of YAML

* `anchorName` : the name of an anchor or an alias;
* `tagHandle`, `tagUri`, `scanTag` : tags;
* `scanDirective` : directives.
-/

namespace ProtoCheck.Yaml

open Text

/-- A character of a name: a letter or digit of ASCII, a hyphen, an underscore. -/
def isNameChar (c : Char) : Bool := c.isAlphanum || c == '-' || c == '_'

/-- A character of a tag. -/
def isUriChar (c : Char) : Bool :=
  c.isAlphanum || "-;/?:@&=+$,_.!~*'()[]%".toList.contains c

def ofChars (s : List Char) : String := String.ofList s

/-! ## Anchors -/

/-- The name behind the mark of an anchor or an alias, which `what` is. -/
def anchorName (what : String) (c : Cursor) : Scan (String × Cursor) :=
  let start := c.mark
  let refuse := fun c : Cursor => scanError ("while scanning an " ++ what) start
    ("expected alphabetic or numeric character, but found " ++ shown c.peek) c
  let (name, c) := c.next.splitWhile isNameChar
  if name.isEmpty then refuse c
  else if isWideGap c.peek || "?:,]\x7d%@\x60".toList.contains c.peek then .ok (ofChars name, c)
  else refuse c

/-! ## Tags -/

/-- A handle: an exclamation mark, alone or with a name and a second one behind it. -/
def tagHandle (what : String) (start : Mark) (c : Cursor) : Scan (String × Cursor) :=
  let refuse := fun (found : Char) (c : Cursor) => scanError ("while scanning a " ++ what) start
    ("expected '!', but found " ++ shown found) c
  if c.peek != '!' then refuse c.peek c
  else
    let name := c.next.rest.takeWhile isNameChar
    let n := name.length + 1
    let a := c.peekAt n
    if c.peekAt 1 == ' ' then .ok ("!", c.next)
    else if a != '!' then refuse a (c.forward n)
    else .ok (ofChars ('!' :: name ++ ['!']), c.forward (n + 1))

/-- The bytes of escapes that follow each other. -/
def uriBytes (what : String) (start : Mark) : Nat → Cursor → Scan (Bytes × Cursor)
  | 0, c => .ok ([], c)
  | fuel + 1, c =>
    if c.peek != '%' then .ok ([], c)
    else
      let c := c.next
      let ds := (c.rest.take 2).takeWhile isHex
      if ds.length < 2 then
        scanError ("while scanning a " ++ what) start
          ("expected URI escape sequence of 2 hexadecimal numbers, but found " ++
            shown (c.peekAt ds.length)) c
      else do
        let (more, c) ← uriBytes what start fuel (c.forward 2)
        return (UInt8.ofNat (hexNumber ds) :: more, c)

/-- The parts of a tag. -/
def uriParts (what : String) (start : Mark) : Nat → Cursor → Scan (List Char × Cursor)
  | 0, c => .ok ([], c)
  | fuel + 1, c => do
    let (run, c) := c.splitWhile fun a => isUriChar a && a != '%'
    if c.peek != '%' then return (run, c)
    else
      let mark := c.mark
      let (bytes, c) ← uriBytes what start fuel c
      match Utf8.decode? bytes with
      | .error e =>
        .error (.error
          ⟨.scanner, some ("while scanning a " ++ what), some start, e.message, some mark⟩)
      | .ok text =>
        let (more, c) ← uriParts what start fuel c
        return (run ++ text ++ more, c)

/-- The text of a tag behind its handle, or of a handle's replacement. -/
def tagUri (what : String) (start : Mark) (c : Cursor) : Scan (String × Cursor) :=
  if !isUriChar c.peek then
    scanError ("while parsing a " ++ what) start ("expected URI, but found " ++ shown c.peek) c
  else (uriParts what start (c.rest.length + 1) c).map fun r => (ofChars r.1, r.2)

/-- A tag. -/
def scanTag (c : Cursor) : Scan (TokenKind × Cursor) := do
  let start := c.mark
  let a := c.peekAt 1
  let (kind, c) ←
    if a == '<' then do
      let (suffix, c) ← tagUri "tag" start (c.forward 2)
      if c.peek == '>' then pure (TokenKind.tag none suffix, c.next)
      else
        scanError "while parsing a tag" start ("expected '>', but found " ++ shown c.peek) c
    else if isWideGap a then pure (TokenKind.tag none "!", c.next)
    else if (c.next.rest.takeWhile (!isGap ·)).contains '!' then do
      let (handle, c) ← tagHandle "tag" start c
      let (suffix, c) ← tagUri "tag" start c
      pure (TokenKind.tag (some handle) suffix, c)
    else do
      let (suffix, c) ← tagUri "tag" start c.next
      pure (TokenKind.tag (some "!") suffix, c)
  if isGap c.peek then return (kind, c)
  else scanError "while scanning a tag" start ("expected ' ', but found " ++ shown c.peek) c

/-! ## Directives -/

def directiveContext : String := "while scanning a directive"

/-- A number in a version, of as many digits as are read at most. -/
def versionNumber (start : Mark) (c : Cursor) : Scan (Nat × Cursor) :=
  let (ds, rest) := c.splitWhile isAsciiDigit
  match number? ds with
  | some n => if ds.length ≤ Number.maxDigits then .ok (n, rest) else breakdown .yamlValue
  | none => scanError directiveContext start ("expected a digit, but found " ++ shown c.peek) c

/-- The version that a directive gives. -/
def versionValue (start : Mark) (c : Cursor) : Scan (DirectiveValue × Cursor) := do
  let (major, c) ← versionNumber start c.skipBlanks
  if c.peek != '.' then
    scanError directiveContext start ("expected a digit or '.', but found " ++ shown c.peek) c
  else
    let (minor, c) ← versionNumber start c.next
    if isGap c.peek then return (.version major minor, c)
    else
      scanError directiveContext start ("expected a digit or ' ', but found " ++ shown c.peek) c

/-- The handle and its replacement that a directive gives. -/
def tagValue (start : Mark) (c : Cursor) : Scan (DirectiveValue × Cursor) := do
  let blank : Cursor → Scan (DirectiveValue × Cursor) := fun c =>
    scanError directiveContext start ("expected ' ', but found " ++ shown c.peek) c
  let (handle, c) ← tagHandle "directive" start c.skipBlanks
  if c.peek != ' ' then blank c
  else
    let (replacement, c) ← tagUri "directive" start c.skipBlanks
    if isGap c.peek then return (.tag handle replacement, c) else blank c

/-- A directive, with the end of what it says. -/
def scanDirective (c : Cursor) : Scan (DirectiveValue × Mark × Cursor) := do
  let start := c.mark
  let refuse : Cursor → Scan (DirectiveValue × Mark × Cursor) := fun c =>
    scanError directiveContext start
      ("expected alphabetic or numeric character, but found " ++ shown c.peek) c
  let (name, c) := c.next.splitWhile isNameChar
  if name.isEmpty || !isGap c.peek then refuse c
  else
    let name := ofChars name
    let (v, c) ←
      if name == "YAML" then versionValue start c
      else if name == "TAG" then tagValue start c
      else pure (DirectiveValue.other, c)
    let stop := c.mark
    let c := if v == .other then c.skipLine else c
    return (v, stop, ← ignoredLine directiveContext start c)

end ProtoCheck.Yaml
