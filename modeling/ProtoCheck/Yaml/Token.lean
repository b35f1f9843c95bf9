import ProtoCheck.Yaml.Source

/-!
# Tokens of YAML

* `TokenKind`, `Token` : tokens with their places, `TokenKind.word` : as messages name them.
-/

namespace ProtoCheck.Yaml

/-- The value of a directive. -/
inductive DirectiveValue where
  | version (major minor : Nat)
  | tag (handle start : String)
  /-- A directive of another name, which means nothing. -/
  | other
  deriving DecidableEq, Repr

inductive TokenKind where
  | streamEnd
  | directive (v : DirectiveValue)
  | documentStart
  | documentEnd
  | blockSequenceStart
  | blockMappingStart
  | blockEnd
  | flowSequenceStart
  | flowSequenceEnd
  | flowMappingStart
  | flowMappingEnd
  | key
  | value
  | blockEntry
  | flowEntry
  | alias (name : String)
  | anchor (name : String)
  /-- A tag; a missing handle says that it is written in full. -/
  | tag (handle : Option String) (suffix : String)
  /-- A scalar; a plain one stands without quotes and is no block. -/
  | scalar (text : String) (plain : Bool)
  deriving DecidableEq, Repr

/-- A token as messages name it. -/
def TokenKind.word : TokenKind → String
  | .streamEnd => "<stream end>"
  | .directive _ => "<directive>"
  | .documentStart => "<document start>"
  | .documentEnd => "<document end>"
  | .blockSequenceStart => "<block sequence start>"
  | .blockMappingStart => "<block mapping start>"
  | .blockEnd => "<block end>"
  | .flowSequenceStart => "["
  | .flowSequenceEnd => "]"
  | .flowMappingStart => "\x7b"
  | .flowMappingEnd => "\x7d"
  | .key => "?"
  | .value => ":"
  | .blockEntry => "-"
  | .flowEntry => ","
  | .alias _ => "<alias>"
  | .anchor _ => "<anchor>"
  | .tag _ _ => "<tag>"
  | .scalar _ _ => "<scalar>"

/-- A token from one place to another. -/
structure Token where
  kind : TokenKind
  start : Mark
  stop : Mark
  deriving DecidableEq, Repr

end ProtoCheck.Yaml
