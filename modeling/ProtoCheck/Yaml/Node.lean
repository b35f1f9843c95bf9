import ProtoCheck.Yaml.Scanner
import ProtoCheck.Yaml.Tag

/-!
# The nodes of a YAML document

* `Node` : scalars, sequences and mappings with their tags and places;
* `Node.ofText?` : the node of a text that holds one document at most;
* `Composer` : the tokens that are left, the anchors and the tag handles while nodes are read.

A node that an alias repeats is repeated in the tree; a node that holds itself has a `knot` where it
does. Each reading function hands on a smaller amount of fuel; three units for a token are enough.
-/

namespace ProtoCheck.Yaml

/-- A node. -/
inductive Node where
  | scalar (tag : String) (text : String) (start : Mark)
  | sequence (tag : String) (items : List Node) (start : Mark)
  | mapping (tag : String) (pairs : List (Node × Node)) (start : Mark)
  /-- The node that begins at a place and holds this one. -/
  | knot (isMapping : Bool) (start : Mark)
  deriving Inhabited

namespace Node

def start : Node → Mark
  | .scalar _ _ m | .sequence _ _ m | .mapping _ _ m | .knot _ m => m

/-- The tag of a node; a knot repeats a collection, which may have any. -/
def tag : Node → String
  | .scalar t _ _ | .sequence t _ _ | .mapping t _ _ => t
  | .knot isMapping _ => if isMapping then Tag.map else Tag.seq

/-- The kind of a node as messages name it. -/
def kindWord : Node → String
  | .scalar .. => "scalar"
  | .sequence .. => "sequence"
  | .mapping .. => "mapping"
  | .knot isMapping _ => if isMapping then "mapping" else "sequence"

mutual

/-- Whether two nodes are equal. -/
def decEq : (a b : Node) → Decidable (a = b)
  | .scalar t s m, .scalar t' s' m' => decidable_of_iff (t = t' ∧ s = s' ∧ m = m') (by simp)
  | .sequence t items m, .sequence t' items' m' =>
    have := decEqItems items items'
    decidable_of_iff (t = t' ∧ items = items' ∧ m = m') (by simp)
  | .mapping t pairs m, .mapping t' pairs' m' =>
    have := decEqPairs pairs pairs'
    decidable_of_iff (t = t' ∧ pairs = pairs' ∧ m = m') (by simp)
  | .knot k m, .knot k' m' => decidable_of_iff (k = k' ∧ m = m') (by simp)
  | .scalar .., .sequence .. | .scalar .., .mapping .. | .scalar .., .knot ..
  | .sequence .., .scalar .. | .sequence .., .mapping .. | .sequence .., .knot ..
  | .mapping .., .scalar .. | .mapping .., .sequence .. | .mapping .., .knot ..
  | .knot .., .scalar .. | .knot .., .sequence .. | .knot .., .mapping .. => isFalse nofun

def decEqItems : (as bs : List Node) → Decidable (as = bs)
  | [], [] => isTrue rfl
  | a :: as, b :: bs =>
    have := a.decEq b
    have := decEqItems as bs
    decidable_of_iff (a = b ∧ as = bs) (by simp)
  | [], _ :: _ | _ :: _, [] => isFalse nofun

def decEqPairs : (as bs : List (Node × Node)) → Decidable (as = bs)
  | [], [] => isTrue rfl
  | (k, v) :: as, (k', v') :: bs =>
    have := k.decEq k'
    have := v.decEq v'
    have := decEqPairs as bs
    decidable_of_iff ((k = k' ∧ v = v') ∧ as = bs) (by simp)
  | [], _ :: _ | _ :: _, [] => isFalse nofun

end

instance : DecidableEq Node := decEq

end Node

/-! ## Reading tokens -/

/-- What is left to read, what anchors stand for and what tag handles mean. -/
structure Composer where
  tokens : List Token
  failure : Option Problem
  anchors : List (String × Node) := []
  handles : List (String × String) := []

abbrev Compose (α : Type) : Type := StateT Composer Attempt α

namespace Compose

/-- The next token. -/
def peek : Compose Token := do
  let s ← get
  match s.tokens, s.failure with
  | t :: _, _ => return t
  | [], some e => throw e
  | [], none => return ⟨.streamEnd, default, default⟩

/-- Takes the next token. -/
def take : Compose Token := do
  let t ← peek
  modify fun s => { s with tokens := s.tokens.tail }
  return t

/-- Whether the next token is of some kind. -/
def sees (p : TokenKind → Bool) : Compose Bool := return p (← peek).kind

/-- Takes the next token if it is `kind`. -/
def skip? (kind : TokenKind) : Compose (Option Token) := do
  let t ← peek
  if t.kind == kind then return some (← take) else return none

/-- Refuses the next token where something else has to stand. -/
def refuse {α : Type} (context : Option String) (start : Option Mark) (wanted : String) :
    Compose α := do
  let t ← peek
  throw (.error ⟨.parser, context, start, wanted ++ Text.quoted t.kind.word, some t.start⟩)

/-! ## Properties -/

/-- The anchor and the tag in front of a node, in either order, with the place where they begin. -/
structure Properties where
  anchor : Option String := none
  tag : Option (Option String × String) := none
  start : Option Mark := none
  tagMark : Option Mark := none

def anchor? : Compose (Option (String × Mark)) := do
  let t ← peek
  match t.kind with
  | .anchor name => do
    let _ ← take
    return some (name, t.start)
  | _ => return none

def tag? : Compose (Option ((Option String × String) × Mark)) := do
  let t ← peek
  match t.kind with
  | .tag handle suffix => do
    let _ ← take
    return some ((handle, suffix), t.start)
  | _ => return none

def properties : Compose Properties := do
  match ← anchor? with
  | some (name, m) =>
    match ← tag? with
    | some (tag, tagMark) => return ⟨some name, some tag, some m, some tagMark⟩
    | none => return ⟨some name, none, some m, none⟩
  | none =>
    match ← tag? with
    | some (tag, m) => return ⟨(← anchor?).map (·.1), some tag, some m, some m⟩
    | none => return {}

/-- A tag in full. -/
def fullTag (p : Properties) : Compose (Option String) := do
  match p.tag with
  | none => return none
  | some (none, suffix) => return some suffix
  | some (some handle, suffix) =>
    match (← get).handles.lookup handle with
    | some start => return some (start ++ suffix)
    | none =>
      throw (.error ⟨.parser, some "while parsing a node", p.start,
        "found undefined tag handle " ++ Text.quoted handle, p.tagMark⟩)

/-- Refuses an anchor that has been given before. -/
def checkAnchor (anchor : Option String) (start : Mark) : Compose Unit := do
  match anchor with
  | none => return ()
  | some name =>
    match (← get).anchors.lookup name with
    | none => return ()
    | some n =>
      throw (.error ⟨.composer,
        some ("found duplicate anchor " ++ Text.quoted name ++ "; first occurrence"),
        some n.start, "second occurrence", some start⟩)

/-- An anchor stands for a node from here on. -/
def setAnchor (anchor : Option String) (n : Node) : Compose Unit :=
  match anchor with
  | none => return ()
  | some name => modify fun s => { s with anchors := (name, n) :: s.anchors }

/-- The node that an alias repeats. -/
def aliased (name : String) (start : Mark) : Compose Node := do
  match (← get).anchors.lookup name with
  | some n => return n
  | none =>
    throw (.error
      ⟨.composer, none, none, "found undefined alias " ++ Text.quoted name, some start⟩)

/-! ## Nodes -/

/-- A scalar that is left out, at a place. -/
def emptyAt (m : Mark) : Node := .scalar (plainTag "") "" m

/-- The tag of a scalar: its own, or one by its form where it is plain or its tag says so. -/
def scalarTag (tag : Option String) (text : String) (plain : Bool) : String :=
  match tag with
  | none => if plain then plainTag text else Tag.str
  | some t => if t == "!" then plainTag text else t

/-- The tag of a collection: its own, or the one that all of its kind have. -/
def collectionTag (tag : Option String) (usual : String) : String :=
  match tag with
  | none => usual
  | some t => if t == "!" then usual else t

/-- Where fuel runs out, which the amount given does not allow. -/
def exhausted {α : Type} : Compose α :=
  throw (.error ⟨.parser, none, none, "nesting too deep", none⟩)

/-- Whether a token ends an entry of a block sequence. -/
def endsEntry (indentless : Bool) : TokenKind → Bool
  | .blockEntry | .blockEnd => true
  | .key | .value => indentless
  | _ => false

/-- Whether a token ends a key or a value of a block mapping. -/
def endsPart : TokenKind → Bool
  | .key | .value | .blockEnd => true
  | _ => false

/-- Whether a token ends a key in a flow collection that `closing` closes. -/
def endsFlowKey (closing kind : TokenKind) : Bool :=
  kind == .value || kind == .flowEntry || kind == closing

/-- Whether a token ends a value in a flow collection that `closing` closes. -/
def endsFlowValue (closing kind : TokenKind) : Bool := kind == .flowEntry || kind == closing

/-- Whether an entry of a flow collection is the first, or else has a comma in front, which is
taken. -/
def isDivided (first : Bool) : Compose Bool := do
  if first then
    return true
  else
    return (← skip? .flowEntry).isSome

/-- Refuses what is no node. -/
def noContent (block : Bool) (start : Mark) : Compose Node :=
  refuse (some ("while parsing a " ++ (if block then "block" else "flow") ++ " node")) (some start)
    "expected the node content, but found "

mutual

/-- A node; in a block it may be a block collection, also one without indentation. -/
def node : Nat → (block indentless : Bool) → Compose Node
  | 0, _, _ => exhausted
  | fuel + 1, block, indentless => do
    let t ← peek
    match t.kind with
    | .alias name => do
      let _ ← take
      aliased name t.start
    | _ => do
      let p ← properties
      let tag ← fullTag p
      let t ← peek
      let start := p.start.getD t.start
      let sequence := fun (items : Compose (List Node)) => do
        checkAnchor p.anchor start
        setAnchor p.anchor (.knot false start)
        let n := Node.sequence (collectionTag tag Tag.seq) (← items) start
        setAnchor p.anchor n
        return n
      let mapping := fun (pairs : Compose (List (Node × Node))) => do
        checkAnchor p.anchor start
        setAnchor p.anchor (.knot true start)
        let n := Node.mapping (collectionTag tag Tag.map) (← pairs) start
        setAnchor p.anchor n
        return n
      let scalar := fun (text : String) (plain : Bool) => do
        checkAnchor p.anchor start
        let n := Node.scalar (scalarTag tag text plain) text start
        setAnchor p.anchor n
        return n
      match t.kind with
      | .blockEntry =>
        if indentless then sequence (indentlessItems fuel)
        else if p.start.isSome then scalar "" true
        else noContent block start
      | .scalar text plain => do
        let _ ← take
        scalar text plain
      | .flowSequenceStart => sequence (do
          let _ ← take
          flowItems fuel t.start true)
      | .flowMappingStart => mapping (do
          let _ ← take
          flowPairs fuel t.start true)
      | .blockSequenceStart =>
        if block then sequence (do
          let _ ← take
          blockItems fuel t.start)
        else if p.start.isSome then scalar "" true
        else noContent block start
      | .blockMappingStart =>
        if block then mapping (do
          let _ ← take
          blockPairs fuel t.start)
        else if p.start.isSome then scalar "" true
        else noContent block start
      | _ => if p.start.isSome then scalar "" true else noContent block start

/-- A node, or an empty one behind the token `t` where the next token ends it. -/
def nodeBehind : Nat → (ends : TokenKind → Bool) → (block indentless : Bool) → Token → Compose Node
  | 0, _, _, _, _ => exhausted
  | fuel + 1, ends, block, indentless, t => do
    if ← sees ends then return emptyAt t.stop else node fuel block indentless

/-- A value behind its mark, or an empty one where there is no mark. -/
def valuePart : Nat → (ends : TokenKind → Bool) → (block : Bool) → Compose Node
  | 0, _, _ => exhausted
  | fuel + 1, ends, block => do
    match ← skip? .value with
    | some t => nodeBehind fuel ends block block t
    | none => return emptyAt (← peek).start

/-- The items of a block sequence that begins at a place. -/
def blockItems : Nat → Mark → Compose (List Node)
  | 0, _ => exhausted
  | fuel + 1, start => do
    match ← skip? .blockEntry with
    | some t => do
      let item ← nodeBehind fuel (endsEntry false) true false t
      return item :: (← blockItems fuel start)
    | none =>
      match ← skip? .blockEnd with
      | some _ => return []
      | none =>
        refuse (some "while parsing a block collection") (some start)
          "expected <block end>, but found "

/-- The items of a sequence without indentation. -/
def indentlessItems : Nat → Compose (List Node)
  | 0 => exhausted
  | fuel + 1 => do
    match ← skip? .blockEntry with
    | some t => do
      let item ← nodeBehind fuel (endsEntry true) true false t
      return item :: (← indentlessItems fuel)
    | none => return []

/-- The pairs of a block mapping that begins at a place. -/
def blockPairs : Nat → Mark → Compose (List (Node × Node))
  | 0, _ => exhausted
  | fuel + 1, start => do
    match ← skip? .key with
    | some t => do
      let key ← nodeBehind fuel endsPart true true t
      let value ← valuePart fuel endsPart true
      return (key, value) :: (← blockPairs fuel start)
    | none =>
      match ← skip? .blockEnd with
      | some _ => return []
      | none =>
        refuse (some "while parsing a block mapping") (some start)
          "expected <block end>, but found "

/-- The items of a flow sequence that begins at a place; a pair among them is a mapping. -/
def flowItems : Nat → Mark → (first : Bool) → Compose (List Node)
  | 0, _, _ => exhausted
  | fuel + 1, start, first => do
    let closing := TokenKind.flowSequenceEnd
    if (← skip? closing).isSome then return []
    else
      if !(← isDivided first) then
        refuse (some "while parsing a flow sequence") (some start)
          "expected ',' or ']', but got "
      else
        if (← skip? closing).isSome then return []
        else
          match ← skip? .key with
          | some t => do
            let key ← nodeBehind fuel (endsFlowKey closing) false false t
            let value ← valuePart fuel (endsFlowValue closing) false
            return .mapping Tag.map [(key, value)] t.start :: (← flowItems fuel start false)
          | none => do
            let item ← node fuel false false
            return item :: (← flowItems fuel start false)

/-- The pairs of a flow mapping that begins at a place. -/
def flowPairs : Nat → Mark → (first : Bool) → Compose (List (Node × Node))
  | 0, _, _ => exhausted
  | fuel + 1, start, first => do
    let closing := TokenKind.flowMappingEnd
    if (← skip? closing).isSome then return []
    else
      if !(← isDivided first) then
        refuse (some "while parsing a flow mapping") (some start)
          "expected ',' or '\x7d', but got "
      else
        if (← skip? closing).isSome then return []
        else
          match ← skip? .key with
          | some t => do
            let key ← nodeBehind fuel (endsFlowKey closing) false false t
            let value ← valuePart fuel (endsFlowValue closing) false
            return (key, value) :: (← flowPairs fuel start false)
          | none => do
            let key ← node fuel false false
            let value := emptyAt (← peek).start
            return (key, value) :: (← flowPairs fuel start false)

end

/-! ## Documents -/

/-- The handles that always have a meaning. -/
def usualHandles : List (String × String) := [("!", "!"), ("!!", Tag.standard)]

/-- Reads directives; `seen` says whether a version has been given. -/
def directives : Nat → (seen : Bool) → (handles : List (String × String)) →
    Compose (List (String × String))
  | 0, _, handles => return handles
  | fuel + 1, seen, handles => do
    let t ← peek
    let refuse := fun problem => throw (.error ⟨.parser, none, none, problem, some t.start⟩)
    match t.kind with
    | .directive v => do
      let _ ← take
      match v with
      | .version major _ =>
        if seen then refuse "found duplicate YAML directive"
        else if major != 1 then
          refuse "found incompatible YAML document (version 1.* is required)"
        else directives fuel true handles
      | .tag handle start =>
        if (handles.lookup handle).isSome then
          refuse ("duplicate tag handle " ++ Text.quoted handle)
        else directives fuel seen ((handle, start) :: handles)
      | .other => directives fuel seen handles
    | _ => return handles

/-- Takes the marks of ended documents. -/
def skipEnds : Nat → Compose Unit
  | 0 => return ()
  | fuel + 1 => do
    if (← skip? .documentEnd).isSome then skipEnds fuel

/-- The head of a document with a mark of its own: nothing at the end of the text, or else the place
where it begins. -/
def documentHead (fuel : Nat) : Compose (Option Mark) := do
  skipEnds fuel
  let t ← peek
  if t.kind == .streamEnd then return none
  else do
    let handles ← directives fuel false []
    modify fun s => { s with handles := handles ++ usualHandles }
    if (← skip? .documentStart).isNone then
      refuse none none "expected '<document start>', but found "
    else return some t.start

/-- Whether a token begins or ends a document. -/
def isDocumentMark : TokenKind → Bool
  | .directive _ | .documentStart | .documentEnd | .streamEnd => true
  | _ => false

/-- The root of the first document, if there is one. -/
def root? (fuel : Nat) : Compose (Option Node) := do
  let implicit ← sees fun k => !(isDocumentMark k) || k == .documentEnd
  if implicit then do
    modify fun s => { s with handles := usualHandles }
    return some (← node fuel true false)
  else
    match ← documentHead fuel with
    | none => return none
    | some _ => do
      let t ← peek
      if isDocumentMark t.kind then return some (emptyAt t.start)
      else return some (← node fuel true false)

/-- The root of the only document, if there is one. -/
def single? (fuel : Nat) : Compose (Option Node) := do
  match ← root? fuel with
  | none => return none
  | some n => do
    let _ ← skip? .documentEnd
    match ← documentHead fuel with
    | none => return some n
    | some m =>
      throw (.error ⟨.composer, some "expected a single document in the stream", some n.start,
        "but found another document", some m⟩)

end Compose

/-! ## Texts -/

/-- Whether a character may stand in a text. -/
def isAllowed (c : Char) : Bool :=
  let n := c.toNat
  n == 9 || n == 10 || n == 13 || (0x20 ≤ n && n ≤ 0x7E) || n == 0x85 ||
    (0xA0 ≤ n && n ≤ 0xFFFD) || 0x10000 ≤ n

/-- The error of a character that may not stand in a text. -/
def notAllowed (index : Nat) (c : Char) : YamlError :=
  { kind := .reader
    problem := "unacceptable character #x" ++ Text.hexText 4 c.toNat ++
      ": special characters are not allowed\n  in \"<unicode string>\", position " ++
        toString index }

/-- The root node of a text that holds one document at most; nothing where it holds none. -/
def Node.ofText? (text : List Char) : Attempt (Option Node) :=
  let good := text.takeWhile isAllowed
  match text.drop good.length with
  | c :: _ => .error (.error (notAllowed good.length c))
  | [] =>
    let ts := Tokens.ofText text
    let fuel := 4 * ts.ready.length + 8
    ((Compose.single? fuel).run { tokens := ts.ready, failure := ts.failure }).map (·.1)

end ProtoCheck.Yaml
