import ProtoCheck.Yaml.Data.Typed
import ProtoCheck.Yaml.Node

/-!
# The data of nodes

A node is made in rounds. It is touched first: a scalar gets its data, a collection its type. What a
collection holds is touched one round later, after all that is touched in the round of the
collection. So of two problems the one of the earlier round comes up, and of two in one round the
one that stands first.

* `Rounds` : problems by round;
* `Made` : data with the problems of making it;
* `Entry`, `Merged` : the pairs of a mapping, and those that its merge keys bring;
* `Node.made` : the data of a node;
* `Data.ofText?` : the data of a text.
-/

namespace ProtoCheck.Yaml

/-! ## Rounds -/

/-- The first problem of each round. -/
abbrev Rounds : Type := List (Option Problem)

namespace Rounds

/-- The problems of one thing and then of another one. -/
def also : Rounds → Rounds → Rounds
  | [], s => s
  | r, [] => r
  | p :: r, q :: s => p.or q :: also r s

/-- The problems of several things, one after the other. -/
def all (rs : List Rounds) : Rounds := rs.foldr also []

/-- The same, one round later. -/
def later (r : Rounds) : Rounds := none :: r

/-- The problem that comes up. -/
def first? (r : Rounds) : Option Problem := r.findSome? id

end Rounds

/-- Data with the problems of making it. -/
structure Made where
  data : Data
  rounds : Rounds := []

namespace Made

def ofAttempt (a : Attempt Data) : Made :=
  match a with
  | .ok d => ⟨d, []⟩
  | .error p => ⟨.null, [some p]⟩

def failed (p : Problem) : Made := ⟨.null, [some p]⟩

/-- A collection that has a problem when it is filled. -/
def unfilled (empty : Data) (p : Problem) : Made := ⟨empty, Rounds.later [some p]⟩

end Made

/-! ## Pairs -/

/-- A pair of a mapping, with the place of its key. -/
structure Entry where
  start : Mark
  key : Made
  value : Made

/-- The pairs of a mapping: those that merge keys bring, its own, and what is wrong with the merge
keys. -/
structure Merged where
  brought : List Entry := []
  own : List Entry := []
  problem : Option Problem := none

/-- All pairs of a mapping, its own ones last so that they prevail. -/
def Merged.entries (m : Merged) : List Entry := m.brought ++ m.own

/-- The context of problems with the pairs of a mapping. -/
def makingMapping : String := "while constructing a mapping"

/-- The problems of a pair of the mapping that begins at a place. -/
def Entry.rounds (start : Mark) (e : Entry) : Rounds :=
  let key := if e.key.data.isKey then [] else
    [some (Problem.within makingMapping start "found unhashable key" e.start)]
  e.key.rounds.also (Rounds.also key e.value.rounds)

/-- The pairs of the mapping that begins at a place as data, and the problems of filling it. -/
def Merged.filled (start : Mark) (m : Merged) : List (Data × Data) × Rounds :=
  (m.entries.foldl (fun ps e => setPair e.key.data e.value.data ps) [],
    Rounds.also [m.problem] (Rounds.all (m.entries.map (Entry.rounds start))))

/-! ## Texts -/

/-- A node that has to be of one kind and is of another. -/
def wrongKind (wanted found : String) (place : Mark) : Problem :=
  .plain ("expected a " ++ wanted ++ " node, but found " ++ found) place

mutual

/-- The text of a node: that of a scalar, or of the value that stands for a mapping. -/
def Node.text? : Node → Attempt String
  | .scalar _ text _ => .ok text
  | .sequence _ _ start => .error (wrongKind "scalar" "sequence" start)
  | .mapping _ pairs start =>
    (standingValue? pairs).getD (.error (wrongKind "scalar" "mapping" start))
  | .knot isMapping start =>
    .error (wrongKind "scalar" (if isMapping then "mapping" else "sequence") start)

/-- The text of the value whose key says that it stands for its mapping. -/
def standingValue? : List (Node × Node) → Option (Attempt String)
  | [] => none
  | (k, v) :: rest => if k.tag == Tag.value then some v.text? else standingValue? rest

end

/-- A mapping as a scalar. A timestamp is looked for in the mapping itself, which is no text. -/
def mappingAsScalar (tag : String) (n : Node) : Attempt Data := do
  let text ← n.text?
  if tag == Tag.timestamp then breakdown .yamlKind else scalarData tag text n.start

/-! ## Nodes -/

/-- What a tag of collections begins with. -/
def emptyCollection (tag : String) : Data :=
  if tag == Tag.map then .mapping [] else if tag == Tag.set then .set [] else .list []

/-- The context of problems with an ordered mapping, or with pairs. -/
def makingPairs (tag : String) : String :=
  "while constructing " ++ (if tag == Tag.omap then "an ordered map" else "pairs")

/-- The problem of a collection's tag with a node of another kind. -/
def wrongCollection (tag found : String) (start : Mark) : Problem :=
  if tag == Tag.map || tag == Tag.set then wrongKind "mapping" found start
  else if tag == Tag.seq then wrongKind "sequence" found start
  else .within (makingPairs tag) start ("expected a sequence, but found " ++ found) start

mutual

/-- The data of a node. -/
def Node.made : Node → Made
  | .scalar tag text start =>
    if isScalarTag tag then .ofAttempt (scalarData tag text start)
    else if isCollectionTag tag then
      .unfilled (emptyCollection tag) (wrongCollection tag "scalar" start)
    else .failed (unknownTag tag start)
  | .sequence tag items start =>
    if isScalarTag tag then .failed (wrongKind "scalar" "sequence" start)
    else if tag == Tag.seq then
      let made := madeItems items
      ⟨.list (made.map (·.data)), Rounds.later (Rounds.all (made.map (·.rounds)))⟩
    else if tag == Tag.omap || tag == Tag.pairs then
      let made := madePairs (makingPairs tag) start items
      ⟨.list (made.map (·.data)), Rounds.later (Rounds.all (made.map (·.rounds)))⟩
    else if isCollectionTag tag then
      .unfilled (emptyCollection tag) (wrongCollection tag "sequence" start)
    else .failed (unknownTag tag start)
  | .mapping tag pairs start =>
    if isScalarTag tag then .ofAttempt (mappingAsScalar tag (.mapping tag pairs start))
    else if tag == Tag.map || tag == Tag.set then
      let (filled, rounds) := (mergedPairs start pairs).filled start
      ⟨if tag == Tag.map then .mapping filled else .set (filled.map (·.1)), Rounds.later rounds⟩
    else if isCollectionTag tag then
      .unfilled (emptyCollection tag) (wrongCollection tag "mapping" start)
    else .failed (unknownTag tag start)
  | .knot isMapping _ => ⟨if isMapping then .mapping [] else .list [], []⟩

def madeItems : List Node → List Made
  | [] => []
  | n :: rest => n.made :: madeItems rest

/-- The items of an ordered mapping, each a mapping of one pair. -/
def madePairs (context : String) (start : Mark) : List Node → List Made
  | [] => []
  | n :: rest =>
    (match n with
      | .mapping _ [(k, v)] _ =>
        let key := k.made
        let value := v.made
        ⟨.pair key.data value.data, key.rounds.also value.rounds⟩
      | .mapping _ pairs m =>
        .failed (.within context start
          ("expected a single mapping item, but found " ++ toString pairs.length ++ " items") m)
      | n => .failed (.within context start
          ("expected a mapping of length 1, but found " ++ n.kindWord) n.start)) ::
      madePairs context start rest

/-- The pairs of the mapping that begins at a place. -/
def mergedPairs (start : Mark) : List (Node × Node) → Merged
  | [] => {}
  | (k, v) :: rest =>
    let m := mergedPairs start rest
    if k.tag == Tag.merge then
      let (brought, problem) := broughtBy start v
      { m with brought := brought ++ m.brought, problem := problem.or m.problem }
    else
      let key := if k.tag == Tag.value then .ofAttempt (k.text?.map Data.text) else k.made
      { m with own := ⟨k.start, key, v.made⟩ :: m.own }

/-- The pairs that the value of a merge key brings to the mapping that begins at a place: those of a
mapping, or of the mappings in a sequence, of which the earlier prevail. -/
def broughtBy (start : Mark) : Node → List Entry × Option Problem
  | .mapping _ pairs m =>
    let merged := mergedPairs m pairs
    (merged.entries, merged.problem)
  | .sequence _ items _ => broughtByItems start items
  | .knot _ _ => ([], none)
  | .scalar _ _ m =>
    ([], some (.within makingMapping start
      "expected a mapping or list of mappings for merging, but found scalar" m))

def broughtByItems (start : Mark) : List Node → List Entry × Option Problem
  | [] => ([], none)
  | n :: rest =>
    let (others, problem) := broughtByItems start rest
    match n with
    | .mapping _ pairs m =>
      let merged := mergedPairs m pairs
      (others ++ merged.entries, merged.problem.or problem)
    | .knot true _ => (others, problem)
    | n =>
      ([], some (.within makingMapping start
        ("expected a mapping for merging, but found " ++ n.kindWord) n.start))

end

/-! ## Texts as data -/

/-- The data of a node, or the problem that comes up. -/
def Data.ofNode? (n : Node) : Attempt Data :=
  let made := n.made
  match made.rounds.first? with
  | some p => .error p
  | none => .ok made.data

/-- The data of a text that holds one document at most; none is null. -/
def Data.ofText? (text : List Char) : Attempt Data :=
  match Node.ofText? text with
  | .error p => .error p
  | .ok none => .ok .null
  | .ok (some n) => Data.ofNode? n

end ProtoCheck.Yaml
