import ProtoCheck.Location
import ProtoCheck.Text.Quoted
import ProtoCheck.Yaml.Node

/-!
# Where the nodes of a document stand

* `Step`, `pathText` : a step from a node to one below it, and the text of a list of steps;
* `Node.spelled` : a node as a key that is no scalar shows it;
* `Node.positions` : the nodes below a node with the steps that lead to them;
* `sourceMap?` : the positions of a text's nodes by path.
-/

namespace ProtoCheck.Yaml

open Text

/-! ## Paths -/

/-- A step to the value of a key or to an item. -/
inductive Step where
  | key (text : String)
  | index (i : Nat)
  deriving DecidableEq, Repr

/-- A character of a key in a path: tilde and slash have spellings of their own. -/
def escapedChar (c : Char) : Option String :=
  if c == '~' then some "~0" else if c == '/' then some "~1" else none

/-- The text of a step. -/
def Step.text : Step → String
  | .key k => escapeWith escapedChar k
  | .index i => toString i

/-- The text of a path: a slash before each step. -/
def pathText (steps : List Step) : String := String.join (steps.map fun s => "/" ++ s.text)

/-! ## Keys that are no scalars -/

mutual

/-- A node with its tag and what it holds. -/
def Node.spelled : Node → String
  | .scalar tag text _ => "ScalarNode(tag=" ++ quoted tag ++ ", value=" ++ quoted text ++ ")"
  | .sequence tag items _ =>
    "SequenceNode(tag=" ++ quoted tag ++ ", value=" ++ bracketed (spelledItems items) ++ ")"
  | .mapping tag pairs _ =>
    "MappingNode(tag=" ++ quoted tag ++ ", value=" ++ bracketed (spelledPairs pairs) ++ ")"
  | .knot isMapping _ =>
    (if isMapping then "MappingNode(tag=" ++ quoted Tag.map
      else "SequenceNode(tag=" ++ quoted Tag.seq) ++ ", value=[...])"

def spelledItems : List Node → List String
  | [] => []
  | n :: rest => n.spelled :: spelledItems rest

def spelledPairs : List (Node × Node) → List String
  | [] => []
  | (k, v) :: rest => ("(" ++ k.spelled ++ ", " ++ v.spelled ++ ")") :: spelledPairs rest

end

/-- The text of a node as a key: a scalar's own, or what the node holds. -/
def Node.keyText : Node → String
  | .scalar _ text _ => text
  | .sequence _ items _ => bracketed (spelledItems items)
  | .mapping _ pairs _ => bracketed (spelledPairs pairs)
  | .knot _ _ => "[...]"

/-! ## Positions -/

mutual

/-- A node and the nodes below it with the steps that lead to them, in the order of the text. The
nodes inside keys are not among them. -/
def Node.positions (path : List Step) : Node → List (List Step × Mark)
  | .scalar _ _ m | .knot _ m => [(path, m)]
  | .sequence _ items m => (path, m) :: itemPositions path 0 items
  | .mapping _ pairs m => (path, m) :: pairPositions path pairs

def itemPositions (path : List Step) (i : Nat) : List Node → List (List Step × Mark)
  | [] => []
  | n :: rest => n.positions (path ++ [.index i]) ++ itemPositions path (i + 1) rest

def pairPositions (path : List Step) : List (Node × Node) → List (List Step × Mark)
  | [] => []
  | (k, v) :: rest => v.positions (path ++ [.key k.keyText]) ++ pairPositions path rest

end

mutual

/-- Whether a node holds itself, keys left aside. -/
def Node.isEndless : Node → Bool
  | .scalar .. => false
  | .knot .. => true
  | .sequence _ items _ => anyEndless items
  | .mapping _ pairs _ => anyValueEndless pairs

def anyEndless : List Node → Bool
  | [] => false
  | n :: rest => n.isEndless || anyEndless rest

def anyValueEndless : List (Node × Node) → Bool
  | [] => false
  | (_, v) :: rest => v.isEndless || anyValueEndless rest

end

/-- The positions of a root and the nodes below it by path, counted from one. -/
def Node.sourceMap (root : Node) : SourceMap :=
  (root.positions []).map fun (steps, m) =>
    (pathText steps, some ((m.line + 1 : Nat) : Int), some ((m.column + 1 : Nat) : Int))

/-- The positions of a text's nodes by path; none where the text is not well formed or holds no
document. A document that contains itself has no finite map, and where reading the text breaks down
there is none either. -/
def sourceMap? (text : List Char) : Except Breakdown SourceMap :=
  match Node.ofText? text with
  | .error (.error _) | .ok none => .ok []
  | .error (.breakdown b) => .error b
  | .ok (some root) => if root.isEndless then .error .endlessDocument else .ok root.sourceMap

end ProtoCheck.Yaml
