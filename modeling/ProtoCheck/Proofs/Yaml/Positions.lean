import Mathlib.Data.List.Basic
import ProtoCheck.Proofs.Text.Blank
import ProtoCheck.Proofs.Text.Digit
import ProtoCheck.Yaml.Positions

/-!
# Looking positions up

The text of a step holds no slash, so a path tells the texts of its steps. The source map of a
document lists its nodes in the order of the text, and what it has for a path is the last entry: the
place of the last node to which the texts of the steps lead.

* `slash_notMem_text`, `key_text_injective`, `index_text_injective` : the texts of steps;
* `pathText_eq_iff` : the texts of paths;
* `Node.positions_eq` : the nodes below a node, seen from that node;
* `Node.children`, `Node.positions_eq_cons` : the nodes right below a node, and its positions by
  them;
* `Node.reached` : the nodes that texts of steps lead to, `Node.along_positions` : their places,
  `reached_key`, `reached_index` : step by step;
* `Node.marked?` : the node whose place a path has, `Node.get?_sourceMap`, `Node.locate_sourceMap`.
-/

namespace ProtoCheck.Yaml

open Text

/-! ## Texts of steps -/

/-- A character of a key as it stands in a path. -/
def keyChar (c : Char) : List Char :=
  if c = '~' then ['~', '0'] else if c = '/' then ['~', '1'] else [c]

theorem toList_key_text (k : String) : (Step.key k).text.toList = k.toList.flatMap keyChar := by
  unfold Step.text escapeWith
  rw [String.toList_ofList]
  congr 1
  funext c
  unfold escapedChar keyChar
  simp only [beq_iff_eq]
  split_ifs <;> rfl

theorem slash_notMem_keyChar (c : Char) : '/' ∉ keyChar c := by
  unfold keyChar
  split_ifs with htilde hslash
  · decide
  · decide
  · rw [List.mem_singleton]
    exact fun h => hslash h.symm

theorem keyChar_append_inj {c d : Char} {x y : List Char}
    (h : keyChar c ++ x = keyChar d ++ y) : c = d ∧ x = y := by
  unfold keyChar at h
  split_ifs at h <;> grind

/-- A slash in a key is spelled in another way, so that a step has none. -/
theorem slash_notMem_text (s : Step) : '/' ∉ s.text.toList := by
  cases s with
  | key k =>
    rw [toList_key_text, List.mem_flatMap]
    rintro ⟨c, -, hc⟩
    exact slash_notMem_keyChar c hc
  | index i =>
    intro h
    have hdigit := isAsciiDigit_of_mem_toDigits (n := i) (by simpa [Step.text] using h)
    exact absurd hdigit (by decide)

theorem key_text_injective {a b : String} (h : (Step.key a).text = (Step.key b).text) : a = b := by
  have hl := congrArg String.toList h
  rw [toList_key_text, toList_key_text] at hl
  apply String.toList_injective
  generalize a.toList = s at hl
  generalize b.toList = t at hl
  induction s generalizing t with
  | nil =>
    cases t with
    | nil => rfl
    | cons d t =>
      have hne : keyChar d ≠ [] := by
        unfold keyChar
        split_ifs <;> exact List.cons_ne_nil _ _
      rw [List.flatMap_nil, List.flatMap_cons] at hl
      exact absurd (List.append_eq_nil_iff.1 hl.symm).1 hne
  | cons c s ih =>
    cases t with
    | nil =>
      have hne : keyChar c ≠ [] := by
        unfold keyChar
        split_ifs <;> exact List.cons_ne_nil _ _
      rw [List.flatMap_nil, List.flatMap_cons] at hl
      exact absurd (List.append_eq_nil_iff.1 hl).1 hne
    | cons d t =>
      rw [List.flatMap_cons, List.flatMap_cons] at hl
      obtain ⟨rfl, hrest⟩ := keyChar_append_inj hl
      rw [ih t hrest]

theorem index_text_injective {i j : Nat} (h : (Step.index i).text = (Step.index j).text) :
    i = j := by
  have hi := number?_toDigits i
  have hl : Nat.toDigits 10 i = Nat.toDigits 10 j := by
    simpa [Step.text] using congrArg String.toList h
  rw [hl, number?_toDigits] at hi
  exact (Option.some.inj hi).symm

/-! ## Texts of paths -/

theorem toList_pathText_cons (s : Step) (steps : List Step) :
    (pathText (s :: steps)).toList = '/' :: (s.text.toList ++ (pathText steps).toList) := by
  unfold pathText
  rw [List.map_cons, String.join_cons, String.toList_append, String.toList_append]
  rfl

theorem pieces_append_pathText {u : List Char} (hu : '/' ∉ u) (steps : List Step) :
    pieces (· == '/') (u ++ (pathText steps).toList) =
      u :: steps.map fun s => s.text.toList := by
  induction steps generalizing u with
  | nil =>
    rw [show (pathText []).toList = [] from rfl, List.append_nil]
    exact pieces_of_notMem hu
  | cons s steps ih =>
    rw [toList_pathText_cons, pieces_append_of_notMem hu, ih (slash_notMem_text s), List.map_cons]

/-- A path tells the texts of its steps. -/
theorem pathText_eq_iff {a b : List Step} :
    pathText a = pathText b ↔ a.map Step.text = b.map Step.text := by
  constructor
  · intro h
    have ha := pieces_append_pathText (u := []) List.not_mem_nil a
    rw [h, pieces_append_pathText List.not_mem_nil b] at ha
    have hmap := (List.cons.inj ha).2
    apply List.map_injective_iff.2 fun _ _ => String.toList_injective
    simpa only [List.map_map, Function.comp_def] using hmap.symm
  · intro h
    have hslash : ∀ l : List Step,
        l.map (fun s => "/" ++ s.text) = (l.map Step.text).map ("/" ++ ·) := fun l => by
      rw [List.map_map]
      rfl
    unfold pathText
    rw [hslash, hslash, h]

/-! ## Positions -/

mutual

/-- The nodes below a node are the same seen from elsewhere, with longer paths. -/
theorem Node.positions_eq (path : List Step) : (n : Node) →
    n.positions path = (n.positions []).map fun e => (path ++ e.1, e.2)
  | .scalar _ _ m | .knot _ m => by simp [Node.positions]
  | .sequence _ items m => by
    rw [Node.positions, Node.positions, itemPositions_eq path 0 items, List.map_cons,
      List.append_nil]
  | .mapping _ pairs m => by
    rw [Node.positions, Node.positions, pairPositions_eq path pairs, List.map_cons,
      List.append_nil]

theorem itemPositions_eq (path : List Step) (i : Nat) : (items : List Node) →
    itemPositions path i items =
      (itemPositions [] i items).map fun e => (path ++ e.1, e.2)
  | [] => rfl
  | n :: rest => by
    rw [itemPositions, itemPositions, itemPositions_eq path (i + 1) rest,
      n.positions_eq (path ++ [Step.index i]), n.positions_eq ([] ++ [Step.index i]),
      List.map_append, List.map_map]
    simp [Function.comp_def]

theorem pairPositions_eq (path : List Step) : (pairs : List (Node × Node)) →
    pairPositions path pairs = (pairPositions [] pairs).map fun e => (path ++ e.1, e.2)
  | [] => rfl
  | (k, v) :: rest => by
    rw [pairPositions, pairPositions, pairPositions_eq path rest,
      v.positions_eq (path ++ [Step.key k.keyText]), v.positions_eq ([] ++ [Step.key k.keyText]),
      List.map_append, List.map_map]
    simp [Function.comp_def]

end

/-! ## Children -/

/-- The items of a sequence and the values of a mapping, with the steps to them. -/
def Node.children : Node → List (Step × Node)
  | .scalar .. | .knot .. => []
  | .sequence _ items _ => items.zipIdx.map fun x => (.index x.2, x.1)
  | .mapping _ pairs _ => pairs.map fun p => (.key p.1.keyText, p.2)

/-- The positions of a child and the nodes below it, seen from its parent. -/
def childPositions (c : Step × Node) : List (List Step × Mark) :=
  (c.2.positions []).map fun e => (c.1 :: e.1, e.2)

theorem itemPositions_eq_flatMap (i : Nat) (items : List Node) :
    itemPositions [] i items =
      ((items.zipIdx i).map fun x => (Step.index x.2, x.1)).flatMap childPositions := by
  induction items generalizing i with
  | nil => rfl
  | cons n rest ih =>
    rw [itemPositions, Node.positions_eq, ih, List.zipIdx_cons, List.map_cons, List.flatMap_cons]
    rfl

theorem pairPositions_eq_flatMap (pairs : List (Node × Node)) :
    pairPositions [] pairs =
      (pairs.map fun p => (Step.key p.1.keyText, p.2)).flatMap childPositions := by
  induction pairs with
  | nil => rfl
  | cons p rest ih =>
    rw [pairPositions, Node.positions_eq, ih, List.map_cons, List.flatMap_cons]
    rfl

/-- A node comes first, and then its children with what is below them. -/
theorem Node.positions_eq_cons (n : Node) :
    n.positions [] = ([], n.start) :: n.children.flatMap childPositions := by
  cases n with
  | scalar | knot => rfl
  | sequence tag items m => exact congrArg _ (itemPositions_eq_flatMap 0 items)
  | mapping tag pairs m => exact congrArg _ (pairPositions_eq_flatMap pairs)

/-! ## Texts that lead to nodes -/

/-- The nodes that texts of steps lead to, in the order of the text. Keys may repeat, so there may
be several. -/
def Node.reached : List String → Node → List Node
  | [], n => [n]
  | t :: ts, .sequence _ items _ =>
    items.zipIdx.flatMap fun x => if (Step.index x.2).text = t then Node.reached ts x.1 else []
  | t :: ts, .mapping _ pairs _ =>
    pairs.flatMap fun p => if (Step.key p.1.keyText).text = t then Node.reached ts p.2 else []
  | _ :: _, .scalar .. | _ :: _, .knot .. => []

/-- The first text leads to the children whose steps have it. -/
theorem Node.reached_cons (t : String) (ts : List String) (n : Node) : n.reached (t :: ts) =
    n.children.flatMap fun c => if c.1.text = t then c.2.reached ts else [] := by
  cases n with
  | scalar | knot => rw [Node.reached]; rfl
  | sequence | mapping => rw [Node.reached, Node.children, List.flatMap_map]

/-- The entries whose paths have texts. -/
def along (ts : List String) (es : List (List Step × Mark)) : List Mark :=
  (es.filter fun e => e.1.map Step.text = ts).map (·.2)

theorem along_flatMap (ts : List String) (cs : List (Step × Node)) :
    along ts (cs.flatMap childPositions) = cs.flatMap fun c => along ts (childPositions c) := by
  unfold along
  rw [List.filter_flatMap, List.map_flatMap]

theorem along_childPositions (t : String) (ts : List String) (c : Step × Node) :
    along (t :: ts) (childPositions c) =
      if c.1.text = t then along ts (c.2.positions []) else [] := by
  unfold along childPositions
  rw [List.filter_map, List.map_map]
  split
  · rename_i ht
    subst ht
    simp [Function.comp_def]
  · rename_i ht
    simp [Function.comp_def, ht]

theorem along_nil_childPositions (c : Step × Node) : along [] (childPositions c) = [] := by
  unfold along childPositions
  rw [List.filter_map]
  simp [Function.comp_def]

theorem along_cons_nil (m : Mark) (t : String) (ts : List String)
    (es : List (List Step × Mark)) : along (t :: ts) (([], m) :: es) = along (t :: ts) es := by
  unfold along
  rw [List.filter_cons_of_neg (by simp)]

theorem along_nil_cons_nil (m : Mark) (es : List (List Step × Mark)) :
    along [] (([], m) :: es) = m :: along [] es := by
  unfold along
  rw [List.filter_cons_of_pos (by simp), List.map_cons]

/-- The entries that a path has are the places of the nodes that it leads to. -/
theorem Node.along_positions (ts : List String) (n : Node) :
    along ts (n.positions []) = (n.reached ts).map Node.start := by
  induction ts generalizing n with
  | nil =>
    have hbelow : along [] (n.children.flatMap childPositions) = [] := by
      rw [along_flatMap, List.flatMap_eq_nil_iff]
      exact fun c _ => along_nil_childPositions c
    rw [n.positions_eq_cons, along_nil_cons_nil, hbelow, Node.reached]
    rfl
  | cons t ts ih =>
    rw [n.positions_eq_cons, along_cons_nil, along_flatMap, n.reached_cons, List.map_flatMap]
    congr 1
    funext c
    rw [along_childPositions, ih]
    split <;> rfl

/-! ## The nodes of a path -/

theorem reached_key (tag : String) (pairs : List (Node × Node)) (m : Mark) (key : String)
    (ts : List String) : (Node.mapping tag pairs m).reached ((Step.key key).text :: ts) =
      (pairs.filter fun p => p.1.keyText = key).flatMap fun p => p.2.reached ts := by
  rw [Node.reached]
  induction pairs with
  | nil => rfl
  | cons p rest ih =>
    rw [List.flatMap_cons, ih]
    by_cases hp : p.1.keyText = key
    · rw [if_pos (by rw [hp]), List.filter_cons_of_pos (by simpa using hp), List.flatMap_cons]
    · have htext : (Step.key p.1.keyText).text ≠ (Step.key key).text :=
        fun he => hp (key_text_injective he)
      rw [if_neg htext, List.filter_cons_of_neg (by simpa using hp), List.nil_append]

theorem flatMap_zipIdx_index (items : List Node) (start i : Nat) (ts : List String) :
    ((items.zipIdx start).flatMap fun x =>
      if (Step.index x.2).text = (Step.index (start + i)).text then x.1.reached ts else []) =
      (items[i]?.map (Node.reached ts)).getD [] := by
  induction items generalizing start i with
  | nil => rfl
  | cons n rest ih =>
    rw [List.zipIdx_cons, List.flatMap_cons]
    cases i with
    | zero =>
      -- the items behind the first one have greater indices
      have hrest : ((rest.zipIdx (start + 1)).flatMap fun x =>
          if (Step.index x.2).text = (Step.index (start + 0)).text then x.1.reached ts else []) =
            [] := by
        rw [List.flatMap_eq_nil_iff]
        intro x hx
        have hle := List.le_snd_of_mem_zipIdx hx
        rw [if_neg fun he => by have := index_text_injective he; omega]
      rw [hrest, List.append_nil]
      exact if_pos rfl
    | succ i =>
      have hne : (Step.index start).text ≠ (Step.index (start + (i + 1))).text :=
        fun he => by have := index_text_injective he; omega
      rw [if_neg hne, List.nil_append, show start + (i + 1) = start + 1 + i by omega, ih]
      rfl

theorem reached_index (tag : String) (items : List Node) (m : Mark) (i : Nat)
    (ts : List String) : (Node.sequence tag items m).reached ((Step.index i).text :: ts) =
      (items[i]?.map (Node.reached ts)).getD [] := by
  have h := flatMap_zipIdx_index items 0 i ts
  rwa [Nat.zero_add] at h

/-! ## Source maps -/

theorem sourceMap?_of_root {text : List Char} {root : Node}
    (hroot : Node.ofText? text = .ok (some root)) (hend : root.isEndless = false) :
    sourceMap? text = .ok root.sourceMap := by
  unfold sourceMap?
  rw [hroot]
  exact if_neg (by simp [hend])

/-- A place as a source map has it, counted from one. -/
def Mark.shownPlace (m : Mark) : Option Int × Option Int :=
  (some ((m.line + 1 : Nat) : Int), some ((m.column + 1 : Nat) : Int))

theorem Mark.shownPlace_eq_iff {a b : Mark} :
    a.shownPlace = b.shownPlace ↔ a.line = b.line ∧ a.column = b.column := by
  simp [Mark.shownPlace]

/-- The node whose place a source map has for a path, the last of those that the path leads to. -/
def Node.marked? (root : Node) (steps : List Step) : Option Node :=
  (root.reached (steps.map Step.text)).getLast?

theorem get?_eq_getLast? (m : SourceMap) (path : String) :
    m.get? path = (m.filter fun e => e.1 == path).getLast?.map (·.2) := by
  unfold SourceMap.get?
  rw [← List.head?_reverse, ← List.filter_reverse, List.head?_filter]

theorem Node.get?_sourceMap (root : Node) (steps : List Step) :
    root.sourceMap.get? (pathText steps) =
      (root.marked? steps).map fun n => n.start.shownPlace := by
  have hfilter : root.sourceMap.filter (fun e => e.1 == pathText steps) =
      ((root.positions []).filter fun e => e.1.map Step.text = steps.map Step.text).map
        fun e => (pathText e.1, e.2.shownPlace) := by
    -- two paths have one text if their steps have the same texts
    unfold Node.sourceMap
    rw [List.filter_map]
    congr 1
    refine List.filter_congr fun e _ => ?_
    rw [Bool.eq_iff_iff, decide_eq_true_iff]
    exact beq_iff_eq.trans pathText_eq_iff
  have hplaces := root.along_positions (steps.map Step.text)
  unfold along at hplaces
  unfold Node.marked?
  rw [get?_eq_getLast?, hfilter, List.getLast?_map, Option.map_map]
  have hlast := congrArg (fun l => l.getLast?.map Mark.shownPlace) hplaces
  simpa only [List.getLast?_map, Option.map_map, Function.comp_def] using hlast

/-- The place of a path, as a source map has it. -/
def Node.placeOf (root : Node) (steps : List Step) : Option Int × Option Int :=
  ((root.marked? steps).map fun n => n.start.shownPlace).getD (none, none)

theorem Node.locate_sourceMap (root : Node) (steps : List Step) :
    root.sourceMap.locate (some (pathText steps)) =
      { yamlPath := some (pathText steps)
        line := (root.placeOf steps).1
        column := (root.placeOf steps).2 } := by
  unfold SourceMap.locate Node.placeOf
  rw [Option.bind_some, root.get?_sourceMap]

end ProtoCheck.Yaml
