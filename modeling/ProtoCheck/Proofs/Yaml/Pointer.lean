import Mathlib.Data.List.Sigma
import ProtoCheck.Proofs.Text.Replace
import ProtoCheck.Proofs.Yaml.Positions

/-!
# One entry for each node

In a finite tree in which no mapping has two keys of one text, steps lead to one node at most, and
two nodes have different paths. A path has the tokens of its steps, each behind a slash; a tilde in
a key is replaced first, and then a slash.

* `Node.Leads`, `Node.leads_cons_iff` : where steps lead, `Node.mem_positions_iff` : the positions
  are those of the nodes that steps lead to;
* `Node.DistinctKeys`, `Node.DistinctKeys.children_induction` : trees without repeated keys;
* `Node.DistinctKeys.texts_injective`, `Node.DistinctKeys.nodup_texts` : two nodes of one differ in
  the texts of the steps to them, and so do two of its positions;
* `Step.token`, `pointer`, `pathText_eq_pointer` : the tokens of a path;
* `sourceMap_exact` : the source map of a tree without repeated keys.
-/

namespace ProtoCheck.Yaml

open Text

/-! ## Where steps lead -/

/-- Steps that lead from a node to one below it: a key to its value, an index to the item there. -/
inductive Node.Leads : Node → List Step → Node → Prop where
  | here {n : Node} : n.Leads [] n
  | key {tag : String} {pairs : List (Node × Node)} {start : Mark} {k v x : Node}
      {steps : List Step} (hp : (k, v) ∈ pairs) (hx : v.Leads steps x) :
      (Node.mapping tag pairs start).Leads (.key k.keyText :: steps) x
  | index {tag : String} {items : List Node} {start : Mark} {i : Nat} {y x : Node}
      {steps : List Step} (hi : items[i]? = some y) (hx : y.Leads steps x) :
      (Node.sequence tag items start).Leads (.index i :: steps) x

theorem Node.leads_nil_iff {n x : Node} : n.Leads [] x ↔ x = n := by
  constructor
  · rintro ⟨⟩
    rfl
  · rintro rfl
    exact .here

/-- The first step leads to a child. -/
theorem Node.leads_cons_iff {n x : Node} {s : Step} {steps : List Step} :
    n.Leads (s :: steps) x ↔ ∃ c, (s, c) ∈ n.children ∧ c.Leads steps x := by
  constructor
  · rintro (_ | ⟨hp, hx⟩ | ⟨hi, hx⟩)
    · exact ⟨_, List.mem_map.2 ⟨_, hp, rfl⟩, hx⟩
    · exact ⟨_, List.mem_map.2 ⟨_, List.mk_mem_zipIdx_iff_getElem?.2 hi, rfl⟩, hx⟩
  · rintro ⟨c, hc, hx⟩
    cases n with
    | scalar | knot => exact nomatch hc
    | sequence tag items m =>
      obtain ⟨⟨y, i⟩, hi, he⟩ := List.mem_map.1 hc
      obtain ⟨rfl, rfl⟩ := Prod.mk.inj he
      exact .index (List.mk_mem_zipIdx_iff_getElem?.1 hi) hx
    | mapping tag pairs m =>
      obtain ⟨⟨k, v⟩, hp, he⟩ := List.mem_map.1 hc
      obtain ⟨rfl, rfl⟩ := Prod.mk.inj he
      exact .key hp hx

theorem mem_childPositions_iff {c : Step × Node} {steps : List Step} {m : Mark} :
    (steps, m) ∈ childPositions c ↔ ∃ rest, steps = c.1 :: rest ∧ (rest, m) ∈ c.2.positions [] := by
  unfold childPositions
  rw [List.mem_map]
  constructor
  · rintro ⟨⟨rest, place⟩, he, heq⟩
    obtain ⟨rfl, rfl⟩ := Prod.mk.inj heq
    exact ⟨rest, rfl, he⟩
  · rintro ⟨rest, rfl, he⟩
    exact ⟨_, he, rfl⟩

/-- The positions are the places of the nodes to which steps lead. -/
theorem Node.mem_positions_iff {n : Node} {steps : List Step} {m : Mark} :
    (steps, m) ∈ n.positions [] ↔ ∃ x, n.Leads steps x ∧ m = x.start := by
  induction steps generalizing n with
  | nil =>
    rw [n.positions_eq_cons, List.mem_cons, List.mem_flatMap]
    simp [leads_nil_iff, mem_childPositions_iff]
  | cons s steps ih =>
    rw [n.positions_eq_cons, List.mem_cons, List.mem_flatMap]
    simp only [mem_childPositions_iff, leads_cons_iff]
    constructor
    · rintro (he | ⟨⟨t, c⟩, hc, rest, he, hrest⟩)
      · exact nomatch (Prod.mk.inj he).1
      · obtain ⟨rfl, rfl⟩ := List.cons.inj he
        obtain ⟨x, hx, hm⟩ := ih.1 hrest
        exact ⟨x, ⟨c, hc, hx⟩, hm⟩
    · rintro ⟨x, ⟨c, hc, hx⟩, hm⟩
      exact .inr ⟨(s, c), hc, steps, rfl, ih.2 ⟨x, hx, hm⟩⟩

/-! ## Trees without repeated keys -/

/-- A finite tree whose mappings have keys of pairwise different texts, whatever nodes they are. -/
inductive Node.DistinctKeys : Node → Prop where
  | scalar {tag text : String} {start : Mark} : DistinctKeys (.scalar tag text start)
  | sequence {tag : String} {items : List Node} {start : Mark}
      (hitems : ∀ n ∈ items, n.DistinctKeys) : DistinctKeys (.sequence tag items start)
  | mapping {tag : String} {pairs : List (Node × Node)} {start : Mark}
      (hkeys : (pairs.map fun p => p.1.keyText).Nodup)
      (hvalues : ∀ p ∈ pairs, p.2.DistinctKeys) : DistinctKeys (.mapping tag pairs start)

theorem anyEndless_eq_any (items : List Node) : anyEndless items = items.any Node.isEndless := by
  induction items with
  | nil => rfl
  | cons n rest ih => rw [anyEndless, ih, List.any_cons]

theorem anyValueEndless_eq_any (pairs : List (Node × Node)) :
    anyValueEndless pairs = pairs.any fun p => p.2.isEndless := by
  induction pairs with
  | nil => rfl
  | cons p rest ih => rw [anyValueEndless, ih, List.any_cons]

namespace Node.DistinctKeys

/-- Such a tree is built from nodes whose children have steps of different texts. -/
@[elab_as_elim]
theorem children_induction {motive : Node → Prop} {root : Node} (h : root.DistinctKeys)
    (step : ∀ n : Node, (n.children.map fun c => c.1.text).Nodup →
      (∀ c ∈ n.children, motive c.2) → motive n) : motive root := by
  induction h with
  | scalar => exact step _ List.nodup_nil fun c hc => nomatch hc
  | sequence hitems ih =>
    rename_i tag items start
    apply step
    · have htexts : ((Node.sequence tag items start).children.map fun c => c.1.text) =
          (items.zipIdx.map Prod.snd).map fun i => (Step.index i).text := by
        simp only [Node.children, List.map_map, Function.comp_def]
      rw [htexts]
      exact (List.nodup_zipIdx_map_snd items).map fun i j => index_text_injective
    · intro c hc
      obtain ⟨x, hx, rfl⟩ := List.mem_map.1 hc
      exact ih x.1 (List.fst_mem_of_mem_zipIdx hx)
  | mapping hkeys hvalues ih =>
    rename_i tag pairs start
    apply step
    · have htexts : ((Node.mapping tag pairs start).children.map fun c => c.1.text) =
          (pairs.map fun p => p.1.keyText).map fun k => (Step.key k).text := by
        simp [Node.children, Function.comp_def]
      rw [htexts]
      exact hkeys.map fun a b => key_text_injective
    · intro c hc
      obtain ⟨p, hp, rfl⟩ := List.mem_map.1 hc
      exact ih p hp

variable {root : Node} (h : root.DistinctKeys)
include h

/-- The texts of the steps tell the steps and the node. -/
theorem texts_injective (a b : List Step) (n m : Node) (ha : root.Leads a n)
    (hb : root.Leads b m) (htexts : a.map Step.text = b.map Step.text) : a = b ∧ n = m := by
  revert a b n m
  refine h.children_induction fun root hnodup ih a b n m ha hb htexts => ?_
  cases a with
  | nil =>
    obtain rfl := List.map_eq_nil_iff.1 htexts.symm
    rw [leads_nil_iff.1 ha, leads_nil_iff.1 hb]
    exact ⟨rfl, rfl⟩
  | cons s a =>
    cases b with
    | nil => exact nomatch htexts
    | cons t b =>
      obtain ⟨hst, hrest⟩ := List.cons.inj htexts
      obtain ⟨c, hc, ha⟩ := leads_cons_iff.1 ha
      obtain ⟨d, hd, hb⟩ := leads_cons_iff.1 hb
      -- two children whose steps have one text are the same
      obtain ⟨rfl, rfl⟩ := Prod.mk.inj (List.inj_on_of_nodup_map hnodup hc hd hst)
      obtain ⟨rfl, rfl⟩ := ih _ hc a b n m ha hb hrest
      exact ⟨rfl, rfl⟩

/-- No two positions have steps of the same texts. -/
theorem nodup_texts : ((root.positions []).map fun e => e.1.map Step.text).Nodup := by
  refine h.children_induction fun root hnodup ih => ?_
  rw [root.positions_eq_cons, List.map_cons, List.nodup_cons]
  constructor
  · simp [childPositions]
  · rw [List.map_flatMap, List.nodup_flatMap]
    constructor
    · intro c hc
      have hcons : (childPositions c).map (fun e => e.1.map Step.text) =
          ((c.2.positions []).map fun e => e.1.map Step.text).map (c.1.text :: ·) := by
        simp [childPositions, Function.comp_def]
      rw [hcons]
      exact (ih c hc).map fun _ _ he => (List.cons.inj he).2
    · -- the texts below two children differ in the first one
      apply (List.pairwise_map.1 hnodup).imp
      intro c d hne texts hc hd
      simp only [childPositions, List.map_map, List.mem_map, Function.comp_def] at hc hd
      obtain ⟨e, -, rfl⟩ := hc
      obtain ⟨f, -, he⟩ := hd
      exact hne (List.cons.inj he).1.symm

theorem isEndless_eq_false : root.isEndless = false := by
  induction h with
  | scalar => rfl
  | sequence _ ih =>
    rw [Node.isEndless, anyEndless_eq_any, List.any_eq_false]
    intro n hn
    rw [ih n hn]
    exact Bool.false_ne_true
  | mapping _ _ ih =>
    rw [Node.isEndless, anyValueEndless_eq_any, List.any_eq_false]
    intro p hp
    rw [ih p hp]
    exact Bool.false_ne_true

end Node.DistinctKeys

/-! ## Tokens -/

/-- A step as a token of a path: in a key the tildes are replaced first, and then the slashes. -/
def Step.token : Step → List Char
  | .key k => replaceAll ['/'] ['~', '1'] (replaceAll ['~'] ['~', '0'] k.toList)
  | .index i => (toString i).toList

/-- The tokens of steps, each behind a slash. -/
def pointer (steps : List Step) : String := String.ofList (steps.flatMap fun s => '/' :: s.token)

theorem Step.token_eq (s : Step) : s.token = s.text.toList := by
  cases s with
  | index i => rfl
  | key k =>
    rw [toList_key_text, token, replaceAll_singleton, replaceAll_singleton, List.flatMap_assoc]
    congr 1
    funext c
    unfold keyChar
    split_ifs with htilde hslash
    · rfl
    · rw [hslash]
      rfl
    · simp [hslash]

theorem pathText_eq_pointer (steps : List Step) : pathText steps = pointer steps := by
  apply String.toList_injective
  unfold pointer
  rw [String.toList_ofList]
  induction steps with
  | nil => rfl
  | cons s steps ih =>
    rw [toList_pathText_cons, ih, List.flatMap_cons, s.token_eq, List.cons_append]

/-! ## The source map -/

/-- An entry whose path no other one has is found by it. -/
theorem get?_of_mem {m : SourceMap} (h : (m.map (·.1)).Nodup) {path : String}
    {place : Option Int × Option Int} (he : (path, place) ∈ m) : m.get? path = some place := by
  have hfound : (m.reverse.find? fun e => e.1 == path).isSome := by
    rw [List.find?_isSome]
    exact ⟨_, List.mem_reverse.2 he, beq_self_eq_true path⟩
  obtain ⟨e, hfind⟩ := Option.isSome_iff_exists.1 hfound
  have hmem := List.mem_reverse.1 (List.mem_of_find?_eq_some hfind)
  have hpath : e.1 = path := by simpa using List.find?_some hfind
  unfold SourceMap.get?
  rw [hfind, List.inj_on_of_nodup_map h hmem he hpath]
  rfl

/-- **A source map has one entry for each node.** A text whose tree is finite and has no repeated
keys has a source map with entries for the root, each value and each item, and no others: the nodes
to which steps lead, each under the tokens of its steps and at its own place, and no two of them
under the same path. -/
theorem sourceMap_exact {root : Node} (h : root.DistinctKeys) :
    (∀ text, Node.ofText? text = .ok (some root) → sourceMap? text = .ok root.sourceMap) ∧
    (root.sourceMap.map (·.1)).Nodup ∧
    (∀ path place, (path, place) ∈ root.sourceMap ↔
      ∃ steps n, root.Leads steps n ∧ path = pointer steps ∧ place = n.start.shownPlace) ∧
    (∀ steps n, root.Leads steps n →
      root.sourceMap.get? (pointer steps) = some n.start.shownPlace) ∧
    ∀ a b n m, root.Leads a n → root.Leads b m → pointer a = pointer b → a = b ∧ n = m := by
  have hnodup : (root.sourceMap.map (·.1)).Nodup := by
    unfold Node.sourceMap
    rw [List.map_map]
    apply List.pairwise_map.2
    apply (List.pairwise_map.1 h.nodup_texts).imp
    intro e f hne hpath
    exact hne (pathText_eq_iff.1 hpath)
  have hentry : ∀ path place, (path, place) ∈ root.sourceMap ↔
      ∃ steps n, root.Leads steps n ∧ path = pointer steps ∧ place = n.start.shownPlace := by
    intro path place
    unfold Node.sourceMap
    rw [List.mem_map]
    constructor
    · rintro ⟨⟨steps, m⟩, he, heq⟩
      obtain ⟨rfl, rfl⟩ := Prod.mk.inj heq
      obtain ⟨n, hn, rfl⟩ := Node.mem_positions_iff.1 he
      exact ⟨steps, n, hn, pathText_eq_pointer steps, rfl⟩
    · rintro ⟨steps, n, hn, rfl, rfl⟩
      refine ⟨(steps, n.start), Node.mem_positions_iff.2 ⟨n, hn, rfl⟩, ?_⟩
      rw [← pathText_eq_pointer]
      rfl
  refine ⟨fun text htext => sourceMap?_of_root htext h.isEndless_eq_false, hnodup, hentry,
    fun steps n hn => ?_, fun a b n m ha hb hab => ?_⟩
  · exact get?_of_mem hnodup ((hentry _ _).2 ⟨steps, n, hn, rfl, rfl⟩)
  · rw [← pathText_eq_pointer, ← pathText_eq_pointer] at hab
    exact h.texts_injective a b n m ha hb (pathText_eq_iff.1 hab)

/-- A document with a slash and a tilde in its keys, and with keys that are empty and a number. -/
def slashed : String := "a/b: [x, \x7b'': y\x7d]\na~1b: \x7b1: z\x7d\n"

def slashedItem : Node :=
  .mapping Tag.map [(.scalar Tag.str "" ⟨10, 0, 10⟩, .scalar Tag.str "y" ⟨14, 0, 14⟩)] ⟨9, 0, 9⟩

def slashedList : Node := .sequence Tag.seq [.scalar Tag.str "x" ⟨6, 0, 6⟩, slashedItem] ⟨5, 0, 5⟩

def slashedMapping : Node :=
  .mapping Tag.map [(.scalar Tag.int "1" ⟨25, 1, 7⟩, .scalar Tag.str "z" ⟨28, 1, 10⟩)] ⟨24, 1, 6⟩

def slashedRoot : Node :=
  .mapping Tag.map
    [(.scalar Tag.str "a/b" ⟨0, 0, 0⟩, slashedList),
      (.scalar Tag.str "a~1b" ⟨18, 1, 0⟩, slashedMapping)] ⟨0, 0, 0⟩

theorem distinctKeys_slashed : slashedRoot.DistinctKeys := by
  have hitem : slashedItem.DistinctKeys := by
    apply Node.DistinctKeys.mapping (by decide)
    exact List.forall_mem_singleton.2 .scalar
  have hlist : slashedList.DistinctKeys := by
    apply Node.DistinctKeys.sequence
    exact List.forall_mem_cons.2 ⟨.scalar, List.forall_mem_singleton.2 hitem⟩
  have hmapping : slashedMapping.DistinctKeys := by
    apply Node.DistinctKeys.mapping (by decide)
    exact List.forall_mem_singleton.2 .scalar
  apply Node.DistinctKeys.mapping (by decide)
  exact List.forall_mem_cons.2 ⟨hlist, List.forall_mem_singleton.2 hmapping⟩

/-- Each value is found in its own line, though the second key is spelled as the first one is in a
path. -/
theorem sourceMap_exact_slashed :
    Node.ofText? slashed.toList = .ok (some slashedRoot) ∧
    sourceMap? slashed.toList = .ok slashedRoot.sourceMap ∧ slashedRoot.sourceMap.length = 7 ∧
    slashedRoot.sourceMap.get? "/a~1b/1/" = some (some 1, some 15) ∧
    slashedRoot.sourceMap.get? "/a~01b/1" = some (some 2, some 11) := by
  obtain ⟨hmap, -, -, hget, -⟩ := sourceMap_exact distinctKeys_slashed
  have hroot : Node.ofText? slashed.toList = .ok (some slashedRoot) := by decide +kernel
  have hempty : slashedRoot.Leads [.key "a/b", .index 1, .key ""]
      (.scalar Tag.str "y" ⟨14, 0, 14⟩) :=
    Node.leads_cons_iff.2 ⟨slashedList, .head _,
      Node.leads_cons_iff.2 ⟨slashedItem, .tail _ (.head _),
        Node.leads_cons_iff.2 ⟨_, .head _, .here⟩⟩⟩
  have hnumber : slashedRoot.Leads [.key "a~1b", .key "1"] (.scalar Tag.str "z" ⟨28, 1, 10⟩) :=
    Node.leads_cons_iff.2 ⟨slashedMapping, .tail _ (.head _),
      Node.leads_cons_iff.2 ⟨_, .head _, .here⟩⟩
  exact ⟨hroot, hmap _ hroot, by decide +kernel, hget _ _ hempty, hget _ _ hnumber⟩

end ProtoCheck.Yaml
