import Mathlib.Data.List.Induction
import ProtoCheck.Proofs.Yaml.Positions
import ProtoCheck.Yaml.Data.OfNode

/-!
# Data and the nodes that it is made of

A mapping keeps the last value that a key is given. Texts are made of scalars, and of mappings with
a value that stands for them; lists that hold something are made of sequences.

* `Data.sameKey_text_iff`, `Data.text_sameKey_iff` : a text is the same key as itself only;
* `get?_given` : the last value of a key prevails, `eq_text_of_given` : no key is lost;
* `Node.Makes`, `Node.makes` : what the data of a node can be, `exists_pairs_of_ofNode?`,
  `exists_nodes_of_made`, `Node.made_eq_text` : the nodes of mappings, lists and texts;
* `Node.keyData`, `Node.keyData_eq_text` : the data of a key, and when it is a text;
* `Node.pairOf?`, `get?_of_ofNode?` : the pair of a key in force, whose value the data has;
* `Node.at?` : the node whose data is at a path, `Node.marked?_of_at?`,
  `Node.marked?_key_of_isScalar` : when it is the one that a source map has.
-/

namespace ProtoCheck.Yaml

open Text

/-! ## Keys -/

theorem Data.sameKey_text_iff {a : Data} {s : String} :
    a.sameKey (.text s) = true ↔ a = .text s := by
  unfold Data.sameKey
  rw [show (Data.text s).ratio? = none from rfl]
  cases a with
  | text t => simp [Data.ratio?]
  | real x =>
    unfold Data.ratio?
    split <;> simp_all
  | _ => simp [Data.ratio?]

theorem Data.text_sameKey_iff {a : Data} {s : String} :
    (Data.text s).sameKey a = true ↔ a = .text s := by
  unfold Data.sameKey
  rw [show (Data.text s).ratio? = none from rfl]
  cases a with
  | text t =>
    simp only [Data.ratio?, beq_iff_eq, Data.text.injEq]
    exact eq_comm
  | real x =>
    unfold Data.ratio?
    split <;> simp_all
  | _ => simp [Data.ratio?]

theorem Data.get?_cons (key : String) (p : Data × Data) (rest : List (Data × Data)) :
    (Data.mapping (p :: rest)).get? key =
      if p.1.sameKey (.text key) then some p.2 else (Data.mapping rest).get? key := by
  unfold Data.get?
  dsimp only
  rw [List.find?_cons]
  cases p.1.sameKey (.text key) <;> rfl

section Pairs
variable (key : String) (k v : Data) (ps : List (Data × Data))

theorem get?_setPair : (Data.mapping (setPair k v ps)).get? key =
    if k.sameKey (.text key) then some v else (Data.mapping ps).get? key := by
  induction ps with
  | nil => rw [setPair, Data.get?_cons]
  | cons p rest ih =>
    rw [setPair]
    by_cases hsame : p.1.sameKey k = true
    · -- the pair keeps its key, which is the text that is looked up if the new key is
      have hkeys : p.1.sameKey (.text key) = k.sameKey (.text key) := by
        rw [Bool.eq_iff_iff, Data.sameKey_text_iff, Data.sameKey_text_iff]
        constructor
        · intro hp
          rwa [hp, Data.text_sameKey_iff] at hsame
        · intro hk
          rwa [hk, Data.sameKey_text_iff] at hsame
      rw [if_pos hsame, Data.get?_cons, Data.get?_cons, hkeys]
      cases k.sameKey (.text key) <;> rfl
    · rw [if_neg hsame, Data.get?_cons, Data.get?_cons, ih]
      by_cases hp : p.1.sameKey (.text key) = true
      · have hk : ¬ k.sameKey (.text key) = true := by
          intro hk
          rw [Data.sameKey_text_iff.1 hk] at hsame
          exact hsame hp
        rw [if_pos hp, if_pos hp, if_neg hk]
      · rw [if_neg hp, if_neg hp]

theorem mem_keys_setPair {a : Data} (h : a ∈ ps.map (·.1)) : a ∈ (setPair k v ps).map (·.1) := by
  induction ps with
  | nil => exact absurd h List.not_mem_nil
  | cons p rest ih =>
    rw [setPair]
    rw [List.map_cons, List.mem_cons] at h
    split
    · exact List.mem_cons.2 h
    · exact List.mem_cons.2 (h.imp_right ih)

/-- A key that is given is there, in itself or as one that is the same. -/
theorem exists_key_setPair : ∃ a ∈ (setPair k v ps).map (·.1), a = k ∨ a.sameKey k = true := by
  induction ps with
  | nil => exact ⟨k, List.mem_singleton_self k, .inl rfl⟩
  | cons p rest ih =>
    rw [setPair]
    split
    · rename_i hsame
      exact ⟨p.1, List.mem_cons_self, .inr hsame⟩
    · obtain ⟨a, ha, hak⟩ := ih
      exact ⟨a, List.mem_cons_of_mem _ ha, hak⟩

end Pairs

/-- The pairs of a mapping that entries give, one after the other. -/
def given (es : List Entry) : List (Data × Data) :=
  es.foldl (fun ps e => setPair e.key.data e.value.data ps) []

theorem given_concat (es : List Entry) (e : Entry) :
    given (es ++ [e]) = setPair e.key.data e.value.data (given es) := by
  unfold given
  rw [List.foldl_append, List.foldl_cons, List.foldl_nil]

/-- The last value of a key prevails. -/
theorem get?_given (es : List Entry) (key : String) : (Data.mapping (given es)).get? key =
    (es.reverse.find? fun e => e.key.data.sameKey (.text key)).map (·.value.data) := by
  induction es using List.reverseRecOn with
  | nil => rfl
  | append_singleton es e ih =>
    rw [given_concat, get?_setPair, List.reverse_append, List.reverse_singleton,
      List.singleton_append, List.find?_cons, ih]
    cases e.key.data.sameKey (.text key) <;> rfl

/-- Where all keys of a mapping are texts, so are the keys that it was given. -/
theorem eq_text_of_given {es : List Entry} {names : List String}
    (h : ∀ a ∈ (given es).map (·.1), ∃ name ∈ names, a = .text name) {e : Entry} (he : e ∈ es) :
    ∃ name ∈ names, e.key.data = .text name := by
  induction es using List.reverseRecOn with
  | nil => exact absurd he List.not_mem_nil
  | append_singleton es f ih =>
    rw [given_concat] at h
    rcases List.mem_append.1 he with he | he
    · -- the keys in front are still there behind the last entry
      exact ih (fun a ha => h a (mem_keys_setPair _ _ _ ha)) he
    · rw [List.mem_singleton.1 he]
      obtain ⟨a, ha, hak⟩ := exists_key_setPair f.key.data f.value.data (given es)
      obtain ⟨name, hname, rfl⟩ := h a ha
      exact ⟨name, hname, hak.elim Eq.symm Data.text_sameKey_iff.1⟩

/-! ## Data of scalars -/

/-- Data that a scalar with a text can have: no collection, and no other text. -/
def Data.IsOf (text : String) (d : Data) : Prop := d.isKey = true ∧ ∀ s, d = .text s → s = text

theorem ok_map_cases {ε α β : Type} {a : Except ε α} {f : α → β} {b : β} (h : a.map f = .ok b) :
    ∃ x, f x = b := by
  cases a with
  | error e => exact nomatch h
  | ok x => exact ⟨x, Except.ok.inj h⟩

theorem isOf_scalarData {tag text : String} {place : Mark} {d : Data}
    (h : scalarData tag text place = .ok d) : d.IsOf text := by
  unfold scalarData at h
  dsimp only at h
  split_ifs at h
  · cases h
    exact ⟨rfl, nofun⟩
  · unfold boolOf at h
    dsimp only at h
    split_ifs at h <;> cases h <;> exact ⟨rfl, nofun⟩
  · unfold intOf at h
    split at h
    · exact nomatch h
    · obtain ⟨n, rfl⟩ := ok_map_cases h
      exact ⟨rfl, nofun⟩
  · unfold floatOf at h
    split at h
    · exact nomatch h
    · obtain ⟨x, rfl⟩ := ok_map_cases h
      exact ⟨rfl, nofun⟩
  · unfold binaryOf at h
    split at h
    · exact nomatch h
    · split at h <;> cases h
      exact ⟨rfl, nofun⟩
  · unfold timestampOf Stamp.data? at h
    dsimp only at h
    split at h
    · exact nomatch h
    · split at h
      · rename_i hd
        cases h
        split at hd <;> split_ifs at hd <;> cases hd <;> exact ⟨rfl, nofun⟩
      · exact nomatch h
  · cases h
    exact ⟨rfl, fun s hs => (Data.text.inj hs).symm⟩

theorem isKey_mappingAsScalar {tag : String} {n : Node} {d : Data}
    (h : mappingAsScalar tag n = .ok d) : d.isKey = true := by
  unfold mappingAsScalar at h
  cases ht : n.text? with
  | error p =>
    rw [ht] at h
    exact nomatch h
  | ok text =>
    rw [ht] at h
    change (if tag == Tag.timestamp then breakdown .yamlKind else scalarData tag text n.start) =
      .ok d at h
    split at h
    · exact nomatch h
    · exact (isOf_scalarData h).1

/-! ## Data of nodes -/

theorem length_madeItems (items : List Node) : (madeItems items).length = items.length := by
  induction items with
  | nil => rfl
  | cons n rest ih => rw [madeItems, List.length_cons, List.length_cons, ih]

theorem length_madePairs (context : String) (start : Mark) (items : List Node) :
    (madePairs context start items).length = items.length := by
  induction items with
  | nil => rfl
  | cons n rest ih => simp only [madePairs, List.length_cons, ih]

/-- What the data of a node can be. A node with a problem has data that holds nothing. -/
inductive Node.Makes : Node → Data → Prop
  | nothing {n : Node} {p : Problem} {d : Data} : n.made.rounds.first? = some p →
      d ∈ [.null, .list [], .set [], .mapping []] → Makes n d
  | scalar {tag text : String} {m : Mark} {d : Data} : d.IsOf text → Makes (.scalar tag text m) d
  | standing {tag : String} {pairs : List (Node × Node)} {m : Mark} {d : Data} :
      d.isKey = true → Makes (.mapping tag pairs m) d
  | list {tag : String} {nodes : List Node} {m : Mark} {items : List Data} :
      nodes.length = items.length → Makes (.sequence tag nodes m) (.list items)
  | set {tag : String} {pairs : List (Node × Node)} {m : Mark} {items : List Data} :
      Makes (.mapping tag pairs m) (.set items)
  | mapping {pairs : List (Node × Node)} {m : Mark} :
      Makes (.mapping Tag.map pairs m) (.mapping (given (mergedPairs m pairs).entries))
  | knot {isMapping : Bool} {m : Mark} {d : Data} : d ∈ [.list [], .mapping []] →
      Makes (.knot isMapping m) d

section Makes
variable {n : Node}

theorem Node.makes_ofAttempt {a : Attempt Data} (hn : n.made = .ofAttempt a)
    (h : ∀ d, a = .ok d → n.Makes d) : n.Makes n.made.data := by
  cases a with
  | error p =>
    refine .nothing (p := p) ?_ ?_
    · rw [hn]
      rfl
    · rw [hn]
      exact List.mem_cons_self
  | ok d =>
    rw [hn]
    exact h d rfl

theorem Node.makes_failed {p : Problem} (hn : n.made = .failed p) : n.Makes n.made.data := by
  refine .nothing (p := p) ?_ ?_
  · rw [hn]
    rfl
  · rw [hn]
    exact List.mem_cons_self

theorem Node.makes_unfilled {tag : String} {p : Problem}
    (hn : n.made = .unfilled (emptyCollection tag) p) : n.Makes n.made.data := by
  refine .nothing (p := p) ?_ ?_
  · rw [hn]
    rfl
  · rw [hn]
    unfold Made.unfilled emptyCollection
    dsimp only
    split_ifs <;> simp

end Makes

/-- The data of every node is of one of these forms. -/
theorem Node.makes (n : Node) : n.Makes n.made.data := by
  -- each kind of node looks at its tag: the types of scalars first, then those of collections
  cases hn : n with
  | scalar tag text m =>
    by_cases hscalar : isScalarTag tag = true
    · refine makes_ofAttempt (by rw [made, if_pos hscalar]) fun d hd => ?_
      exact .scalar (isOf_scalarData hd)
    · by_cases hcollection : isCollectionTag tag = true
      · exact makes_unfilled (by rw [made, if_neg hscalar, if_pos hcollection])
      · exact makes_failed (by rw [made, if_neg hscalar, if_neg hcollection])
  | sequence tag nodes m =>
    by_cases hscalar : isScalarTag tag = true
    · exact makes_failed (by rw [made, if_pos hscalar])
    · by_cases hseq : (tag == Tag.seq) = true
      · rw [made, if_neg hscalar, if_pos hseq]
        exact .list (by rw [List.length_map, length_madeItems])
      · by_cases hpairs : (tag == Tag.omap || tag == Tag.pairs) = true
        · rw [made, if_neg hscalar, if_neg hseq, if_pos hpairs]
          exact .list (by rw [List.length_map, length_madePairs])
        · by_cases hcollection : isCollectionTag tag = true
          · exact makes_unfilled
              (by rw [made, if_neg hscalar, if_neg hseq, if_neg hpairs, if_pos hcollection])
          · exact makes_failed
              (by rw [made, if_neg hscalar, if_neg hseq, if_neg hpairs, if_neg hcollection])
  | mapping tag pairs m =>
    by_cases hscalar : isScalarTag tag = true
    · refine makes_ofAttempt (by rw [made, if_pos hscalar]) fun d hd => ?_
      exact .standing (isKey_mappingAsScalar hd)
    · by_cases hmapping : (tag == Tag.map || tag == Tag.set) = true
      · rw [made, if_neg hscalar, if_pos hmapping]
        by_cases htag : tag = Tag.map
        · subst htag
          exact .mapping
        · have hne : ¬ (tag == Tag.map) = true := by simpa using htag
          dsimp only
          rw [if_neg hne]
          exact .set
      · by_cases hcollection : isCollectionTag tag = true
        · exact makes_unfilled (by rw [made, if_neg hscalar, if_neg hmapping, if_pos hcollection])
        · exact makes_failed (by rw [made, if_neg hscalar, if_neg hmapping, if_neg hcollection])
  | knot isMapping m =>
    refine .knot ?_
    cases isMapping <;> simp [made]

/-- Only a mapping of the usual type is made into a mapping. -/
theorem exists_pairs_of_ofNode? {root : Node} {ps : List (Data × Data)}
    (h : Data.ofNode? root = .ok (.mapping ps)) (hend : root.isEndless = false) :
    ∃ pairs m, root = .mapping Tag.map pairs m ∧ ps = given (mergedPairs m pairs).entries := by
  obtain ⟨hfirst, hdata⟩ : root.made.rounds.first? = none ∧ root.made.data = .mapping ps := by
    unfold Data.ofNode? at h
    dsimp only at h
    split at h
    · exact nomatch h
    · rename_i hfirst
      exact ⟨hfirst, Except.ok.inj h⟩
  have hmakes := root.makes
  rw [hdata] at hmakes
  cases hmakes with
  | nothing hp => exact nomatch hfirst.symm.trans hp
  | scalar hd => exact nomatch hd.1
  | standing hd => exact nomatch hd
  | mapping => exact ⟨_, _, rfl, rfl⟩
  | knot => exact nomatch hend

/-- A list that holds something is made of a sequence, item by item. -/
theorem exists_nodes_of_made {n : Node} {items : List Data} (h : n.made.data = .list items)
    (hne : items ≠ []) :
    ∃ tag nodes m, n = .sequence tag nodes m ∧ nodes.length = items.length := by
  have hmakes := n.makes
  rw [h] at hmakes
  cases hmakes with
  | nothing _ hd => simp [hne] at hd
  | scalar hd => exact nomatch hd.1
  | standing hd => exact nomatch hd
  | list hlen => exact ⟨_, _, _, rfl, hlen⟩
  | knot hd => simp [hne] at hd

/-- A text is made of a scalar, which has no other text, or of a mapping that stands for it. -/
theorem Node.made_eq_text {n : Node} {s : String} (h : n.made.data = .text s) :
    (∃ tag m, n = .scalar tag s m) ∨ ∃ tag pairs m, n = .mapping tag pairs m := by
  have hmakes := n.makes
  rw [h] at hmakes
  cases hmakes with
  | nothing _ hd => simp at hd
  | scalar hd => exact .inl ⟨_, _, by rw [hd.2 s rfl]⟩
  | standing => exact .inr ⟨_, _, _, rfl⟩
  | knot hd => simp at hd

/-! ## Keys of nodes -/

namespace Node

def isScalar : Node → Bool
  | .scalar .. => true
  | _ => false

/-- A key of a mapping as it is made. One whose tag says that it stands for a value is a text. -/
def keyMade (k : Node) : Made :=
  if k.tag == Tag.value then .ofAttempt (k.text?.map Data.text) else k.made

def keyData (k : Node) : Data := k.keyMade.data

/-- The keys that are texts: scalars, each the text of its own, and mappings that stand for one. -/
theorem keyData_eq_text {k : Node} {s : String} (h : k.keyData = .text s) :
    (∃ tag m, k = .scalar tag s m) ∨ ∃ tag pairs m, k = .mapping tag pairs m := by
  unfold keyData keyMade at h
  split_ifs at h
  · cases k with
    | scalar tag text m =>
      cases h
      exact .inl ⟨tag, m, rfl⟩
    | sequence tag items m => exact nomatch h
    | mapping tag pairs m => exact .inr ⟨tag, pairs, m, rfl⟩
    | knot isMapping m => exact nomatch h
  · exact made_eq_text h

theorem keyText_eq_of_isScalar {k : Node} {s : String} (h : k.keyData = .text s)
    (hk : k.isScalar = true) : k.keyText = s := by
  rcases keyData_eq_text h with ⟨tag, m, rfl⟩ | ⟨tag, pairs, m, rfl⟩
  · rfl
  · exact nomatch hk

/-- A mapping that stands for a text is shown in brackets. -/
theorem head?_keyText {k : Node} {s : String} (h : k.keyData = .text s)
    (hk : k.isScalar ≠ true) : k.keyText.toList.head? = some '[' := by
  rcases keyData_eq_text h with ⟨tag, m, rfl⟩ | ⟨tag, pairs, m, rfl⟩
  · exact absurd rfl hk
  · unfold keyText bracketed
    simp

def pairs : Node → List (Node × Node)
  | .mapping _ pairs _ => pairs
  | _ => []

/-- The pair of a key that is in force, which is the last one. -/
def pairOf? (n : Node) (key : String) : Option (Node × Node) :=
  n.pairs.reverse.find? fun p => p.1.keyData.sameKey (.text key)

theorem pairOf?_spec {n : Node} {key : String} {p : Node × Node} (h : n.pairOf? key = some p) :
    p ∈ n.pairs ∧ p.1.keyData = .text key := by
  unfold pairOf? at h
  have hkey := List.find?_some h
  exact ⟨List.mem_reverse.1 (List.mem_of_find?_eq_some h), Data.sameKey_text_iff.1 hkey⟩

/-- No key of a mapping is one that merges. -/
def Mergeless (n : Node) : Prop := ∀ p ∈ n.pairs, p.1.tag ≠ Tag.merge

instance (n : Node) : Decidable n.Mergeless :=
  inferInstanceAs (Decidable (∀ p ∈ n.pairs, p.1.tag ≠ Tag.merge))

end Node

/-- Without merge keys a mapping has its own pairs, one by one. -/
theorem mergedPairs_eq (start : Mark) {pairs : List (Node × Node)}
    (h : ∀ p ∈ pairs, p.1.tag ≠ Tag.merge) : mergedPairs start pairs =
      { own := pairs.map fun p => ⟨p.1.start, p.1.keyMade, p.2.made⟩ } := by
  induction pairs with
  | nil => rfl
  | cons p rest ih =>
    obtain ⟨hp, hrest⟩ := List.forall_mem_cons.1 h
    rw [mergedPairs, ih hrest, if_neg (by simpa using hp)]
    rfl

section Mergeless
variable {root : Node} {ps : List (Data × Data)} (h : Data.ofNode? root = .ok (.mapping ps))
  (hend : root.isEndless = false) (hmerge : root.Mergeless)
include h hend hmerge

theorem eq_given_of_ofNode? : ps = given (root.pairs.map fun p =>
    ⟨p.1.start, p.1.keyMade, p.2.made⟩) := by
  obtain ⟨pairs, m, rfl, hps⟩ := exists_pairs_of_ofNode? h hend
  rw [hps, show mergedPairs m pairs = _ from mergedPairs_eq m hmerge]
  rfl

/-- What a document has for a key is the value of the pair in force. -/
theorem get?_of_ofNode? (key : String) :
    (Data.mapping ps).get? key = (root.pairOf? key).map (·.2.made.data) := by
  rw [eq_given_of_ofNode? h hend hmerge, get?_given, ← List.map_reverse, List.find?_map,
    Option.map_map]
  rfl

/-- Where all keys of a document are texts, so are those of its nodes. -/
theorem eq_text_of_ofNode? {names : List String}
    (hkeys : ∀ a ∈ ps.map (·.1), ∃ name ∈ names, a = .text name) {p : Node × Node}
    (hp : p ∈ root.pairs) : ∃ name ∈ names, p.1.keyData = .text name := by
  rw [eq_given_of_ofNode? h hend hmerge] at hkeys
  exact eq_text_of_given hkeys (List.mem_map_of_mem hp)

end Mergeless

/-! ## Values at paths -/

namespace Node

/-- The node whose data is at a path: items by index, and of the values of a key the one in
force. -/
def at? : List Step → Node → Option Node
  | [], n => some n
  | .key key :: rest, n => (n.pairOf? key).bind fun p => at? rest p.2
  | .index i :: rest, .sequence _ items _ => items[i]?.bind (at? rest)
  | .index _ :: _, _ => none

theorem marked?_index (tag : String) (items : List Node) (m : Mark) (i : Nat) (rest : List Step) :
    (Node.sequence tag items m).marked? (.index i :: rest) =
      items[i]?.bind fun n => n.marked? rest := by
  unfold marked?
  rw [List.map_cons, reached_index]
  cases items[i]? <;> rfl

/-- Items are marked where they are. -/
theorem marked?_of_at? {steps : List Step} (hsteps : ∀ s ∈ steps, ∃ i, s = .index i) {n x : Node}
    (h : n.at? steps = some x) : n.marked? steps = some x := by
  induction steps generalizing n with
  | nil => simpa [marked?, reached, at?] using h
  | cons s rest ih =>
    obtain ⟨i, rfl⟩ := hsteps s List.mem_cons_self
    cases n with
    | sequence tag items m =>
      rw [at?] at h
      obtain ⟨item, hitem, hx⟩ := Option.bind_eq_some_iff.1 h
      rw [marked?_index, hitem, Option.bind_some]
      exact ih (fun t ht => hsteps t (List.mem_cons_of_mem _ ht)) hx
    | scalar | mapping | knot => exact absurd h (Option.some_ne_none x).symm

section Key
variable {tag key : String} {pairs : List (Node × Node)} {m : Mark} {rest : List Step}

theorem marked?_key : (Node.mapping tag pairs m).marked? (.key key :: rest) =
    ((pairs.filter fun p => p.1.keyText = key).flatMap fun p =>
      p.2.reached (rest.map Step.text)).getLast? := by
  unfold marked?
  rw [List.map_cons, reached_key]

/-- A node that is shown as a text without brackets is a scalar, and its data is no other text. -/
theorem isScalar_of_keyText {k : Node} {s : String} (hkey : key.toList.head? ≠ some '[')
    (ht : k.keyText = key) (hs : k.keyData = .text s) : k.isScalar = true ∧ s = key := by
  have hk : k.isScalar = true := by
    by_contra hk
    have hhead := head?_keyText hs hk
    rw [ht] at hhead
    exact hkey hhead
  exact ⟨hk, by rw [← keyText_eq_of_isScalar hs hk, ht]⟩

section Known
variable (hkey : key.toList.head? ≠ some '[') (htexts : ∀ p ∈ pairs, ∃ s, p.1.keyData = .text s)
include hkey htexts

/-- A value is marked where it is if its key is a scalar. -/
theorem marked?_key_of_isScalar {k v x : Node}
    (hp : (Node.mapping tag pairs m).pairOf? key = some (k, v)) (hk : k.isScalar = true)
    (hx : v.marked? rest = some x) :
    (Node.mapping tag pairs m).marked? (.key key :: rest) = some x := by
  obtain ⟨hmem, hdata⟩ := pairOf?_spec hp
  have hfind : pairs.reverse.find? (fun p => p.1.keyText = key) = some (k, v) := by
    unfold pairOf? at hp
    obtain ⟨-, front, behind, hsplit, hfront⟩ := List.find?_eq_some_iff_append.1 hp
    refine List.find?_eq_some_iff_append.2
      ⟨by simpa using keyText_eq_of_isScalar hdata hk, front, behind, hsplit, fun p hpf => ?_⟩
    -- a pair that is shown as the key also has its data, and so stands no later
    obtain ⟨s, hs⟩ := htexts p
      (List.mem_reverse.1 (hsplit ▸ List.mem_append_left _ hpf : p ∈ pairs.reverse))
    have hother := hfront p hpf
    simp only [Bool.not_eq_true', decide_eq_false_iff_not]
    intro ht
    obtain ⟨-, rfl⟩ := isScalar_of_keyText hkey ht hs
    rw [hs, Data.sameKey_text_iff.2 rfl] at hother
    exact nomatch hother
  have hlast : (pairs.filter fun p => p.1.keyText = key).getLast? = some (k, v) := by
    rw [← List.head?_reverse, ← List.filter_reverse, List.head?_filter, hfind]
  obtain ⟨front, hfront⟩ := List.getLast?_eq_some_iff.1 hlast
  unfold marked? at hx
  rw [marked?_key, hfront, List.flatMap_append, List.flatMap_singleton, List.getLast?_append, hx]
  rfl

/-- A key that no scalar is has no place. -/
theorem marked?_key_eq_none
    (h : ∀ p ∈ pairs, p.1.keyData = .text key → p.1.isScalar ≠ true) :
    (Node.mapping tag pairs m).marked? (.key key :: rest) = none := by
  have hnone : (pairs.filter fun p => p.1.keyText = key) = [] := by
    rw [List.filter_eq_nil_iff]
    intro p hp ht
    obtain ⟨s, hs⟩ := htexts p hp
    obtain ⟨hscalar, rfl⟩ := isScalar_of_keyText hkey (of_decide_eq_true ht) hs
    exact h p hp hs hscalar
  rw [marked?_key, hnone]
  rfl

end Known

end Key

end Node

end ProtoCheck.Yaml
