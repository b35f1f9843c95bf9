import Mathlib.Data.List.Permutation
import ProtoCheck.Proofs.Config.Unusable
import ProtoCheck.Proofs.Yaml.Data

/-!
# Where violations are located

A violation is reported with the path of the data that has it, and the source map of the document
tells the place. An unknown key is a violation of the mapping that holds it, so its place is that of
the mapping. A bad value is found where it stands if its key is a scalar; a key that is a mapping
and stands for a text has another text in the source map, and no place.

* `unknownKeys_eq_nil_iff`, `violation?_of_knownKeys` : the keys that have no violation, and the
  data that a reported one stands at;
* `violated`, `withFile_of_violation` : the failure of a file whose data breaks the rules;
* `withFile_unknownKey` : where an unknown key is located;
* `exists_node_of_violation`, `withFile_badValue` : where a bad value is located.
-/

namespace ProtoCheck

namespace Config

open Yaml

/-! ## Violations -/

section Violation
variable {ps : List (Data × Data)} {steps : List Step} {v : Violation}

theorem unknownKeys_eq_nil_iff :
    unknownKeys ps = [] ↔ ∀ a ∈ ps.map (·.1), ∃ name ∈ Settings.keys, a = .text name := by
  have hperm := List.mergeSort_perm
    ((ps.map (·.1)).filter fun k => !Settings.keys.any fun name => k.sameKey (.text name))
    fun a b => decide (a.asText ≤ b.asText)
  have hnil : unknownKeys ps = [] ↔ ((ps.map (·.1)).filter fun k =>
      !Settings.keys.any fun name => k.sameKey (.text name)) = [] :=
    ⟨fun h => List.nil_perm.1 (h ▸ hperm), fun h => List.perm_nil.1 (h ▸ hperm)⟩
  rw [hnil, List.filter_eq_nil_iff]
  simp only [Bool.not_eq_true', Bool.not_eq_false, List.any_eq_true, Data.sameKey_text_iff]

/-- Where all keys are known, the data with the violation is the value of a key, or an item of
it. -/
theorem violation?_of_knownKeys (hknown : unknownKeys ps = [])
    (h : violation? (.mapping ps) = some (steps, v)) :
    ∃ key d, (Data.mapping ps).get? key = some d ∧ (steps = [.key key] ∨
      ∃ items i, d = .list items ∧ i < items.length ∧ steps = [.key key, .index i]) := by
  unfold violation? at h
  dsimp only at h
  rw [if_neg (by simp [hknown]), Option.orElse_eq_or, Option.orElse_eq_or,
    Option.or_eq_some_iff, Option.or_eq_some_iff] at h
  rcases h with hformat | ⟨-, hlevel | ⟨-, hlist⟩⟩
  · obtain ⟨d, hd, -, hsteps⟩ := choiceViolation?_eq_some hformat
    exact ⟨_, d, hd, .inl hsteps⟩
  · obtain ⟨d, hd, -, hsteps⟩ := choiceViolation?_eq_some hlevel
    exact ⟨_, d, hd, .inl hsteps⟩
  · split at hlist
    · exact nomatch hlist
    · rename_i items hd
      obtain ⟨-, i, hi, hsteps⟩ := itemViolation?_eq_some hlist
      exact ⟨_, _, hd, .inr ⟨items, i, rfl, hi, hsteps⟩⟩
    · rename_i d _ hd
      cases hlist
      exact ⟨_, d, hd, .inl rfl⟩

end Violation

/-! ## Files -/

/-- The failure of a file whose data breaks the rules, at a place of it. -/
def violated (path : String) (yamlPath : Option String) (place : Option Int × Option Int)
    (v : Violation) : Failure :=
  failure ("Invalid configuration file " ++ path ++ ": " ++ v.message)
    (some { Location.ofFile path with yamlPath := yamlPath, line := place.1, column := place.2 })
    (some .violation)

theorem invalid_sourceMap (path : String) (root : Node) (steps : List Step) (v : Violation) :
    invalid path root.sourceMap steps v =
      violated path ((some (pathText steps)).filter (!·.isEmpty)) (root.placeOf steps) v := by
  unfold invalid violated
  rw [root.locate_sourceMap]

theorem filter_pathText_cons (s : Step) (steps : List Step) :
    (some (pathText (s :: steps))).filter (!·.isEmpty) = some (pathText (s :: steps)) := by
  have hne : pathText (s :: steps) ≠ "" := by
    intro he
    have hl := congrArg String.toList he
    rw [toList_pathText_cons] at hl
    exact nomatch hl
  exact Option.filter_some_pos (by simpa using hne)

section File
variable {t : Tree} {path : String} {text : List Char} {root : Node} {d : Data}
  (htext : Holds t path text) (hroot : Node.ofText? text = .ok (some root))
  (hdata : Data.ofNode? root = .ok d)
include hroot

theorem ofText?_of_root (hdata : Data.ofNode? root = .ok d) : Data.ofText? text = .ok d := by
  unfold Data.ofText?
  rw [hroot]
  exact hdata

include htext hdata

theorem withFile_of_endless (hend : root.isEndless = true) (c : Config) :
    c.withFile t path = .error (.broken .endlessDocument) :=
  (Uncovered.endless htext (ofText?_of_root hroot hdata) ⟨root, hroot, hend⟩).withFile_eq c

theorem withFile_of_not_shown (hend : root.isEndless = false) (hshown : ¬ Shown d) (c : Config) :
    c.withFile t path = .error (.broken .numeralTooLong) :=
  (Uncovered.unshown htext (ofText?_of_root hroot hdata)
    (sourceMap?_of_root hroot hend) hshown).withFile_eq c

theorem withFile_of_violation (hend : root.isEndless = false) (hshown : Shown d)
    {steps : List Step} {v : Violation} (hv : violation? (contents d) = some (steps, v))
    (c : Config) : c.withFile t path = .error (.failed (violated (tidied path)
      ((some (pathText steps)).filter (!·.isEmpty)) (root.placeOf steps) v)) := by
  rw [← invalid_sourceMap]
  exact (Refused.invalid htext (ofText?_of_root hroot hdata)
    (sourceMap?_of_root hroot hend) hshown hv).withFile_eq c

end File

/-! ## Unknown keys -/

theorem message_unknownKey (k : Data) : (Violation.unknownKeys [k]).message =
    "Additional properties are not allowed (" ++ k.shown ++ " was unexpected)" := by
  show "Additional properties are not allowed (" ++ k.shown ++ " was" ++ " unexpected)" = _
  have hend : " was" ++ " unexpected)" = " was unexpected)" := by decide
  rw [String.append_assoc, hend]

/-- A document with an unknown key is refused, unless it contains itself or a violation cannot be
put in words. The failure has no path, and the place where the document's mapping begins; it is the
place of a node, of the key or of another one, exactly if that node begins there too. -/
theorem withFile_unknownKey (c : Config) {t : Tree} {path : String} {text : List Char} {root : Node}
    {ps : List (Data × Data)} {k : Data} (htext : Holds t path text)
    (hroot : Node.ofText? text = .ok (some root)) (hdata : Data.ofNode? root = .ok (.mapping ps))
    (hk : unknownKeys ps = [k]) :
    (root.isEndless = true → c.withFile t path = .error (.broken .endlessDocument)) ∧
    (root.isEndless = false → ¬ Shown (.mapping ps) →
      c.withFile t path = .error (.broken .numeralTooLong)) ∧
    (root.isEndless = false → Shown (.mapping ps) → ∃ f l,
      c.withFile t path = .error (.failed f) ∧ f.kind = .configuration ∧
      f.message = "Invalid configuration file " ++ tidied path ++
        ": Additional properties are not allowed (" ++ k.shown ++ " was unexpected)" ∧
      f.location = some l ∧ l.file = some (tidied path) ∧ l.yamlPath = none ∧
      (l.line, l.column) = root.start.shownPlace ∧
      ∀ n : Node, (l.line, l.column) = n.start.shownPlace ↔
        root.start.line = n.start.line ∧ root.start.column = n.start.column) := by
  refine ⟨fun hend => withFile_of_endless htext hroot hdata hend c,
    fun hend hshown => withFile_of_not_shown htext hroot hdata hend hshown c,
    fun hend hshown => ?_⟩
  have hv : violation? (contents (.mapping ps)) = some ([], .unknownKeys [k]) := by
    rw [← hk]
    exact violation?_of_unknownKeys (by simp [hk])
  -- the steps to the mapping are none, and lead to the root
  have hplace : root.placeOf [] = root.start.shownPlace := by
    simp [Node.placeOf, Node.marked?, Node.reached]
  have hfile := withFile_of_violation htext hroot hdata hend hshown hv c
  rw [hplace] at hfile
  refine ⟨_, _, hfile, rfl, ?_, rfl, ?_, rfl, rfl, fun n => Mark.shownPlace_eq_iff⟩
  · show "Invalid configuration file " ++ tidied path ++ ": " ++ _ = _
    rw [message_unknownKey]
    simp only [String.append_assoc]
    rfl
  · simp [Location.ofFile, tidied_tidied]

/-- A document with a misspelled key behind another one. -/
def misspelled : String := "log_level: INFO\nimport_path: protos\n"

def misspelledKey : Node := .scalar Tag.str "import_path" ⟨16, 1, 0⟩

def misspelledRoot : Node :=
  .mapping Tag.map
    [(.scalar Tag.str "log_level" ⟨0, 0, 0⟩, .scalar Tag.str "INFO" ⟨11, 0, 11⟩),
      (misspelledKey, .scalar Tag.str "protos" ⟨29, 1, 13⟩)] ⟨0, 0, 0⟩

def misspelledPairs : List (Data × Data) :=
  [(.text "log_level", .text "INFO"), (.text "import_path", .text "protos")]

def misspelledTree : Tree := (Host.withContent (Utf8.encodeString misspelled)).tree

theorem holds_misspelled : Holds misspelledTree "c.yaml" misspelled.toList :=
  ⟨by decide, misspelled.toList, by rfl, by rfl⟩

theorem ofText?_misspelled : Node.ofText? misspelled.toList = .ok (some misspelledRoot) := by
  decide +kernel

theorem ofNode?_misspelled : Data.ofNode? misspelledRoot = .ok (.mapping misspelledPairs) := by
  rfl

theorem unknownKeys_misspelled : unknownKeys misspelledPairs = [.text "import_path"] := by
  cbv

theorem shown_misspelled : Shown (.mapping misspelledPairs) := by
  decide +kernel

theorem withFile_misspelled : unknownKeys misspelledPairs = [.text "import_path"] ∧ ∃ f l,
    ({} : Config).withFile misspelledTree "c.yaml" = .error (.failed f) ∧
    f.message = "Invalid configuration file c.yaml: " ++
      "Additional properties are not allowed ('import_path' was unexpected)" ∧
    f.location = some l ∧ l.line = some 1 ∧ l.column = some 1 := by
  obtain ⟨-, -, hfile⟩ := withFile_unknownKey {} holds_misspelled ofText?_misspelled
    ofNode?_misspelled unknownKeys_misspelled
  obtain ⟨f, l, hf, -, hmessage, hl, -, -, hplace, -⟩ :=
    hfile rfl shown_misspelled
  have htext : "Invalid configuration file " ++ tidied "c.yaml" ++
      ": Additional properties are not allowed (" ++ (Data.text "import_path").shown ++
        " was unexpected)" = "Invalid configuration file c.yaml: " ++
          "Additional properties are not allowed ('import_path' was unexpected)" := by
    rfl
  exact ⟨unknownKeys_misspelled, f, l, hf, hmessage.trans htext, hl,
    congrArg Prod.fst hplace, congrArg Prod.snd hplace⟩

/-- The misspelled key stands in the second line, and is located in the first one. -/
theorem misspelled_not_located : misspelledKey ∈ misspelledRoot.pairs.map (·.1) ∧
    misspelledKey.keyData = .text "import_path" ∧
    unknownKeys misspelledPairs = [.text "import_path"] ∧
    misspelledKey.start.shownPlace = (some 2, some 1) ∧ ∃ f l,
      ({} : Config).withFile misspelledTree "c.yaml" = .error (.failed f) ∧
      f.location = some l ∧ (l.line, l.column) = (some 1, some 1) := by
  have hv : violation? (contents (.mapping misspelledPairs)) =
      some ([], .unknownKeys [.text "import_path"]) := by
    cbv
  exact ⟨List.mem_cons_of_mem _ List.mem_cons_self, rfl, unknownKeys_misspelled, rfl, _, _,
    withFile_of_violation holds_misspelled ofText?_misspelled ofNode?_misspelled
      rfl shown_misspelled hv {}, rfl, by rfl⟩

/-! ## Bad values -/

theorem head?_ne_bracket : ∀ name ∈ Settings.keys, name.toList.head? ≠ some '[' := by
  decide

/-- The value of a key, or the item of it, stands at the steps that lead there. -/
theorem exists_at?_of_made {value : Node} {d : Data} {key : String} {steps : List Step}
    (hd : value.made.data = d) (hsteps : steps = [.key key] ∨
      ∃ items i, d = .list items ∧ i < items.length ∧ steps = [.key key, .index i]) :
    ∃ below n, steps = .key key :: below ∧ value.at? below = some n ∧
      ∀ s ∈ below, ∃ i, s = .index i := by
  rcases hsteps with rfl | ⟨items, i, rfl, hi, rfl⟩
  · exact ⟨[], value, rfl, rfl, fun s hs => absurd hs List.not_mem_nil⟩
  · have hne : items ≠ [] := List.ne_nil_of_length_pos (by omega)
    obtain ⟨tag, nodes, m, rfl, hlen⟩ := exists_nodes_of_made hd hne
    refine ⟨[.index i], nodes[i], rfl, ?_, fun s hs => ⟨i, List.mem_singleton.1 hs⟩⟩
    simp [Node.at?, hlen, hi]

section Document
variable {root : Node} {ps : List (Data × Data)} {steps : List Step} {v : Violation}
  (hend : root.isEndless = false) (hdata : Data.ofNode? root = .ok (.mapping ps))
  (hmerge : root.Mergeless) (hknown : unknownKeys ps = [])
  (hv : violation? (.mapping ps) = some (steps, v))
include hend hdata hmerge hknown hv

/-- The path of a violation leads to a node of the value in force. Its place is found if the key of
that value is a scalar, and none is found if no scalar is that key. -/
theorem exists_node_of_violation : ∃ key below k value n, steps = .key key :: below ∧
    root.pairOf? key = some (k, value) ∧
    (Data.mapping ps).get? key = some value.made.data ∧ value.at? below = some n ∧
    (k.isScalar = true → root.placeOf steps = n.start.shownPlace) ∧
    ((∀ p ∈ root.pairs, p.1.keyData = .text key → p.1.isScalar ≠ true) →
      root.placeOf steps = (none, none)) := by
  obtain ⟨key, d, hget, hsteps⟩ := violation?_of_knownKeys hknown hv
  -- the value that was loaded is that of the pair in force
  obtain ⟨⟨k, value⟩, hpair, hd⟩ : ∃ p, root.pairOf? key = some p ∧ p.2.made.data = d := by
    rw [get?_of_ofNode? hdata hend hmerge] at hget
    exact Option.map_eq_some_iff.1 hget
  obtain ⟨below, n, rfl, hn, hindices⟩ := exists_at?_of_made hd hsteps
  obtain ⟨pairs, m, rfl, -⟩ := exists_pairs_of_ofNode? hdata hend
  have hname : ∀ p ∈ pairs, ∃ name ∈ Settings.keys, p.1.keyData = .text name := fun p hp =>
    eq_text_of_ofNode? hdata hend hmerge (unknownKeys_eq_nil_iff.1 hknown) hp
  have htexts : ∀ p ∈ pairs, ∃ s, p.1.keyData = .text s := fun p hp =>
    let ⟨name, _, htext⟩ := hname p hp
    ⟨name, htext⟩
  -- the key is that of a setting, so no mapping is shown as it
  have hbracket : key.toList.head? ≠ some '[' := by
    obtain ⟨hmem, hkey⟩ := Node.pairOf?_spec hpair
    obtain ⟨name, hname, htext⟩ := hname _ hmem
    rw [hkey] at htext
    exact head?_ne_bracket key (Data.text.inj htext ▸ hname)
  refine ⟨key, below, k, value, n, rfl, hpair, by rw [hget, ← hd], hn, fun hk => ?_,
    fun hnone => ?_⟩
  · unfold Node.placeOf
    rw [Node.marked?_key_of_isScalar hbracket htexts hpair hk (Node.marked?_of_at? hindices hn)]
    rfl
  · unfold Node.placeOf
    rw [Node.marked?_key_eq_none hbracket htexts hnone]
    rfl

end Document

/-- A document whose keys are known and whose data breaks the rules is refused, with the path of a
value that is in force. The place is that of the value's node if the key in force is a scalar, and
there is none if no scalar is that key. -/
theorem withFile_badValue (c : Config) {t : Tree} {path : String} {text : List Char} {root : Node}
    {ps : List (Data × Data)} {steps : List Step} {v : Violation} (htext : Holds t path text)
    (hroot : Node.ofText? text = .ok (some root)) (hend : root.isEndless = false)
    (hdata : Data.ofNode? root = .ok (.mapping ps)) (hmerge : root.Mergeless)
    (hknown : unknownKeys ps = []) (hv : violation? (.mapping ps) = some (steps, v)) :
    (¬ Shown (.mapping ps) → c.withFile t path = .error (.broken .numeralTooLong)) ∧
    (Shown (.mapping ps) → ∃ f l, c.withFile t path = .error (.failed f) ∧
      f.kind = .configuration ∧
      f.message = "Invalid configuration file " ++ tidied path ++ ": " ++ v.message ∧
      f.location = some l ∧ l.file = some (tidied path) ∧ l.yamlPath = some (pathText steps) ∧
      (l.line, l.column) = root.placeOf steps) ∧
    ∃ key below k value n, steps = .key key :: below ∧ root.pairOf? key = some (k, value) ∧
      (Data.mapping ps).get? key = some value.made.data ∧ value.at? below = some n ∧
      (k.isScalar = true → root.placeOf steps = n.start.shownPlace) ∧
      ((∀ p ∈ root.pairs, p.1.keyData = .text key → p.1.isScalar ≠ true) →
        root.placeOf steps = (none, none)) := by
  have hnode := exists_node_of_violation hend hdata hmerge hknown hv
  refine ⟨fun hshown => withFile_of_not_shown htext hroot hdata hend hshown c, fun hshown => ?_,
    hnode⟩
  obtain ⟨key, below, -, -, -, rfl, -⟩ := hnode
  have hfile := withFile_of_violation htext hroot hdata hend hshown hv c
  rw [filter_pathText_cons] at hfile
  exact ⟨_, _, hfile, rfl, rfl, rfl, by simp [Location.ofFile, tidied_tidied], rfl, rfl⟩

/-- A document with a key that is given twice, and an item that repeats a bad one. -/
def repeated : String :=
  "import_paths: [a, 7]\nlog_level: INFO\nimport_paths:\n  - b\n  - &x 8\n  - *x\n"

def repeatedRoot : Node :=
  .mapping Tag.map
    [(.scalar Tag.str "import_paths" ⟨0, 0, 0⟩,
        .sequence Tag.seq [.scalar Tag.str "a" ⟨15, 0, 15⟩, .scalar Tag.int "7" ⟨18, 0, 18⟩]
          ⟨14, 0, 14⟩),
      (.scalar Tag.str "log_level" ⟨21, 1, 0⟩, .scalar Tag.str "INFO" ⟨32, 1, 11⟩),
      (.scalar Tag.str "import_paths" ⟨37, 2, 0⟩,
        .sequence Tag.seq [.scalar Tag.str "b" ⟨55, 3, 4⟩, .scalar Tag.int "8" ⟨61, 4, 4⟩,
          .scalar Tag.int "8" ⟨61, 4, 4⟩] ⟨53, 3, 2⟩)] ⟨0, 0, 0⟩

def repeatedPairs : List (Data × Data) :=
  [(.text "import_paths", .list [.text "b", .int 8, .int 8]), (.text "log_level", .text "INFO")]

def repeatedTree : Tree := (Host.withContent (Utf8.encodeString repeated)).tree

theorem withFile_repeated :
    violation? (.mapping repeatedPairs) =
      some ([.key "import_paths", .index 2], .wrongType (.int 8) "string") ∧ ∃ f l,
    ({} : Config).withFile repeatedTree "c.yaml" = .error (.failed f) ∧
    f.message = "Invalid configuration file c.yaml: 8 is not of type 'string'" ∧
    f.location = some l ∧ l.yamlPath = some "/import_paths/2" ∧ l.line = some 5 ∧
    l.column = some 5 := by
  have hholds : Holds repeatedTree "c.yaml" repeated.toList :=
    ⟨by decide, repeated.toList, by rfl, by rfl⟩
  have hroot : Node.ofText? repeated.toList = .ok (some repeatedRoot) := by decide +kernel
  have hdata : Data.ofNode? repeatedRoot = .ok (.mapping repeatedPairs) := by rfl
  have hmerge : repeatedRoot.Mergeless := by decide
  have hknown : unknownKeys repeatedPairs = [] := by cbv
  have hv : violation? (.mapping repeatedPairs) =
      some ([.key "import_paths", .index 2], .wrongType (.int 8) "string") := by
    cbv
  have hshown : Shown (.mapping repeatedPairs) := by decide +kernel
  obtain ⟨-, hfile, -⟩ :=
    withFile_badValue {} hholds hroot rfl hdata hmerge hknown hv
  obtain ⟨f, l, hf, -, hmessage, hl, -, hpath, hplace⟩ := hfile hshown
  have htext : "Invalid configuration file " ++ tidied "c.yaml" ++ ": " ++
      (Violation.wrongType (.int 8) "string").message =
        "Invalid configuration file c.yaml: 8 is not of type 'string'" := by
    rfl
  have hyaml : pathText [.key "import_paths", .index 2] = "/import_paths/2" := by rfl
  have hnode : repeatedRoot.placeOf [.key "import_paths", .index 2] = (some 5, some 5) := by
    rfl
  rw [hnode] at hplace
  exact ⟨hv, f, l, hf, hmessage.trans htext, hl, by rw [hpath, hyaml],
    congrArg Prod.fst hplace, congrArg Prod.snd hplace⟩

/-- A document whose key is a mapping that stands for a text. -/
def turned : String := "? !!str \x7b=: log_level\x7d\n: loud\n"

def turnedValue : Node := .scalar Tag.str "loud" ⟨25, 1, 2⟩

def turnedRoot : Node :=
  .mapping Tag.map
    [(.mapping Tag.str
        [(.scalar Tag.value "=" ⟨9, 0, 9⟩, .scalar Tag.str "log_level" ⟨12, 0, 12⟩)] ⟨2, 0, 2⟩,
      turnedValue)] ⟨0, 0, 0⟩

def turnedPairs : List (Data × Data) := [(.text "log_level", .text "loud")]

def turnedTree : Tree := (Host.withContent (Utf8.encodeString turned)).tree

/-- The value breaks a rule and stands in the second line, and has no place. -/
theorem turned_not_located :
    Node.ofText? turned.toList = .ok (some turnedRoot) ∧ turnedRoot.isEndless = false ∧
    turnedRoot.Mergeless ∧ Data.ofNode? turnedRoot = .ok (.mapping turnedPairs) ∧
    unknownKeys turnedPairs = [] ∧
    violation? (.mapping turnedPairs) =
      some ([.key "log_level"], .notAmong "loud" Settings.levels) ∧
    turnedRoot.at? [.key "log_level"] = some turnedValue ∧
    turnedValue.start.shownPlace = (some 2, some 3) ∧ ∃ f l,
      ({} : Config).withFile turnedTree "c.yaml" = .error (.failed f) ∧
      f.location = some l ∧ l.yamlPath = some "/log_level" ∧ l.line = none ∧ l.column = none := by
  have hholds : Holds turnedTree "c.yaml" turned.toList :=
    ⟨by decide, turned.toList, by rfl, by rfl⟩
  have hroot : Node.ofText? turned.toList = .ok (some turnedRoot) := by decide +kernel
  have hdata : Data.ofNode? turnedRoot = .ok (.mapping turnedPairs) := by rfl
  have hv : violation? (.mapping turnedPairs) =
      some ([.key "log_level"], .notAmong "loud" Settings.levels) := by
    cbv
  have hshown : Shown (.mapping turnedPairs) := by decide +kernel
  have hmerge : turnedRoot.Mergeless := by decide
  have hknown : unknownKeys turnedPairs = [] := by cbv
  obtain ⟨key, below, k, value, n, -, -, -, -, -, hnone⟩ :=
    exists_node_of_violation rfl hdata hmerge hknown hv
  -- the only key of the document is the mapping
  have hplace : turnedRoot.placeOf [.key "log_level"] = (none, none) := by
    refine hnone fun p hp _ => ?_
    rw [List.mem_singleton.1 hp]
    exact Bool.false_ne_true
  have hfile := withFile_of_violation hholds hroot hdata rfl hshown hv {}
  rw [hplace] at hfile
  exact ⟨hroot, rfl, hmerge, hdata, hknown, hv, rfl, rfl, _, _, hfile, rfl, by rfl, rfl, rfl⟩

end Config

end ProtoCheck
