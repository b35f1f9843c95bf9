import ProtoCheck.Proofs.Schema.Closure
import ProtoCheck.Proofs.Text.Digit

/-!
# Staging stays under the import roots

A name has no `..` and starts from no root, whatever the schema path or the import statement that it
comes from. So each path that is opened for it lies below an import root, and the file that is
written for it below the staged directory of that root.

* `pathUnder_eq` : the path of a name under a root;
* `StagedFile.target` : where a file is written, which is the path that staging measures
  (`StagedFile.toList_join_eq_stagedPath`);
* `Confined` : what staging has looked up, opened and staged (`Confined.run`, `Confined.stage`);
* `compile_confined` : what a compilation opens and writes.
-/

namespace ProtoCheck.Schema

open ProtoCheck.Path

variable {dir : String} {store : Store} {roots names : List String}

/-! ## Places of a name -/

/-- The path of a name under a root: the resolved root, and the components of the name. -/
theorem pathUnder_eq (root : String) {n : String} (h : IsName n) :
    pathUnder root n = String.ofList (render
      ⟨(Path.resolve root.toList).root,
        (Path.resolve root.toList).parts ++ namedParts n.toList⟩) := by
  unfold pathUnder normalised
  rw [resolve_join h.startsWith_slash h.up_notMem]

/-- Where a file is written. -/
def StagedFile.target (dir : String) (f : StagedFile) : Path :=
  tidy (join (rootDirectory dir f.root) f.name).toList

/-- A file with a name is written below the directory of its root. -/
theorem StagedFile.target_eq (dir : String) {f : StagedFile} (h : IsName f.name) :
    f.target dir = ⟨(tidy (rootDirectory dir f.root).toList).root,
      (tidy (rootDirectory dir f.root).toList).parts ++ f.parts⟩ :=
  tidy_join h.startsWith_slash

/-- Components, each behind a slash, are the text of their path behind one. -/
theorem flatMap_slash_eq {parts : List (List Char)} (h : parts ≠ []) :
    parts.flatMap ('/' :: ·) = '/' :: joinParts parts := by
  induction parts with
  | nil => exact absurd rfl h
  | cons part rest ih =>
    cases rest with
    | nil => rw [List.flatMap_singleton, joinParts]
    | cons next rest =>
      rw [List.flatMap_cons, ih (List.cons_ne_nil next rest), joinParts_cons_cons]
      rfl

/-- The directory of a root ends in the number of the root. -/
theorem rootDirectory_ne_concat_slash (dir : String) (i : Nat) (front : List Char) :
    (rootDirectory dir i).toList ≠ front ++ ['/'] := by
  intro h
  have htext : (rootDirectory dir i).toList =
      dir.toList ++ "/roots/".toList ++ Nat.toDigits 10 i := by
    simp [rootDirectory]
  obtain ⟨digits, last, hdigits⟩ :=
    (List.eq_nil_or_concat' (Nat.toDigits 10 i)).resolve_left Nat.toDigits_ne_nil
  rw [htext, hdigits, ← List.append_assoc] at h
  have hlast : last = '/' := List.singleton_inj.1 (List.append_inj' h rfl).2
  have hmem : '/' ∈ Nat.toDigits 10 i := by
    rw [hdigits, hlast]
    exact List.mem_append_right _ (List.mem_singleton_self _)
  exact absurd (Text.isAsciiDigit_of_mem_toDigits hmem) (by decide)

/-- The path that staging measures is where the file is written. -/
theorem StagedFile.toList_join_eq_stagedPath (dir : String) {f : StagedFile} (h : IsName f.name)
    (hne : f.parts ≠ []) :
    (join (rootDirectory dir f.root) f.name).toList = stagedPath dir f.root f.parts := by
  unfold stagedPath
  rw [flatMap_slash_eq hne, StagedFile.parts, ← h.toList_eq hne]
  rcases toList_join (rootDirectory dir f.root) h.startsWith_slash with
    ⟨hdir, -⟩ | ⟨front, hjoin, hdir | ⟨hdir, -⟩⟩
  · simp [rootDirectory] at hdir
  · exact absurd hdir (rootDirectory_ne_concat_slash dir f.root front)
  · rw [hjoin, hdir]

/-! ## What staging keeps -/

/-- Staging writes a file, or tries to: its name is looked up and opens. -/
def Staging.Writes (store : Store) (roots : List String) (s : Staging) (f : StagedFile) : Prop :=
  f.name ∈ s.seen ∧ Schema.lookUp store roots f.name = .found f.root f.content

/-- What is looked up are names, what is opened are their paths under the roots, and what is staged
is written. -/
structure Confined (store : Store) (roots : List String) (s : Staging) : Prop where
  named : ∀ n ∈ s.seen, IsName n
  opened : ∀ path, Event.opened path ∈ s.events → ∃ r ∈ roots, ∃ n ∈ s.seen, path = pathUnder r n
  written : ∀ f ∈ s.files, s.Writes store roots f

theorem Confined.empty (store : Store) (roots : List String) : Confined store roots {} where
  named _ h := absurd h List.not_mem_nil
  opened _ h := absurd h List.not_mem_nil
  written _ h := absurd h List.not_mem_nil

theorem triedPaths_subset {n path : String} {l : Lookup} (h : path ∈ triedPaths roots n l) :
    ∃ r ∈ roots, path = pathUnder r n := by
  have htake : ∀ k, path ∈ (roots.take k).map (pathUnder · n) →
      ∃ r ∈ roots, path = pathUnder r n := by
    intro k hk
    obtain ⟨r, hr, rfl⟩ := List.mem_map.1 hk
    exact ⟨r, List.mem_of_mem_take hr, rfl⟩
  cases l with
  | found i c => exact htake (i + 1) h
  | missing e =>
    obtain ⟨r, hr, rfl⟩ := List.mem_map.1 h
    exact ⟨r, hr, rfl⟩
  | nul => exact htake _ h

section Steps
variable {s : Staging} {n : String} (h : Confined store roots s)
include h

theorem Confined.look (hn : IsName n) (l : Lookup) : Confined store roots (s.look roots n l) where
  named m hm := by
    rcases List.mem_cons.1 hm with rfl | hm
    · exact hn
    · exact h.named m hm
  opened path hp := by
    rcases List.mem_append.1 hp with hp | hp
    · obtain ⟨r, hr, m, hm, rfl⟩ := h.opened path hp
      exact ⟨r, hr, m, List.mem_cons_of_mem n hm, rfl⟩
    · obtain ⟨_, hq, he⟩ := List.mem_map.1 hp
      obtain rfl := Event.opened.inj he
      obtain ⟨r, hr, rfl⟩ := triedPaths_subset hq
      exact ⟨r, hr, n, List.mem_cons_self, rfl⟩
  written f hf := ⟨List.mem_cons_of_mem n (h.written f hf).1, (h.written f hf).2⟩

theorem Confined.miss (e : Option AccessError) : Confined store roots (s.miss n e) :=
  ⟨h.named, h.opened, h.written⟩

theorem Confined.stop (b : Breakdown) : Confined store roots (s.stop b) :=
  ⟨h.named, h.opened, h.written⟩

theorem Confined.keep {f : StagedFile} (hf : s.Writes store roots f) :
    Confined store roots (s.keep roots f) where
  named := h.named
  opened path hp := by
    rcases List.mem_append.1 hp with hp | hp
    · exact h.opened path hp
    · exact nomatch List.mem_singleton.1 hp
  written g hg := by
    rcases List.mem_append.1 hg with hg | hg
    · exact h.written g hg
    · exact List.mem_singleton.1 hg ▸ hf

end Steps

theorem isName_of_mem_importedNames {c : Bytes} {n : String} (h : n ∈ importedNames c) :
    IsName n := by
  obtain ⟨path, -, hpath⟩ := List.mem_filterMap.1 h
  exact ⟨path, hpath⟩

/-- All that a run looks up is a pending name, or one that some file imports. -/
theorem Confined.run {fuel : Nat} {pending : List String} {s : Staging}
    (h : Confined store roots s) (hp : ∀ n ∈ pending, IsName n) :
    Confined store roots (Staging.run dir store roots fuel pending s) := by
  fun_induction Staging.run dir store roots fuel pending s with
  | case1 => exact h
  | case2 fuel s n rest hn ih => exact ih h (List.forall_mem_cons.1 hp).2
  | case3 fuel s n rest hn l s' hl => exact (h.look (List.forall_mem_cons.1 hp).1 _).stop _
  | case4 fuel s n rest hn l s' e hl ih =>
    rw [List.forall_mem_cons] at hp
    exact ih ((h.look hp.1 _).miss e) hp.2
  | case5 fuel s n rest hn l s' i c hl b hc => exact (h.look (List.forall_mem_cons.1 hp).1 _).stop _
  | case6 s n rest hn l s' i c hl hc => exact h.look (List.forall_mem_cons.1 hp).1 _
  | case7 s n rest hn l s' i c hl fuel hc ih =>
    rw [List.forall_mem_cons] at hp
    have hlook := h.look hp.1 l
    refine ih (hlook.keep ⟨List.mem_cons_self, hl⟩) fun m hm => ?_
    rcases List.mem_append.1 hm with hm | hm
    · exact isName_of_mem_importedNames hm
    · exact hp.2 m hm

theorem Confined.request {fuel : Nat} {todo : List String} {s : Staging}
    (h : Confined store roots s) (ht : ∀ n ∈ todo, IsName n) :
    Confined store roots (Staging.request dir store roots fuel todo s).1 := by
  induction todo generalizing s with
  | nil => exact h
  | cons n rest ih =>
    rw [List.forall_mem_cons] at ht
    have hrun : Confined store roots (Staging.run dir store roots fuel [n] s) :=
      h.run (List.forall_mem_singleton.2 ht.1)
    rw [Staging.request]
    split
    · exact hrun
    · split
      · exact ih hrun ht.2
      · exact hrun

theorem Confined.stage (h : ∀ n ∈ names, IsName n) :
    Confined store roots (Schema.stage dir store roots names).1 :=
  (Confined.empty store roots).request h

/-! ## Compiling -/

/-- What a compilation opens it opens while it stages. -/
theorem opened_compile (c : Compiler) (store : Store) (importPaths : List String)
    {schemas : List String} (hs : schemas ≠ []) :
    (compile c store importPaths schemas).journal.opened =
      (virtualNames schemas).toOption.elim [] fun names =>
        (staged c.directory store (searchedRoots importPaths) names).journal.opened := by
  have he : schemas.isEmpty = false := List.isEmpty_eq_false_iff.2 hs
  cases hn : virtualNames schemas with
  | error f => simp [compile, he, hn, Except.toOption]
  | ok names =>
    cases hstaged : (staged c.directory store (searchedRoots importPaths) names).result with
    | error e => simp [compile, he, hn, Except.toOption, hstaged]
    | ok files => simp [compile, he, hn, Except.toOption, hstaged]

/-- Each path that a compilation opens is that of a name under a root. -/
theorem pathUnder_of_mem_opened {c : Compiler} {importPaths schemas : List String} {path : String}
    (h : path ∈ (compile c store importPaths schemas).journal.opened) :
    ∃ r ∈ searchedRoots importPaths, ∃ n, IsName n ∧ path = pathUnder r n := by
  have hs : schemas ≠ [] := by
    rintro rfl
    exact absurd h List.not_mem_nil
  rw [opened_compile c store importPaths hs] at h
  cases hn : virtualNames schemas with
  | error f =>
    rw [hn] at h
    exact absurd h List.not_mem_nil
  | ok names =>
    rw [hn] at h
    obtain ⟨e, he, hpath⟩ := List.mem_filterMap.1 h
    have hconf : Confined store (searchedRoots importPaths)
        (stage c.directory store (searchedRoots importPaths) names).1 :=
      .stage (isName_of_virtualNames hn)
    cases e with
    | staged name root => exact nomatch hpath
    | opened p =>
      obtain rfl := Option.some.inj hpath
      obtain ⟨r, hr, n, hseen, rfl⟩ := hconf.opened _ he
      exact ⟨r, hr, n, hconf.named n hseen, rfl⟩

/-- What the compiler is given has been written. -/
theorem writes_of_mem_runs {c : Compiler} {importPaths schemas : List String}
    (hn : virtualNames schemas = .ok names) {r : Invocation}
    (hr : r ∈ (compile c store importPaths schemas).journal.runs) {f : StagedFile}
    (hf : f ∈ r.files) :
    (stage c.directory store (searchedRoots importPaths) names).1.Writes store
      (searchedRoots importPaths) f := by
  have hs : schemas ≠ [] := by
    rintro rfl
    exact absurd hr List.not_mem_nil
  cases h : (stage c.directory store (searchedRoots importPaths) names).2 with
  | some e =>
    rw [(compile_of_stopped c hs hn h).2] at hr
    exact absurd hr List.not_mem_nil
  | none =>
    rw [(compile_of_staged c hs hn h).2, List.mem_singleton] at hr
    rw [hr] at hf
    exact (Confined.stage (isName_of_virtualNames hn)).written f hf

theorem virtualNames_singleton_error {path : String} :
    virtualNames [path] = .error (outsideRoots path) ↔ virtualName? path = none := by
  rw [virtualNames_cons]
  cases virtualName? path with
  | none => exact ⟨fun _ => rfl, fun _ => rfl⟩
  | some n => exact ⟨fun h => (nomatch h), fun h => (nomatch h)⟩

/-- **Confinement.** A schema path is refused exactly when it starts from no root and has led up
more often than down at some point; a name starts from no root and has no `..`. So each path that a
compilation opens is a resolved root with the components of a name behind it. Each file that it
writes, or tries to, is one that opened under a root, and stands below the staged directory of that
root, with the components of its name behind it. -/
theorem compile_confined (c : Compiler) (store : Store) (importPaths schemas : List String)
    (dir : String) :
    (∀ path, virtualNames [path] = .error (outsideRoots path) ↔
      path.startsWith "/" = false ∧ Escapes (namedParts path.toList)) ∧
    (∀ path n, virtualName? path = some n →
      n.startsWith "/" = false ∧ up ∉ Text.pieces (· == '/') n.toList) ∧
    (∀ path ∈ (compile c store importPaths schemas).journal.opened,
      ∃ r ∈ searchedRoots importPaths, ∃ n, IsName n ∧
        path = String.ofList (render ⟨(Path.resolve r.toList).root,
          (Path.resolve r.toList).parts ++ namedParts n.toList⟩) ∧
        up ∉ namedParts n.toList) ∧
    ∀ names, virtualNames schemas = .ok names →
      (∀ r ∈ (compile c store importPaths schemas).journal.runs, ∀ f ∈ r.files,
        (stage c.directory store (searchedRoots importPaths) names).1.Writes store
          (searchedRoots importPaths) f) ∧
      ∀ f,
        (stage c.directory store (searchedRoots importPaths) names).1.Writes store
          (searchedRoots importPaths) f →
        (∃ r, (searchedRoots importPaths)[f.root]? = some r ∧
          store.read (pathUnder r f.name) = .ok f.content) ∧
        f.target dir = ⟨(tidy (rootDirectory dir f.root).toList).root,
          (tidy (rootDirectory dir f.root).toList).parts ++ f.parts⟩ ∧
        up ∉ f.parts := by
  refine ⟨fun path => ?_, fun path n h => ⟨?_, ?_⟩, fun path h => ?_,
    fun names hn => ⟨fun r hr f hf => writes_of_mem_runs hn hr hf, fun f hf => ?_⟩⟩
  · rw [virtualNames_singleton_error, virtualName?_eq_none_iff]
  · exact IsName.startsWith_slash ⟨path, h⟩
  · have hup := IsName.up_notMem ⟨path, h⟩
    exact fun hm => hup (List.mem_filter.2 ⟨hm, rfl⟩)
  · obtain ⟨r, hr, n, hname, rfl⟩ := pathUnder_of_mem_opened h
    exact ⟨r, hr, n, hname, pathUnder_eq r hname, hname.up_notMem⟩
  · have hname : IsName f.name := (Confined.stage (isName_of_virtualNames hn)).named _ hf.1
    exact ⟨(lookUp_found hf.2).1, StagedFile.target_eq dir hname, hname.up_notMem⟩

/-- A schema that imports one outside the roots and one from the root of the disk. -/
def hostileX : Bytes :=
  Utf8.encode "import \"a/../../passwd\";\nimport \"/../y.proto\";".toList

def hostile : Store := .memory (MemoryStore.ofList [("r/x.proto", hostileX)])

theorem stage_hostile : ∃ s, stage "staging" hostile ["r"] ["x.proto"] = (s, none) ∧
    s.events.filterMap Event.path? = ["r/x.proto", "r/y.proto"] ∧
    s.Writes hostile ["r"] ⟨0, "x.proto", hostileX⟩ := by
  have hfuel : (Staging.mentioned hostile ["x.proto"]).length = 2 := by decide +kernel
  have hx : importedNames hostileX ++ [] = ["y.proto"] := by decide +kernel
  have hfound : lookUp hostile ["r"] "x.proto" = .found 0 hostileX := by decide +kernel
  unfold stage
  rw [hfuel, Staging.request]
  rw [Staging.run_found (by decide) hfound (by decide), hx]
  rw [Staging.run_missing (e := some (.unknown "r/y.proto")) (by decide)
    (by decide +kernel), Staging.run]
  exact ⟨_, rfl, by decide +kernel, by decide +kernel, hfound⟩

theorem virtualNames_xProto : virtualNames ["x.proto"] = .ok ["x.proto"] := by
  have hname : virtualName? "x.proto" = some "x.proto" := by decide
  rw [virtualNames_cons, hname]
  rfl

/-- The import that leads out is refused, the other one is looked up under the root, and the schema
is written below the root's directory. -/
theorem compile_hostile :
    virtualNames ["a/../../passwd"] = .error (outsideRoots "a/../../passwd") ∧
      (compile uninstalled hostile ["r"] ["x.proto"]).journal.opened =
        ["r/x.proto", "r/y.proto"] ∧
      StagedFile.target "staging" ⟨0, "x.proto", hostileX⟩ =
        ⟨.relative, ["staging".toList, "roots".toList, "0".toList, "x.proto".toList]⟩ := by
  obtain ⟨s, hstage, hopened, hwrites⟩ := stage_hostile
  obtain ⟨hrefused, -, -, hwritten⟩ :=
    compile_confined uninstalled hostile ["r"] ["x.proto"] "staging"
  have hescapes : Escapes (namedParts "a/../../passwd".toList) :=
    ⟨["a".toList, up, up], by decide, by decide⟩
  have hroots : searchedRoots ["r"] = ["r"] := rfl
  refine ⟨(hrefused _).2 ⟨by decide +kernel, hescapes⟩, ?_, ?_⟩
  · rw [opened_compile uninstalled hostile ["r"] (List.cons_ne_nil "x.proto" []),
      virtualNames_xProto, hroots]
    show ((stage "staging" hostile ["r"] ["x.proto"]).1.events.filterMap Event.path?) = _
    rw [hstage]
    exact hopened
  · have hfile := (hwritten _ virtualNames_xProto).2 ⟨0, "x.proto", hostileX⟩
    have hdirectory : uninstalled.directory = "staging" := rfl
    rw [hroots, hdirectory, hstage] at hfile
    rw [(hfile hwrites).2.1]
    decide

end ProtoCheck.Schema
