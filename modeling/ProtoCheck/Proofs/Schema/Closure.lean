import ProtoCheck.Proofs.Schema.Compiler
import ProtoCheck.Proofs.Schema.Staging
import Mathlib.Data.List.Nodup

/-!
# Staging is import closure

* `IsClosure` : files that are those the requested names lead to, each where it opens first;
  `stage_outcome` : staging ends with them, or breaks, or reports a name that does not open;
* `stagedLookUp`, `IsClosure.stagedLookUp_eq` : a name is found in the staged directories as it is
  found under the roots;
* `SameImports`, `IsClosure.perm` : neither the order of the names nor that of imports matters;
* `compile_stages_closure` : the compiler is started on the closure.
-/

namespace ProtoCheck.Schema

variable {dir : String} {store : Store} {roots names : List String}

/-! ## What is staged in the end -/

/-- The files are those that are due, each under the first root where its name opens and with the
contents read there; no name stands under two roots, and no two files stand at one place. -/
structure IsClosure (store : Store) (roots names : List String) (files : List StagedFile) :
    Prop where
  mem_iff : ∀ f, f ∈ files ↔
    Reachable store roots names f.name ∧ OpensAt store roots f.name f.root f.content
  names_nodup : (files.map StagedFile.name).Nodup
  places_nodup : (files.map fun f => (f.root, f.parts)).Nodup

theorem nodup_map_of_injOn {α β γ : Type} {l : List α} {f : α → β} {g : α → γ}
    (h : (l.map f).Nodup) (hg : ∀ a ∈ l, ∀ b ∈ l, g a = g b → f a = f b) : (l.map g).Nodup := by
  refine List.Nodup.map_on (fun a ha b hb hab => ?_) (List.Nodup.of_map f h)
  exact List.inj_on_of_nodup_map h ha hb (hg a ha b hb hab)

theorem Staging.Inv.isClosure {s : Staging} (hn : ∀ n ∈ names, IsName n)
    (h : Staging.Inv dir store roots names names [] s) : IsClosure store roots names s.files where
  mem_iff _ := h.mem_files_iff
  names_nodup := h.nodup
  places_nodup := by
    have hname : ∀ f ∈ s.files, IsName f.name := fun f hf => (h.due hf).1.isName hn
    refine nodup_map_of_injOn h.nodup fun f hf g hg he => ?_
    exact (hname f hf).eq_of_parts (hname g hg) (Prod.mk.inj he).2 (h.storable f hf).1

/-- What staging comes to: the closure, or something in the way that breaks it, or the first of the
names that does not open. -/
theorem stage_outcome (dir : String) (store : Store) (roots : List String)
    (hn : ∀ n ∈ names, IsName n) :
    ((stage dir store roots names).2 = none ∧
      IsClosure store roots names (stage dir store roots names).1.files ∧
      Staging.Stageable dir store roots names ∧ ∀ n ∈ names, Opens store roots n) ∨
    (¬ Staging.Stageable dir store roots names ∧
      ∃ b, (stage dir store roots names).2 = some (.broken b)) ∨
    ∃ before n after, names = before ++ n :: after ∧ (∀ m ∈ before, Opens store roots m) ∧
      ¬ Opens store roots n ∧
      (stage dir store roots names).2 =
        some (.failed ((stage dir store roots names).1.notFound n)) := by
  have h := (Staging.Inv.empty dir store roots names).request rfl fun n hn => hn
  rw [List.append_nil] at h
  exact h.imp_left fun ⟨hnone, hinv, ho⟩ => ⟨hnone, hinv.isClosure hn, hinv.stageable, ho⟩

/-- When staging succeeds all names open. -/
theorem opens_of_stage (hn : ∀ n ∈ names, IsName n) (h : (stage dir store roots names).2 = none) :
    ∀ n ∈ names, Opens store roots n := by
  rcases stage_outcome dir store roots hn with ho | ⟨_, b, hb⟩ | ⟨_, _, _, _, _, _, hf⟩
  · exact ho.2.2.2
  · exact nomatch h.symm.trans hb
  · exact nomatch h.symm.trans hf

/-- When staging fails a name is not found. -/
theorem exists_notFound_of_stage (hn : ∀ n ∈ names, IsName n) {f : Failure}
    (h : (stage dir store roots names).2 = some (.failed f)) : ∃ s n, f = Staging.notFound s n := by
  rcases stage_outcome dir store roots hn with ho | ⟨_, b, hb⟩ | ⟨_, n, _, _, _, _, hf⟩
  · exact nomatch h.symm.trans ho.1
  · exact nomatch h.symm.trans hb
  · exact ⟨_, n, Stop.failed.inj (Option.some.inj (h.symm.trans hf))⟩

/-- When nothing breaks and all names open, nothing was in the way. -/
theorem stageable_of_stage (hn : ∀ n ∈ names, IsName n) (ho : ∀ n ∈ names, Opens store roots n)
    (hw : ∀ b, (stage dir store roots names).2 ≠ some (.broken b)) :
    Staging.Stageable dir store roots names := by
  rcases stage_outcome dir store roots hn with
    h | ⟨_, b, hb⟩ | ⟨_, n, _, he, _, hno, _⟩
  · exact h.2.2.1
  · exact absurd hb (hw b)
  · exact absurd (ho n (he ▸ List.mem_append_right _ List.mem_cons_self)) hno

/-- When nothing is in the way and all names open, staging ends with the closure. -/
theorem stage_isClosure (hn : ∀ n ∈ names, IsName n) (ho : ∀ n ∈ names, Opens store roots n)
    (hs : Staging.Stageable dir store roots names) :
    (stage dir store roots names).2 = none ∧
      IsClosure store roots names (stage dir store roots names).1.files := by
  rcases stage_outcome dir store roots hn with
    h | ⟨hno, _⟩ | ⟨_, n, _, he, _, hno, _⟩
  · exact ⟨h.1, h.2.1⟩
  · exact absurd hs hno
  · exact absurd (ho n (he ▸ List.mem_append_right _ List.mem_cons_self)) hno

/-! ## Looking staged names up -/

/-- What stands at the place of a name in the staged directory of root `i`. -/
def stagedAt (files : List StagedFile) (name : String) (i : Nat) : Option Bytes :=
  (files.find? fun f => f.root == i && f.parts == Path.namedParts name.toList).map (·.content)

/-- Looking a name up through the staged directories of `count` roots in order. -/
def stagedLookUp (files : List StagedFile) (count : Nat) (name : String) : Option Bytes :=
  (List.range count).findSome? (stagedAt files name)

/-- Looking a name up under the roots in order. -/
def openedLookUp (store : Store) (roots : List String) (name : String) : Option Bytes :=
  roots.findSome? fun r => (store.read (pathUnder r name)).toOption

theorem toOption_eq_none_iff {ε α : Type} {e : Except ε α} :
    e.toOption = none ↔ ∀ a, e ≠ .ok a := by
  cases e <;> simp [Except.toOption]

theorem toOption_eq_some_iff {ε α : Type} {e : Except ε α} {a : α} :
    e.toOption = some a ↔ e = .ok a := by
  cases e <;> simp [Except.toOption]

theorem eq_take_append_cons_drop {α : Type} {l : List α} {i : Nat} {a : α} (h : l[i]? = some a) :
    l = l.take i ++ a :: l.drop (i + 1) := by
  obtain ⟨hlt, he⟩ := List.getElem?_eq_some_iff.1 h
  rw [← he, ← List.drop_eq_getElem_cons hlt, List.take_append_drop]

theorem openedLookUp_eq_some_iff {n : String} {c : Bytes} :
    openedLookUp store roots n = some c ↔ ∃ i, OpensAt store roots n i c := by
  unfold openedLookUp
  rw [List.findSome?_eq_some_iff]
  constructor
  · rintro ⟨before, r, after, rfl, hc, hfirst⟩
    refine ⟨before.length, ⟨r, ?_, toOption_eq_some_iff.1 hc⟩, fun q hq => ?_⟩
    · rw [List.getElem?_append_right (Nat.le_refl _), Nat.sub_self, List.getElem?_cons_zero]
    · rw [List.take_left] at hq
      exact toOption_eq_none_iff.1 (hfirst q hq)
  · rintro ⟨i, ⟨r, hr, hc⟩, hfirst⟩
    refine ⟨roots.take i, r, roots.drop (i + 1), eq_take_append_cons_drop hr,
      toOption_eq_some_iff.2 hc, fun q hq => ?_⟩
    exact toOption_eq_none_iff.2 (hfirst q hq)

section Staged
variable {files : List StagedFile} (h : IsClosure store roots names files)
  (hs : Staging.Stageable dir store roots names) (hn : ∀ n ∈ names, IsName n) {n : String}
  (hr : Reachable store roots names n)
include h hs hn hr

/-- At the place of a name that the names lead to stands what opens there first. -/
theorem IsClosure.stagedAt_eq_some_iff {i : Nat} {c : Bytes} :
    stagedAt files n i = some c ↔ OpensAt store roots n i c := by
  have hplace : ∀ f ∈ files, (f.root == i && f.parts == Path.namedParts n.toList) = true →
      OpensAt store roots n i f.content := by
    intro f hf hp
    rw [Bool.and_eq_true, beq_iff_eq, beq_iff_eq] at hp
    have hdue := (h.mem_iff f).1 hf
    have hname : f.name = n :=
      (hdue.1.isName hn).eq_of_parts (hr.isName hn) hp.2 (hs.storable f hdue).1
    rw [← hname, ← hp.1]
    exact hdue.2
  unfold stagedAt
  rw [Option.map_eq_some_iff]
  constructor
  · rintro ⟨f, hf, rfl⟩
    have hp := List.find?_some hf
    exact hplace f (List.mem_of_find?_eq_some hf) hp
  · intro ho
    have hmem : (⟨i, n, c⟩ : StagedFile) ∈ files := (h.mem_iff _).2 ⟨hr, ho⟩
    cases hf : files.find? fun f => f.root == i && f.parts == Path.namedParts n.toList with
    | none =>
      refine absurd ?_ (List.find?_eq_none.1 hf _ hmem)
      show (i == i && Path.namedParts n.toList == Path.namedParts n.toList) = true
      rw [beq_self_eq_true, beq_self_eq_true]
      rfl
    | some f =>
      have hp := List.find?_some hf
      have hat := hplace f (List.mem_of_find?_eq_some hf) hp
      exact ⟨f, rfl, (hat.unique ho).2⟩

/-- A name that the names lead to is found in the staged directories as under the roots. -/
theorem IsClosure.stagedLookUp_eq :
    stagedLookUp files roots.length n = openedLookUp store roots n := by
  apply Option.ext
  intro c
  rw [openedLookUp_eq_some_iff]
  unfold stagedLookUp
  rw [List.findSome?_eq_some_iff]
  constructor
  · rintro ⟨_, i, _, _, hc, _⟩
    exact ⟨i, (h.stagedAt_eq_some_iff hs hn hr).1 hc⟩
  · rintro ⟨i, ho⟩
    have hi : (List.range roots.length)[i]? = some i := List.getElem?_range ho.lt_length
    refine ⟨_, i, _, eq_take_append_cons_drop hi, (h.stagedAt_eq_some_iff hs hn hr).2 ho, ?_⟩
    intro j hj
    rw [List.take_range, List.mem_range] at hj
    rw [Option.eq_none_iff_forall_ne_some]
    intro d hd
    have hat := (h.stagedAt_eq_some_iff hs hn hr).1 hd
    have hji := (hat.unique ho).1
    omega

end Staged

/-! ## Order does not matter -/

/-- Stores that differ at most in the order in which files import others. -/
structure SameImports (store store' : Store) : Prop where
  read_ok : ∀ path c, store.read path = .ok c → ∃ d, store'.read path = .ok d ∧
    (scanImports (Utf8.decodeLossy c)).Perm (scanImports (Utf8.decodeLossy d))
  read_error : ∀ path e, store.read path = .error e → store'.read path = .error e

theorem SameImports.refl (store : Store) : SameImports store store where
  read_ok _ c hc := ⟨c, hc, .refl _⟩
  read_error _ _ he := he

section SameImports
variable {store' : Store} (h : SameImports store store')
include h

theorem SameImports.symm : SameImports store' store where
  read_ok path d hd := by
    cases hc : store.read path with
    | ok c =>
      obtain ⟨d', hd', hp⟩ := h.read_ok path c hc
      rw [hd] at hd'
      cases hd'
      exact ⟨c, rfl, hp.symm⟩
    | error e =>
      rw [h.read_error path e hc] at hd
      cases hd
  read_error path e he := by
    cases hc : store.read path with
    | ok c =>
      obtain ⟨d, hd, -⟩ := h.read_ok path c hc
      rw [he] at hd
      cases hd
    | error e' =>
      rw [h.read_error path e' hc] at he
      exact he

theorem SameImports.opensAt {n : String} {i : Nat} {c : Bytes} (ho : OpensAt store roots n i c) :
    ∃ d, OpensAt store' roots n i d ∧
      (scanImports (Utf8.decodeLossy c)).Perm (scanImports (Utf8.decodeLossy d)) := by
  obtain ⟨⟨r, hr, hc⟩, hfirst⟩ := ho
  obtain ⟨d, hd, hp⟩ := h.read_ok _ c hc
  refine ⟨d, ⟨⟨r, hr, hd⟩, fun q hq c' hc' => ?_⟩, hp⟩
  obtain ⟨c'', hc'', -⟩ := h.symm.read_ok _ c' hc'
  exact hfirst q hq c'' hc''

theorem SameImports.imports {n d : String} (hi : Imports store roots n d) :
    Imports store' roots n d := by
  obtain ⟨i, c, ho, path, hpath, hv⟩ := hi
  obtain ⟨c', ho', hp⟩ := h.opensAt ho
  exact ⟨i, c', ho', path, hp.mem_iff.1 hpath, hv⟩

theorem SameImports.reachable {names' : List String} (hsub : names ⊆ names') {d : String}
    (hd : Reachable store roots names d) : Reachable store' roots names' d := by
  obtain ⟨n, hn, hpath⟩ := hd
  exact ⟨n, hsub hn, Relation.ReflTransGen.mono (fun _ _ hi => h.imports hi) _ _ hpath⟩

theorem SameImports.lookUpFrom_nul {n : String} {i : Nat} {first first' : Option AccessError}
    (hl : lookUpFrom store n i first roots = .nul) :
    lookUpFrom store' n i first' roots = .nul := by
  induction roots generalizing i first first' with
  | nil => cases hl
  | cons r rest ih =>
    rw [lookUpFrom] at hl ⊢
    split at hl
    · cases hl
    · rename_i hr
      rw [h.read_error _ _ hr]
    · rename_i e hne hr
      rw [h.read_error _ _ hr]
      split
      · rename_i heq
        cases heq
      · rfl
      · rename_i heq
        cases heq
        exact ih hl

/-- What is due in one store is due in the other, with contents of its own. -/
theorem SameImports.due {names' : List String} (hsub : names ⊆ names') {f : StagedFile}
    (hf : Due store roots names f) : ∃ c, Due store' roots names' ⟨f.root, f.name, c⟩ := by
  obtain ⟨c, ho, -⟩ := h.opensAt hf.2
  exact ⟨c, h.reachable hsub hf.1, ho⟩

/-- What is in the way does not depend on the order either. -/
theorem SameImports.stageable {names' : List String} (hsub : names' ⊆ names)
    (hs : Staging.Stageable dir store roots names) : Staging.Stageable dir store' roots names' where
  readable n hn hl := hs.readable n (h.symm.reachable hsub hn) (h.symm.lookUpFrom_nul hl)
  storable f hf := by
    obtain ⟨c, hdue⟩ := h.symm.due hsub hf
    exact hs.storable ⟨f.root, f.name, c⟩ hdue
  apart f g hf hg hne := by
    obtain ⟨c, hf⟩ := h.symm.due hsub hf
    obtain ⟨d, hg⟩ := h.symm.due hsub hg
    exact hs.apart ⟨f.root, f.name, c⟩ ⟨g.root, g.name, d⟩ hf hg hne

end SameImports

/-- Where a file is staged. -/
def StagedFile.key (f : StagedFile) : Nat × String := (f.root, f.name)

theorem IsClosure.keys_nodup {files : List StagedFile} (h : IsClosure store roots names files) :
    (files.map StagedFile.key).Nodup :=
  nodup_map_of_injOn h.names_nodup fun _ _ _ _ he => (Prod.mk.inj he).2

theorem IsClosure.mem_keys_iff {files : List StagedFile} (h : IsClosure store roots names files)
    {k : Nat × String} :
    k ∈ files.map StagedFile.key ↔ ∃ c, Due store roots names ⟨k.1, k.2, c⟩ := by
  rw [List.mem_map]
  constructor
  · rintro ⟨f, hf, rfl⟩
    exact ⟨f.content, (h.mem_iff f).1 hf⟩
  · rintro ⟨c, hc⟩
    exact ⟨_, (h.mem_iff _).2 hc, rfl⟩

section Order
variable {store' : Store} {names' : List String} {files files' : List StagedFile}
  (h : IsClosure store roots names files) (hnames : ∀ n, n ∈ names' ↔ n ∈ names)
include h hnames

/-- Where the files of a closure stand does not depend on the order of names or of imports. -/
theorem IsClosure.keys_perm (hstore : SameImports store store')
    (h' : IsClosure store' roots names' files') :
    (files'.map StagedFile.key).Perm (files.map StagedFile.key) := by
  rw [List.perm_ext_iff_of_nodup h'.keys_nodup h.keys_nodup]
  intro k
  rw [h'.mem_keys_iff, h.mem_keys_iff]
  constructor
  · rintro ⟨c, hc⟩
    exact hstore.symm.due (fun n hn => (hnames n).1 hn) hc
  · rintro ⟨c, hc⟩
    exact hstore.due (fun n hn => (hnames n).2 hn) hc

/-- The files of a closure do not depend on the order of the names. -/
theorem IsClosure.perm (h' : IsClosure store roots names' files') : files'.Perm files := by
  rw [List.perm_ext_iff_of_nodup (h'.names_nodup.of_map _) (h.names_nodup.of_map _)]
  intro f
  rw [h'.mem_iff, h.mem_iff]
  have hsame := SameImports.refl store
  exact and_congr_left' ⟨hsame.reachable fun n hn => (hnames n).1 hn,
    hsame.reachable fun n hn => (hnames n).2 hn⟩

end Order

/-! ## The compiler's input -/

theorem isName_of_virtualNames {schemas : List String} (h : virtualNames schemas = .ok names) :
    ∀ n ∈ names, IsName n := by
  intro n hn
  have hmem : some n ∈ schemas.map virtualName? := by
    rw [map_virtualName?_of_virtualNames h]
    exact List.mem_map_of_mem hn
  obtain ⟨path, -, hpath⟩ := List.mem_map.1 hmem
  exact ⟨path, hpath⟩

theorem eq_nil_of_virtualNames {schemas : List String} (h : virtualNames schemas = .ok names) :
    names = [] ↔ schemas = [] := by
  have hmap := map_virtualName?_of_virtualNames h
  rw [← List.map_eq_nil_iff (f := some), ← hmap, List.map_eq_nil_iff]

/-- The compiler is started once, on the closure of names that open and have nothing in the way. -/
theorem runs_compile_isClosure (c : Compiler) {schemas : List String} (hroots : roots ≠ [])
    (hschemas : schemas ≠ []) (hnames : virtualNames schemas = .ok names)
    (ho : ∀ n ∈ names, Opens store roots n)
    (hs : Staging.Stageable c.directory store roots names) :
    ∃ files, (compile c store roots schemas).journal.runs = [⟨roots.length, names, files⟩] ∧
      IsClosure store roots names files := by
  obtain ⟨hnone, hclosure⟩ := stage_isClosure (isName_of_virtualNames hnames) ho hs
  have hsearched : searchedRoots roots = roots := by
    unfold searchedRoots
    rw [List.isEmpty_eq_false_iff.2 hroots]
    rfl
  refine ⟨(stage c.directory store roots names).1.files, ?_, hclosure⟩
  rw [← hsearched] at hnone
  have hruns := (compile_of_staged c hschemas hnames hnone).2
  rwa [hsearched] at hruns

/-- Names that all open, with nothing breaking while they are staged: the compiler is started once,
on exactly the files that the names lead to, which it finds as they are found under the roots. The
order of the names, and that of the imports in each file, changes nothing but the order of files. -/
theorem compile_stages_closure (c : Compiler) {schemas : List String} (hroots : roots ≠ [])
    (hschemas : schemas ≠ []) (hnames : virtualNames schemas = .ok names)
    (hopen : ∀ n ∈ names, Opens store roots n)
    (hwrites : ∀ b, (stage c.directory store roots names).2 ≠ some (.broken b)) :
    ∃ files, (compile c store roots schemas).journal.runs = [⟨roots.length, names, files⟩] ∧
      IsClosure store roots names files ∧
      (∀ n, Reachable store roots names n →
        stagedLookUp files roots.length n = openedLookUp store roots n) ∧
      ∀ store' schemas' names', SameImports store store' → virtualNames schemas' = .ok names' →
        (∀ n, n ∈ names' ↔ n ∈ names) →
        ∃ files', (compile c store' roots schemas').journal.runs =
            [⟨roots.length, names', files'⟩] ∧
          IsClosure store' roots names' files' ∧
          (files'.map StagedFile.key).Perm (files.map StagedFile.key) ∧
          (store' = store → files'.Perm files) := by
  have hn := isName_of_virtualNames hnames
  -- that nothing is in the way depends on what the names lead to, not on the order of the search
  have hs := stageable_of_stage hn hopen hwrites
  obtain ⟨files, hruns, hclosure⟩ := runs_compile_isClosure c hroots hschemas hnames hopen hs
  refine ⟨files, hruns, hclosure, fun n hr => hclosure.stagedLookUp_eq hs hn hr, ?_⟩
  intro store' schemas' names' hstore hnames' hmem
  have hschemas' : schemas' ≠ [] := by
    intro he
    have hnil := (eq_nil_of_virtualNames hnames').2 he
    refine hschemas ((eq_nil_of_virtualNames hnames).1 (List.eq_nil_iff_forall_not_mem.2 ?_))
    intro n hn'
    have hmem' := (hmem n).2 hn'
    rw [hnil] at hmem'
    exact absurd hmem' List.not_mem_nil
  have hopen' : ∀ n ∈ names', Opens store' roots n := by
    intro n hn'
    obtain ⟨r, hr, d, hd⟩ := hopen n ((hmem n).1 hn')
    obtain ⟨d', hd', -⟩ := hstore.read_ok _ d hd
    exact ⟨r, hr, d', hd'⟩
  obtain ⟨files', hruns', hclosure'⟩ := runs_compile_isClosure c hroots hschemas' hnames' hopen'
    (hstore.stageable (fun n hn' => (hmem n).1 hn') hs)
  refine ⟨files', hruns', hclosure', hclosure.keys_perm hmem hstore hclosure', ?_⟩
  rintro rfl
  exact hclosure.perm hmem hclosure'

/-- A schema that imports the next one. -/
def crossedX : Bytes := Utf8.encode "import \"y.proto\";".toList

/-- A schema that imports the one before and one that is nowhere. -/
def crossedY : Bytes := Utf8.encode "import \"x.proto\";\nimport \"none.proto\";".toList

/-- The two schemas, each in a directory of its own. -/
def crossed : Store :=
  .memory (MemoryStore.ofList [("b/y.proto", crossedY), ("a/x.proto", crossedX)])

/-- A compiler that is not installed. -/
def uninstalled : Compiler := ⟨["protoc"], "staging", fun _ => .notStarted (.bare "no protoc")⟩

/-- What staging the first of them comes to. -/
def crossedStaging : Staging where
  seen := ["none.proto", "y.proto", "x.proto"]
  files := [⟨0, "x.proto", crossedX⟩, ⟨1, "y.proto", crossedY⟩]
  missing := [("none.proto", some (.unknown "a/none.proto"))]
  events := [.opened "a/x.proto", .staged "x.proto" "a", .opened "a/y.proto", .opened "b/y.proto",
    .staged "y.proto" "b", .opened "a/none.proto", .opened "b/none.proto"]

theorem run_crossed (fuel : Nat) :
    Staging.run "staging" crossed ["a", "b"] (fuel + 2) ["x.proto"] {} = crossedStaging := by
  have hx : importedNames crossedX ++ [] = ["y.proto"] := by decide +kernel
  have hy : importedNames crossedY ++ [] = ["x.proto", "none.proto"] := by decide +kernel
  rw [Staging.run_found (i := 0) (c := crossedX) (by decide +kernel) (by decide +kernel)
    (by decide), hx]
  rw [Staging.run_found (i := 1) (c := crossedY) (by decide +kernel) (by decide +kernel)
    (by decide), hy]
  rw [Staging.run_known (by decide)]
  rw [Staging.run_missing (e := some (.unknown "a/none.proto")) (by decide)
    (by decide +kernel), Staging.run]
  decide +kernel

theorem stage_crossed_eq :
    stage "staging" crossed ["a", "b"] ["x.proto"] = (crossedStaging, none) := by
  have hfuel : (Staging.mentioned crossed ["x.proto"]).length = 2 + 2 := by decide +kernel
  unfold stage
  rw [hfuel, Staging.request, run_crossed]
  rfl

theorem stage_crossed : (stage "staging" crossed ["a", "b"] ["x.proto"]).2 = none := by
  rw [stage_crossed_eq]

/-- Schemas that import each other from two directories are both staged. -/
theorem compile_crossed :
    virtualNames ["x.proto"] = .ok ["x.proto"] ∧ Opens crossed ["a", "b"] "x.proto" ∧
      (stage "staging" crossed ["a", "b"] ["x.proto"]).2 = none ∧
      ∃ files, (compile uninstalled crossed ["a", "b"] ["x.proto"]).journal.runs =
          [⟨2, ["x.proto"], files⟩] ∧
        IsClosure crossed ["a", "b"] ["x.proto"] files := by
  have hnames : virtualNames ["x.proto"] = .ok ["x.proto"] := by
    rw [virtualNames_cons]
    have hname : virtualName? "x.proto" = some "x.proto" := by decide
    rw [hname]
    rfl
  have hopen : Opens crossed ["a", "b"] "x.proto" :=
    ⟨"a", List.mem_cons_self, crossedX, by decide +kernel⟩
  refine ⟨hnames, hopen, stage_crossed, ?_⟩
  obtain ⟨files, hruns, hclosure, -⟩ := compile_stages_closure uninstalled
    (List.cons_ne_nil "a" ["b"]) (List.cons_ne_nil "x.proto" []) hnames
    (List.forall_mem_singleton.2 hopen)
    (fun b hb => Option.some_ne_none _ (hb.symm.trans stage_crossed))
  exact ⟨files, hruns, hclosure⟩

end ProtoCheck.Schema
