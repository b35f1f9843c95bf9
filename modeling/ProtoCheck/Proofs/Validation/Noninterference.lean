import ProtoCheck.Proofs.Schema.Agreement
import ProtoCheck.Proofs.Validation

/-!
# Files that a run does not look at

A run looks at the validated file and at the places where the names that its schema leads to may
stand, those included where nothing stands. Stores that agree there cannot be told apart by it.

* `Validator.validate_congr` : a run over stores that agree is the same run;
* `Validator.check_eq_of_agree` : so what is recorded and what the compiler is started on depend on
  nothing else.
-/

namespace ProtoCheck

open Schema

namespace Validator

variable {path : String}

theorem reads_of_readInput {v : Validator} {raw : Bytes}
    (h : (v.readInput path).result = .ok raw) : v.Reads path raw := by
  rw [result_readInput] at h
  unfold Reads
  cases hread : v.store.read path with
  | ok content =>
    rw [hread] at h
    exact congrArg Except.ok (Except.ok.inj h)
  | error e =>
    rw [hread] at h
    exact nomatch h

theorem extract_of_readHeader {raw : Bytes} {d : Directives}
    (h : (readHeader path raw).result = .ok d) : Header.extract (Utf8.decodeLossy raw) = .ok d := by
  rw [result_readHeader] at h
  cases hhead : Header.extract (Utf8.decodeLossy raw) with
  | ok d' =>
    rw [hhead] at h
    exact congrArg Except.ok (Except.ok.inj h)
  | error e =>
    rw [hhead] at h
    exact nomatch h

/-- A run over a store that agrees with another one is the same run, journal and all. -/
theorem validate_congr (v : Validator) (store : Store)
    (hrecorded : v.store.recordsAccess = store.recordsAccess)
    (hread : v.store.read path = store.read path)
    (hnames : ∀ raw d n, v.Heads path raw d → virtualName? d.schema = some n →
      Agree v.store store (searchedRoots v.importPaths) [n]) :
    v.validate path = { v with store := store }.validate path := by
  have hinput : v.readInput path = { v with store := store }.readInput path := by
    unfold readInput
    rw [hrecorded, hread]
  unfold validate
  rw [← hinput]
  refine Traced.bind_congr fun raw hraw => Traced.bind_congr fun d hd => ?_
  have htype : v.resolveType d = { v with store := store }.resolveType d := by
    unfold resolveType
    rw [resolve_congr v.compiler fun n hn =>
      hnames raw d n ⟨reads_of_readInput hraw, extract_of_readHeader hd⟩ hn]
  rw [htype]

/-- **Unrelated files do not matter.** When two stores in memory agree on the validated file, and on
every place where a name may stand that the schema of its header leads to in the first of them, then
the same is recorded over both of them, and the compiler is started on the same names and files, or
in neither. -/
theorem check_eq_of_agree (m m' : MemoryStore) (importPaths : List String) (c : Compiler)
    (path : String) (hpath : m.get? path = m'.get? path)
    (hnames : ∀ raw d n, Heads ⟨.memory m, importPaths, c⟩ path raw d →
      virtualName? d.schema = some n →
      ∀ k, Reachable (.memory m) (searchedRoots importPaths) [n] k →
        ∀ r ∈ searchedRoots importPaths, m.get? (pathUnder r k) = m'.get? (pathUnder r k)) :
    check ⟨.memory m, importPaths, c⟩ path = check ⟨.memory m', importPaths, c⟩ path := by
  have hget : ∀ name, m.get? name = m'.get? name →
      (Store.memory m).read name = (Store.memory m').read name := by
    intro name h
    rw [Store.read, Store.read, h]
  unfold check
  rw [validate_congr ⟨.memory m, importPaths, c⟩ (.memory m') rfl (hget path hpath)
    fun raw d n hheads hn => ⟨rfl, fun k hk r hr => hget _ (hnames raw d n hheads hn k hk r hr)⟩]

/-- Two schemas below one root that import each other, one of them also a schema that is nowhere. -/
def rooted : MemoryStore :=
  MemoryStore.ofList [
    ("m.textproto", Utf8.encode "# proto-file: a.proto\n# proto-message: M".toList),
    ("lib/a.proto", Utf8.encode "import \"b.proto\";\nimport \"gone.proto\";".toList),
    ("lib/b.proto", Utf8.encode "import \"a.proto\";".toList)]

/-- The two schemas lead to one another and to the one that is nowhere. -/
theorem reachable_rooted {k : String} (h : Reachable (.memory rooted) ["lib"] ["a.proto"] k) :
    k ∈ ["a.proto", "b.proto", "gone.proto"] := by
  refine h.mem_of_closed (List.forall_mem_singleton.2 List.mem_cons_self) ?_
  have ha : lookUp (.memory rooted) ["lib"] "a.proto" =
      .found 0 (Utf8.encode "import \"b.proto\";\nimport \"gone.proto\";".toList) := by
    decide +kernel
  have hb : lookUp (.memory rooted) ["lib"] "b.proto" =
      .found 0 (Utf8.encode "import \"a.proto\";".toList) := by
    decide +kernel
  have hgone : lookUp (.memory rooted) ["lib"] "gone.proto" =
      .missing (some (.unknown "lib/gone.proto")) := by
    decide +kernel
  rw [List.forall_mem_cons, List.forall_mem_cons, List.forall_mem_singleton]
  refine ⟨fun d hd => ?_, fun d hd => ?_, fun d hd => absurd hd (not_imports_of_missing hgone d)⟩
  · have himports : importedNames
        (Utf8.encode "import \"b.proto\";\nimport \"gone.proto\";".toList) =
        ["b.proto", "gone.proto"] := by
      decide +kernel
    rw [imports_iff (lookUp_found ha), himports] at hd
    exact List.mem_cons_of_mem _ hd
  · have himports : importedNames (Utf8.encode "import \"a.proto\";".toList) = ["a.proto"] := by
      decide +kernel
    rw [imports_iff (lookUp_found hb), himports, List.mem_singleton] at hd
    rw [hd]
    exact List.mem_cons_self

/-- A schema of the same name outside the import root does not matter. -/
theorem check_rooted :
    rooted.get? "b.proto" ≠ (rooted.add "b.proto" []).get? "b.proto" ∧
      check ⟨.memory rooted, ["lib"], uninstalled⟩ "./m.textproto" =
        check ⟨.memory (rooted.add "b.proto" []), ["lib"], uninstalled⟩ "./m.textproto" := by
  refine ⟨by decide, check_eq_of_agree _ _ _ _ _ (by decide) ?_⟩
  intro raw d n hheads hn k hk
  have hd : Heads ⟨.memory rooted, ["lib"], uninstalled⟩ "./m.textproto"
      (Utf8.encode "# proto-file: a.proto\n# proto-message: M".toList) ⟨"a.proto", "M"⟩ := by
    constructor
    · show (Store.memory rooted).read "./m.textproto" = _
      decide
    · decide +kernel
  obtain ⟨-, rfl⟩ := hheads.unique hd
  have hname : virtualName? "a.proto" = some "a.proto" := by decide
  obtain rfl := Option.some.inj (hname.symm.trans hn)
  have hsame : ∀ k ∈ ["a.proto", "b.proto", "gone.proto"], ∀ r ∈ searchedRoots ["lib"],
      rooted.get? (pathUnder r k) = (rooted.add "b.proto" []).get? (pathUnder r k) := by
    decide +kernel
  exact hsame k (reachable_rooted hk)

end Validator

end ProtoCheck
