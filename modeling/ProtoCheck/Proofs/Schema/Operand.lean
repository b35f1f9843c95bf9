import ProtoCheck.Proofs.Schema.Confinement

/-!
# The names that a compiler is given

The names of the schemas stand at the end of the arguments, as they are. A name that is staged has
components, so none of them is empty; but it begins with whatever its first component begins with,
and a compiler takes an argument with a dash in front for an option, and one with an at sign in
front for the name of a file with more arguments.

* `operands`, `operands_arguments` : the arguments behind the options, which are the names;
* `IsOperand` : an argument that is taken for the name of a schema;
* `Unmarked`, `isOperand_iff` : the schema paths whose names are;
* `operands_isOperand_iff` : the compilations whose names all are, `operands_dashed` : one whose
  names are not.
-/

namespace ProtoCheck.Schema

open ProtoCheck.Path

variable {dir : String} {store : Store} {roots names : List String}

/-! ## Arguments -/

/-- The arguments behind the one that says where descriptors are written. -/
def operands (arguments : List String) : List String :=
  (arguments.dropWhile fun a => !a.startsWith "--descriptor_set_out=").drop 1

theorem operands_arguments (dir : String) (r : Invocation) :
    operands (r.arguments dir) = r.names := by
  have hroots : ∀ a ∈ (List.range r.roots).map fun i => "--proto_path=" ++ rootDirectory dir i,
      (!a.startsWith "--descriptor_set_out=") = true := by
    intro a ha
    obtain ⟨i, -, rfl⟩ := List.mem_map.1 ha
    rw [Bool.not_eq_true', String.startsWith_string_eq_false_iff]
    simp
  have hinclude : (!"--include_imports".startsWith "--descriptor_set_out=") = true := by
    decide
  have hout : (!("--descriptor_set_out=" ++ dir ++ "/descriptor_set.pb").startsWith
      "--descriptor_set_out=") = false := by
    rw [Bool.not_eq_false', String.startsWith_string_iff]
    simp
  unfold operands Invocation.arguments
  rw [List.append_assoc, List.dropWhile_append_of_pos hroots]
  simp [hinclude, hout]

/-- An argument that is taken for the name of a schema: neither empty, nor an option, nor a file
with more arguments. -/
def IsOperand (a : String) : Prop :=
  a ≠ "" ∧ a.startsWith "-" = false ∧ a.startsWith "@" = false

theorem isOperand_iff_head? {a : String} : IsOperand a ↔
    a ≠ "" ∧ a.toList.head? ≠ some '-' ∧ a.toList.head? ≠ some '@' := by
  have hdash : "-".toList = ['-'] := rfl
  have hat : "@".toList = ['@'] := rfl
  unfold IsOperand
  rw [← Bool.not_eq_true, ← Bool.not_eq_true, startsWith_iff_head? hdash,
    startsWith_iff_head? hat]

/-! ## Names -/

/-- The first component of the resolved schema path, if there is one, begins with no mark that a
compiler gives another meaning. -/
def Unmarked (path : String) : Prop :=
  ∀ part ∈ (Path.resolve path.toList).parts.head?, part.head? ≠ some '-' ∧ part.head? ≠ some '@'

theorem head?_joinParts {part : List Char} (h : part ≠ []) (rest : List (List Char)) :
    (joinParts (part :: rest)).head? = part.head? := by
  cases rest with
  | nil => rfl
  | cons next rest => rw [joinParts_cons_cons, List.head?_append_of_ne_nil _ h]

/-- A name with components is taken for one when its path is not marked, and only then. -/
theorem isOperand_iff {path n : String} (h : virtualName? path = some n)
    (hne : namedParts n.toList ≠ []) : n ≠ "" ∧ (IsOperand n ↔ Unmarked path) := by
  have hname : IsName n := ⟨path, h⟩
  have hempty : n ≠ "" := by
    rintro rfl
    exact hne rfl
  refine ⟨hempty, ?_⟩
  obtain ⟨part, rest, hparts⟩ := List.exists_cons_of_ne_nil hne
  have hpart : part ≠ [] := by
    have hclean := namedParts_clean n.toList part (hparts ▸ List.mem_cons_self)
    rintro rfl
    exact absurd hclean.1 (by decide)
  have hhead : n.toList.head? = part.head? := by
    rw [hname.toList_eq hne, hparts, head?_joinParts hpart]
  have hresolve : (Path.resolve path.toList).parts = part :: rest := by
    rw [← namedParts_virtualName? h, hparts]
  rw [isOperand_iff_head?, hhead, and_iff_right hempty]
  simp [Unmarked, hresolve]

/-- Names that are staged have components. -/
theorem namedParts_ne_nil_of_stage (hn : ∀ n ∈ names, IsName n)
    (h : (stage dir store roots names).2 = none) : ∀ n ∈ names, namedParts n.toList ≠ [] := by
  intro n hmem
  rcases stage_outcome dir store roots hn with
    ⟨-, -, hs, hopen⟩ | ⟨_, b, hb⟩ | ⟨_, _, _, _, _, _, hf⟩
  · have hreach : Reachable store roots names n := ⟨n, hmem, .refl⟩
    obtain ⟨i, c, hat⟩ := (hopen n hmem).exists_opensAt (hs.readable n hreach)
    exact (hs.storable ⟨i, n, c⟩ ⟨hreach, hat⟩).1
  · exact nomatch h.symm.trans hb
  · exact nomatch h.symm.trans hf

/-! ## Compilations -/

/-- What a compiler is started with: the names of the schemas, all of them staged. -/
theorem names_of_mem_runs {c : Compiler} {importPaths schemas : List String} {r : Invocation}
    (hr : r ∈ (compile c store importPaths schemas).journal.runs) :
    virtualNames schemas = .ok r.names ∧
      (stage c.directory store (searchedRoots importPaths) r.names).2 = none := by
  have hne : (compile c store importPaths schemas).journal.runs ≠ [] := List.ne_nil_of_mem hr
  obtain ⟨hs, names, hn, hnone⟩ := (runs_compile_ne_nil_iff c).1 hne
  rw [(compile_of_staged c hs hn hnone).2, List.mem_singleton] at hr
  rw [hr]
  exact ⟨hn, hnone⟩

/-- **What is given to the compiler.** Behind the options stand the names of the schemas, one for
each path and none of them empty. All of them are taken for names when no path is marked, and only
then. -/
theorem operands_isOperand_iff (c : Compiler) (store : Store) (importPaths schemas : List String)
    (dir : String) {r : Invocation}
    (hr : r ∈ (compile c store importPaths schemas).journal.runs) :
    schemas.map virtualName? = (operands (r.arguments dir)).map some ∧
      (∀ a ∈ operands (r.arguments dir), a ≠ "") ∧
      ((∀ a ∈ operands (r.arguments dir), IsOperand a) ↔ ∀ path ∈ schemas, Unmarked path) := by
  obtain ⟨hn, hnone⟩ := names_of_mem_runs hr
  have hmap := map_virtualName?_of_virtualNames hn
  have hparts := namedParts_ne_nil_of_stage (isName_of_virtualNames hn) hnone
  rw [operands_arguments]
  -- each path has a name among those given, and each of these is the name of a path
  have hpath : ∀ n ∈ r.names, ∃ path ∈ schemas, virtualName? path = some n := by
    intro n hmem
    have hsome : some n ∈ schemas.map virtualName? := by
      rw [hmap]
      exact List.mem_map_of_mem hmem
    exact List.mem_map.1 hsome
  have hname : ∀ path ∈ schemas, ∃ n ∈ r.names, virtualName? path = some n := by
    intro path hmem
    have hsome : virtualName? path ∈ r.names.map some := by
      rw [← hmap]
      exact List.mem_map_of_mem hmem
    obtain ⟨n, hn, he⟩ := List.mem_map.1 hsome
    exact ⟨n, hn, he.symm⟩
  refine ⟨hmap, fun n hmem => ?_, fun h path hmem => ?_, fun h n hmem => ?_⟩
  · obtain ⟨path, -, hv⟩ := hpath n hmem
    exact (isOperand_iff hv (hparts n hmem)).1
  · obtain ⟨n, hmem', hv⟩ := hname path hmem
    exact (isOperand_iff hv (hparts n hmem')).2.1 (h n hmem')
  · obtain ⟨path, hmem', hv⟩ := hpath n hmem
    exact (isOperand_iff hv (hparts n hmem)).2.2 (h path hmem')

/-- A schema path without marks is given as the name that it has. -/
theorem operands_crossed : ∃ r ∈ (compile uninstalled crossed ["a", "b"] ["x.proto"]).journal.runs,
    ["x.proto"].map virtualName? = (operands (r.arguments "staging")).map some ∧
      ∀ a ∈ operands (r.arguments "staging"), IsOperand a := by
  have hs : ["x.proto"] ≠ [] := List.cons_ne_nil _ _
  have hnone : (stage "staging" crossed (searchedRoots ["a", "b"]) ["x.proto"]).2 = none :=
    stage_crossed
  have hne := (runs_compile_ne_nil_iff uninstalled).2 ⟨hs, _, virtualNames_xProto, hnone⟩
  obtain ⟨r, hr⟩ := List.exists_mem_of_ne_nil _ hne
  obtain ⟨hnames, -, hiff⟩ :=
    operands_isOperand_iff uninstalled crossed ["a", "b"] ["x.proto"] "staging" hr
  have hpath : Unmarked "x.proto" := by
    unfold Unmarked
    decide
  exact ⟨r, hr, hnames, hiff.2 (List.forall_mem_singleton.2 hpath)⟩

/-- Two schemas whose names begin with marks. -/
def dashed : Store := .memory (MemoryStore.ofList [("-x.proto", []), ("@y.proto", [])])

theorem stage_dashed : (stage "staging" dashed ["."] ["-x.proto", "@y.proto"]).2 = none := by
  have hfuel : (Staging.mentioned dashed ["-x.proto", "@y.proto"]).length = 2 := by decide +kernel
  have hnone : importedNames [] ++ [] = [] := by decide +kernel
  have hx : lookUp dashed ["."] "-x.proto" = .found 0 [] := by decide +kernel
  have hy : lookUp dashed ["."] "@y.proto" = .found 0 [] := by decide +kernel
  unfold stage
  rw [hfuel, Staging.request]
  rw [Staging.run_found List.not_mem_nil hx (by decide), hnone, Staging.run]
  show (Staging.request "staging" dashed ["."] 2 ["@y.proto"] _).2 = none
  rw [Staging.request]
  rw [Staging.run_found (by decide) hy (by decide), hnone, Staging.run]
  rfl

/-- A dash and an at sign in front of a name are found in front of the argument, also where the path
has a dot or a slash before them: what is meant for a schema is taken for an option, and for a file
with more arguments. -/
theorem operands_dashed :
    ∃ r ∈ (compile uninstalled dashed [] ["./-x.proto", "/@y.proto"]).journal.runs,
      operands (r.arguments "staging") = ["-x.proto", "@y.proto"] ∧
      ∀ a ∈ operands (r.arguments "staging"), ¬ IsOperand a := by
  have hx : virtualName? "./-x.proto" = some "-x.proto" := by decide
  have hy : virtualName? "/@y.proto" = some "@y.proto" := by decide
  have hn : virtualNames ["./-x.proto", "/@y.proto"] = .ok ["-x.proto", "@y.proto"] := by
    rw [virtualNames_cons, virtualNames_cons, hx, hy]
    rfl
  have hnone : (stage "staging" dashed (searchedRoots []) ["-x.proto", "@y.proto"]).2 = none :=
    stage_dashed
  have hruns := (compile_of_staged uninstalled (List.cons_ne_nil _ _) hn hnone).2
  rw [hruns]
  refine ⟨_, List.mem_singleton_self _, ?_⟩
  rw [operands_arguments]
  refine ⟨rfl, ?_⟩
  unfold IsOperand
  decide +kernel

end ProtoCheck.Schema
