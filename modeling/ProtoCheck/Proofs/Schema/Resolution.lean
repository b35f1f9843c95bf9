import ProtoCheck.Proofs.Schema.Closure

/-!
# Failures of resolving

* `FailsIn` : the failures of a computation belong to one stage;
* `failsIn_compile`, `failsIn_find`, `failsIn_resolve` : those of compiling a schema and of finding
  a message type belong to resolving;
* `runs_resolve` : finding a message type starts nothing;
* `resolve_ne_ok_of_not_opens` : a schema that opens nowhere is not resolved.
-/

namespace ProtoCheck

/-! ## Stages of failures -/

/-- All failures that a result can be belong to a stage. -/
def FailsIn {α : Type} (s : Stage) (x : Except Stop α) : Prop :=
  ∀ f, x = .error (.failed f) → f.stage = s

namespace FailsIn

variable {α β : Type} {s : Stage}

theorem ok (a : α) : FailsIn s (.ok a) :=
  fun _ h => nomatch h

theorem broken (b : Breakdown) : FailsIn s (.error (.broken b) : Except Stop α) :=
  fun _ h => nomatch h

theorem failed {f : Failure} (h : f.stage = s) :
    FailsIn s (.error (.failed f) : Except Stop α) := by
  intro g hg
  rw [← Stop.failed.inj (Except.error.inj hg)]
  exact h

theorem bind {x : Except Stop α} {g : α → Except Stop β} (h : FailsIn s x)
    (hg : ∀ a, x = .ok a → FailsIn s (g a)) : FailsIn s (x.bind g) := by
  cases x with
  | ok a => exact hg a rfl
  | error e =>
    intro f hf
    exact h f (congrArg Except.error (Except.error.inj hf))

end FailsIn

namespace Schema

/-! ## Compiling -/

theorem failsIn_settle (names : List String) (a : Answer) :
    FailsIn .resolve (settle names a).result := by
  cases a with
  | notStarted e => exact .failed rfl
  | garbled => exact .broken _
  | finished status output written =>
    unfold settle
    dsimp only
    split
    · exact .broken _
    · split
      · exact .failed rfl
      · rw [Traced.result_bind]
        refine .bind (.ok ()) fun _ _ => ?_
        cases load names written with
        | ok a => exact .ok a
        | error b => exact .broken b

theorem failsIn_compile (c : Compiler) (store : Store) (importPaths schemas : List String) :
    FailsIn .resolve (compile c store importPaths schemas).result := by
  rcases compile_cases c store importPaths schemas with
    ⟨-, h, -⟩ | ⟨f, hn, h, -⟩ | ⟨names, e, hn, he, h, -⟩ | ⟨names, -, -, -, r, h, -⟩
  · rw [h]
    exact .broken _
  · obtain ⟨path, rfl⟩ := eq_outsideRoots_of_virtualNames hn
    rw [h]
    exact .failed rfl
  · rw [h]
    cases e with
    | broken b => exact .broken b
    | failed f =>
      obtain ⟨s, n, rfl⟩ := exists_notFound_of_stage (isName_of_virtualNames hn) he
      exact .failed rfl
  · rw [h]
    exact failsIn_settle names _

/-! ## Finding -/

theorem failsIn_find (files : List Descriptor.FileDecl) (name : String) :
    FailsIn .resolve (find files name).result := by
  unfold find
  rw [Traced.result_bind]
  refine .bind (.ok ()) fun _ _ => ?_
  cases Descriptor.findMessage? files name with
  | none => exact .failed rfl
  | some found => exact .ok found

@[simp] theorem runs_find (files : List Descriptor.FileDecl) (name : String) :
    (find files name).journal.runs = [] := by
  unfold find
  cases h : Descriptor.findMessage? files name <;> simp [Except.toOption]

section Resolve
variable (c : Compiler) (store : Store) (importPaths : List String) (schema name : String)

theorem failsIn_resolve : FailsIn .resolve (resolve c store importPaths schema name).result := by
  unfold resolve
  rw [Traced.result_bind]
  refine .bind (failsIn_compile c store importPaths [schema]) fun compiled _ => ?_
  rw [Traced.result_bind]
  refine .bind (failsIn_find compiled.files name) fun found _ => ?_
  exact .ok _

/-- Finding a message type starts nothing beside the compilation. -/
theorem runs_resolve : (resolve c store importPaths schema name).journal.runs =
    (compile c store importPaths [schema]).journal.runs := by
  unfold resolve
  rw [Traced.runs_bind]
  cases (compile c store importPaths [schema]).result with
  | error e => simp [Except.toOption]
  | ok compiled =>
    cases h : (find compiled.files name).result <;> simp [Except.toOption, h]

variable {c store importPaths schema name}

/-- What stops a compilation stops resolving. -/
theorem result_resolve_of_stopped {e : Stop}
    (h : (compile c store importPaths [schema]).result = .error e) :
    (resolve c store importPaths schema name).result = .error e := by
  unfold resolve
  rw [Traced.result_bind, h]
  rfl

/-- What is resolved has been compiled. -/
theorem exists_compiled_of_resolve {r : Resolved}
    (h : (resolve c store importPaths schema name).result = .ok r) :
    ∃ a, (compile c store importPaths [schema]).result = .ok a := by
  cases ha : (compile c store importPaths [schema]).result with
  | ok a => exact ⟨a, rfl⟩
  | error e =>
    rw [result_resolve_of_stopped ha] at h
    exact nomatch h

/-- The compiler is started for a schema when its name is staged, and only then. -/
theorem runs_resolve_ne_nil_iff : (resolve c store importPaths schema name).journal.runs ≠ [] ↔
    ∃ n, virtualName? schema = some n ∧
      (stage c.directory store (searchedRoots importPaths) [n]).2 = none := by
  rw [runs_resolve, runs_compile_ne_nil_iff]
  constructor
  · rintro ⟨-, names, hn, hnone⟩
    obtain ⟨n, hname, rfl⟩ := virtualNames_singleton.1 hn
    exact ⟨n, hname, hnone⟩
  · rintro ⟨n, hname, hnone⟩
    exact ⟨List.cons_ne_nil schema [], [n], virtualNames_singleton.2 ⟨n, hname, rfl⟩, hnone⟩

/-- A schema that opens under no root is not resolved. -/
theorem resolve_ne_ok_of_not_opens {n : String} (hn : virtualName? schema = some n)
    (ho : ¬ Opens store (searchedRoots importPaths) n) (r : Resolved) :
    (resolve c store importPaths schema name).result ≠ .ok r := by
  intro h
  obtain ⟨a, ha⟩ := exists_compiled_of_resolve h
  have hruns := runs_compile_ne_nil_of_ok c ha
  rw [← runs_resolve c store importPaths schema name, runs_resolve_ne_nil_iff] at hruns
  obtain ⟨m, hm, hnone⟩ := hruns
  rw [hn] at hm
  obtain rfl := Option.some.inj hm
  have hname : ∀ m ∈ [n], IsName m := List.forall_mem_singleton.2 ⟨schema, hn⟩
  exact ho (opens_of_stage hname hnone n List.mem_cons_self)

end Resolve

end Schema

end ProtoCheck
