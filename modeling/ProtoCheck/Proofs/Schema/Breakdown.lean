import ProtoCheck.Proofs.Schema.Diagnostic
import ProtoCheck.Proofs.Schema.Resolution

/-!
# Where resolving breaks down

A failure of resolving is reported, a breakdown is not. With a compiler that writes what it is asked
for there are two kinds of breakdowns: something is in the way of a file that is to be staged, or
what the compiler puts out cannot be read.

* `Breaks` : a result is a breakdown;
* `exists_stage_broken_iff` : staging a name breaks down when something is in its way;
* `Compiler.Writes`, `exists_load` : what a compiler writes can be loaded;
* `Answer.Legible` : an answer that can be read (`breaks_settle_iff`);
* `breaks_resolve_iff` : when resolving breaks down.
-/

namespace ProtoCheck

/-! ## Breakdowns -/

/-- A result is a breakdown. -/
def Breaks {α : Type} (x : Except Stop α) : Prop := ∃ b, x = .error (.broken b)

section Breaks
variable {α β : Type}

theorem not_breaks_ok (a : α) : ¬ Breaks (.ok a) :=
  fun ⟨_, h⟩ => nomatch h

theorem not_breaks_failed (f : Failure) : ¬ Breaks (.error (.failed f) : Except Stop α) :=
  fun ⟨_, h⟩ => nomatch h

theorem breaks_broken (b : Breakdown) : Breaks (.error (.broken b) : Except Stop α) :=
  ⟨b, rfl⟩

theorem breaks_bind_iff {x : Except Stop α} {f : α → Except Stop β} :
    Breaks (x.bind f) ↔ Breaks x ∨ ∃ a, x = .ok a ∧ Breaks (f a) := by
  cases x with
  | ok a =>
    refine ⟨fun h => .inr ⟨a, rfl, h⟩, ?_⟩
    rintro (h | ⟨a', ha, h⟩)
    · exact absurd h (not_breaks_ok a)
    · obtain rfl := Except.ok.inj ha
      exact h
  | error e =>
    constructor
    · rintro ⟨b, h⟩
      exact .inl ⟨b, congrArg Except.error (Except.error.inj h)⟩
    · rintro (⟨b, h⟩ | ⟨_, h, _⟩)
      · exact ⟨b, congrArg Except.error (Except.error.inj h)⟩
      · exact nomatch h

end Breaks

namespace Schema

open Descriptor

/-! ## Staging -/

section Stage
variable {dir : String} {store : Store} {roots : List String} {n : String}

/-- A name that opens nowhere leads to nothing else. -/
theorem Reachable.eq_of_missing {e : Option AccessError} (h : lookUp store roots n = .missing e)
    {d : String} (hd : Reachable store roots [n] d) : d = n := by
  refine List.mem_singleton.1 (hd.mem_of_closed (fun m hm => hm) fun m hm d hd => ?_)
  rw [List.mem_singleton] at hm
  exact absurd (hm ▸ hd) (not_imports_of_missing h d)

/-- Nothing is in the way of a name that opens nowhere. -/
theorem Staging.stageable_of_missing {e : Option AccessError}
    (h : Schema.lookUp store roots n = .missing e) : Stageable dir store roots [n] := by
  have hdue : ∀ f, ¬ Due store roots [n] f := by
    rintro f ⟨hr, ho⟩
    rw [hr.eq_of_missing h] at ho
    exact lookUp_missing h ho.opens
  constructor
  · intro d hd
    rw [hd.eq_of_missing h, h]
    exact Lookup.noConfusion
  · exact fun f hf => absurd hf (hdue f)
  · exact fun f g hf => absurd hf (hdue f)

theorem stage_of_nul (h : lookUp store roots n = .nul) :
    (stage dir store roots [n]).2 = some (.broken .nulInPath) := by
  unfold stage
  rw [Staging.request, Staging.run_nul List.not_mem_nil h]
  rfl

/-- Staging a name breaks down when something is in its way, and only then. -/
theorem exists_stage_broken_iff (hn : IsName n) :
    (∃ b, (stage dir store roots [n]).2 = some (.broken b)) ↔
      ¬ Staging.Stageable dir store roots [n] := by
  rcases stage_outcome dir store roots (List.forall_mem_singleton.2 hn) with
    ⟨hnone, -, hs, -⟩ | ⟨hs, hb⟩ | ⟨before, m, after, he, -, ho, hf⟩
  · rw [hnone]
    exact ⟨fun ⟨b, hb⟩ => (nomatch hb), fun h => absurd hs h⟩
  · exact ⟨fun _ => hs, fun _ => hb⟩
  · have hm : m = n := List.mem_singleton.1 (he ▸ List.mem_append_right _ List.mem_cons_self)
    rw [hm] at ho
    cases hl : lookUp store roots n with
    | found i c => exact absurd (lookUp_found hl).opens ho
    | nul => exact nomatch (stage_of_nul hl).symm.trans hf
    | missing e =>
      rw [hf]
      exact ⟨fun ⟨b, hb⟩ => (nomatch hb), fun h => absurd (Staging.stageable_of_missing hl) h⟩

end Stage

/-! ## Answers -/

/-- On success the compiler writes descriptors that fit together, and the requested files are among
them. -/
def Compiler.Writes (c : Compiler) : Prop :=
  ∀ r output written, c.answer r = .finished 0 output written →
    ∃ files pool, written.read? = .ok files ∧ Pool.ofFiles? files = some pool ∧
      ∀ n ∈ r.names, (pool.file? n).isSome

/-- Descriptors that fit together can be loaded when the requested files are among them. -/
theorem exists_load {names : List String} {written : Written} {files : List FileDecl} {pool : Pool}
    (hread : written.read? = .ok files) (hpool : Pool.ofFiles? files = some pool)
    (hnames : ∀ n ∈ names, (pool.file? n).isSome) : ∃ a, load names written = .ok a := by
  obtain ⟨fs, hfs⟩ := exists_mapM_iff.2 fun n hn => Option.isSome_iff_exists.1 (hnames n hn)
  refine ⟨⟨pool, fs⟩, ?_⟩
  unfold load
  simp only [hread, hpool, hfs, bind, Except.bind]

/-- What a start of the compiler comes to can be read: its outputs are UTF-8, and no number in the
error output has too many digits. -/
def Answer.Legible : Answer → Prop
  | .notStarted _ => True
  | .garbled => False
  | .finished _ output _ => Diagnostic.ShortNumerals (Text.trimmed output)

/-- An answer to a compiler's start breaks a compilation when it cannot be read, and only then. -/
theorem breaks_settle_iff {c : Compiler} (hc : c.Writes) (r : Invocation) :
    Breaks (settle r.names (c.answer r)).result ↔ ¬ (c.answer r).Legible := by
  cases ha : c.answer r with
  | notStarted e => exact ⟨fun h => absurd h (not_breaks_failed _), fun h => absurd trivial h⟩
  | garbled => exact ⟨fun _ => id, fun _ => breaks_broken _⟩
  | finished status output written =>
    by_cases hshort : Diagnostic.ShortNumerals (Text.trimmed output)
    · have hno : ¬ Breaks (settle r.names (.finished status output written)).result := by
        obtain ⟨ds, hds⟩ := Diagnostic.exists_parse_iff.2 hshort
        by_cases hs : status = 0
        · rw [hs] at ha ⊢
          obtain ⟨files, pool, hread, hpool, hnames⟩ := hc r output written ha
          obtain ⟨a, ha⟩ := exists_load hread hpool hnames
          rw [result_settle_of_accepted hds, ha]
          exact not_breaks_ok a
        · rw [result_settle_of_rejected hds hs]
          exact not_breaks_failed _
      exact ⟨fun h => absurd h hno, fun h => absurd hshort h⟩
    · have hnone : Diagnostic.parse (Text.trimmed output) = none :=
        Option.eq_none_iff_forall_ne_some.2 fun ds hds =>
          hshort (Diagnostic.exists_parse_iff.1 ⟨ds, hds⟩)
      rw [result_settle_of_unreadable hnone]
      exact ⟨fun _ => hshort, fun _ => breaks_broken _⟩

/-! ## Resolving -/

theorem not_breaks_find (files : List FileDecl) (name : String) :
    ¬ Breaks (find files name).result := by
  unfold find
  rw [Traced.result_bind]
  cases findMessage? files name with
  | none => exact not_breaks_failed _
  | some found => exact not_breaks_ok found

section Resolve
variable (c : Compiler) (store : Store) (importPaths : List String) (schema name : String)

/-- Resolving breaks down where compiling does. -/
theorem breaks_resolve_iff_compile : Breaks (resolve c store importPaths schema name).result ↔
    Breaks (compile c store importPaths [schema]).result := by
  unfold resolve
  rw [Traced.result_bind, breaks_bind_iff]
  refine ⟨?_, .inl⟩
  rintro (h | ⟨compiled, -, h⟩)
  · exact h
  · rw [Traced.result_bind, breaks_bind_iff] at h
    rcases h with h | ⟨found, -, h⟩
    · exact absurd h (not_breaks_find _ _)
    · exact absurd h (not_breaks_ok _)

variable {c store importPaths schema name}

/-- Resolving breaks down when something is in the way of the schema, or when the compiler is
started for it and its answer cannot be read. -/
theorem breaks_resolve_iff (hc : c.Writes) :
    Breaks (resolve c store importPaths schema name).result ↔
      (∃ n, virtualName? schema = some n ∧
        ¬ Staging.Stageable c.directory store (searchedRoots importPaths) [n]) ∨
      ∃ r ∈ (resolve c store importPaths schema name).journal.runs, ¬ (c.answer r).Legible := by
  have hne : [schema] ≠ [] := List.cons_ne_nil schema []
  rw [breaks_resolve_iff_compile, runs_resolve]
  cases hname : virtualName? schema with
  | none =>
    have hnames : virtualNames [schema] = .error (outsideRoots schema) := by
      rw [virtualNames_cons, hname]
    have hcompile : (compile c store importPaths [schema]).result =
        .error (.failed (outsideRoots schema)) ∧
          (compile c store importPaths [schema]).journal.runs = [] :=
      compile_of_unnamed c hne hnames
    rw [hcompile.1, hcompile.2]
    refine ⟨fun h => absurd h (not_breaks_failed _), ?_⟩
    rintro (⟨_, h, _⟩ | ⟨_, h, _⟩)
    · exact nomatch h
    · exact absurd h List.not_mem_nil
  | some n =>
    have hnames : virtualNames [schema] = .ok [n] := virtualNames_singleton.2 ⟨n, hname, rfl⟩
    have hstage :
        (∃ b, (stage c.directory store (searchedRoots importPaths) [n]).2 = some (.broken b)) ↔
          ¬ Staging.Stageable c.directory store (searchedRoots importPaths) [n] :=
      exists_stage_broken_iff ⟨schema, hname⟩
    cases hs : (stage c.directory store (searchedRoots importPaths) [n]).2 with
    | some e =>
      obtain ⟨hresult, hruns⟩ := compile_of_stopped c hne hnames hs
      rw [hs] at hstage
      rw [hresult, hruns]
      constructor
      · rintro ⟨b, hb⟩
        exact .inl ⟨n, rfl, hstage.1 ⟨b, congrArg some (Except.error.inj hb)⟩⟩
      · rintro (⟨m, hm, h⟩ | ⟨_, h, _⟩)
        · obtain rfl := Option.some.inj hm
          obtain ⟨b, hb⟩ := hstage.2 h
          exact ⟨b, congrArg Except.error (Option.some.inj hb)⟩
        · exact absurd h List.not_mem_nil
    | none =>
      obtain ⟨hresult, hruns⟩ := compile_of_staged c hne hnames hs
      rw [hs] at hstage
      rw [hresult, hruns]
      have hsettle := breaks_settle_iff hc ⟨(searchedRoots importPaths).length, [n],
        (stage c.directory store (searchedRoots importPaths) [n]).1.files⟩
      rw [hsettle]
      constructor
      · exact fun h => .inr ⟨_, List.mem_cons_self, h⟩
      · rintro (⟨m, hm, h⟩ | ⟨_, h, hillegible⟩)
        · obtain rfl := Option.some.inj hm
          obtain ⟨b, hb⟩ := hstage.2 h
          exact nomatch hb
        · rw [List.mem_singleton.1 h] at hillegible
          exact hillegible

end Resolve

end Schema

end ProtoCheck
