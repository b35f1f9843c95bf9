import ProtoCheck.Schema.Compiler

/-!
# Starts of the compiler

* `Traced.result_bind`, `Traced.journal_bind` : a computation goes on with its result, and its
  journal comes first;
* `exists_journal_settle` : an answer starts and opens nothing; `result_settle_of_unreadable`,
  `result_settle_of_rejected`, `result_settle_of_accepted` : what follows from one;
* `map_virtualName?_of_virtualNames`, `exists_first_of_virtualNames` : the names of schema paths,
  and the first path without one;
* `compile_cases` : what a compilation comes to;
* `runs_compile_ne_nil_iff`, `length_runs_compile_le` : the compiler is started once when all names
  are staged, and never otherwise.
-/

namespace ProtoCheck.Schema

/-! ## Traced computations -/

@[simp] theorem mapError_ok {ε ε' α : Type} (f : ε → ε') (a : α) :
    (Except.ok a : Except ε α).mapError f = .ok a := rfl

@[simp] theorem mapError_error {ε ε' α : Type} (f : ε → ε') (e : ε) :
    (Except.error e : Except ε α).mapError f = .error (f e) := rfl

namespace Traced

variable {α β : Type}

theorem bind_of_ok {x : Traced α} {a : α} (h : x.result = .ok a) (f : α → Traced β) :
    x >>= f = ⟨(f a).result, x.journal ++ (f a).journal⟩ := by
  change Traced.bind x f = _
  unfold Traced.bind
  rw [h]

theorem bind_of_error {x : Traced α} {e : Stop} (h : x.result = .error e) (f : α → Traced β) :
    x >>= f = ⟨.error e, x.journal⟩ := by
  change Traced.bind x f = _
  unfold Traced.bind
  rw [h]

theorem bind_congr {x : Traced α} {f g : α → Traced β}
    (h : ∀ a, x.result = .ok a → f a = g a) : x >>= f = x >>= g := by
  cases hx : x.result with
  | ok a => rw [bind_of_ok hx, bind_of_ok hx, h a hx]
  | error e => rw [bind_of_error hx, bind_of_error hx]

@[simp] theorem result_bind (x : Traced α) (f : α → Traced β) :
    (x >>= f).result = x.result.bind fun a => (f a).result := by
  cases h : x.result with
  | ok a =>
    rw [bind_of_ok h]
    rfl
  | error e =>
    rw [bind_of_error h]
    rfl

theorem journal_append_empty (j : Journal) : j ++ {} = j := by
  cases j
  exact congr (congr (congrArg Journal.mk (List.append_nil _)) (List.append_nil _))
    (List.append_nil _)

/-- The journal of what comes first, and behind it that of what goes on with its result. -/
theorem journal_bind (x : Traced α) (f : α → Traced β) :
    (x >>= f).journal = x.journal ++ x.result.toOption.elim {} fun a => (f a).journal := by
  cases h : x.result with
  | ok a =>
    rw [bind_of_ok h]
    rfl
  | error e =>
    rw [bind_of_error h]
    exact (journal_append_empty _).symm

@[simp] theorem runs_bind (x : Traced α) (f : α → Traced β) :
    (x >>= f).journal.runs =
      x.journal.runs ++ x.result.toOption.elim [] fun a => (f a).journal.runs := by
  rw [journal_bind]
  cases x.result.toOption <;> rfl

@[simp] theorem opened_bind (x : Traced α) (f : α → Traced β) :
    (x >>= f).journal.opened =
      x.journal.opened ++ x.result.toOption.elim [] fun a => (f a).journal.opened := by
  rw [journal_bind]
  cases x.result.toOption <;> rfl

@[simp] theorem records_bind (x : Traced α) (f : α → Traced β) :
    (x >>= f).journal.records =
      x.journal.records ++ x.result.toOption.elim [] fun a => (f a).journal.records := by
  rw [journal_bind]
  cases x.result.toOption <;> rfl

@[simp] theorem journal_pure (a : α) : (Pure.pure a : Traced α).journal = {} := rfl

@[simp] theorem result_ofExcept (e : Except Stop α) : (ofExcept e).result = e := rfl

@[simp] theorem journal_ofExcept (e : Except Stop α) : (ofExcept e).journal = {} := rfl

@[simp] theorem journal_fail (f : Failure) : (fail f : Traced α).journal = {} := rfl

@[simp] theorem result_log (rs : List Log.Record) : (log rs).result = .ok () := rfl

@[simp] theorem journal_log (rs : List Log.Record) : (log rs).journal = { records := rs } := rfl

@[simp] theorem result_start (r : Invocation) : (start r).result = .ok () := rfl

@[simp] theorem journal_start (r : Invocation) : (start r).journal = { runs := [r] } := rfl

@[simp] theorem result_touch (path : String) : (touch path).result = .ok () := rfl

@[simp] theorem journal_touch (path : String) : (touch path).journal = { opened := [path] } := rfl

end Traced

/-! ## Compiling -/

/-- An answer writes warnings to the log, and does nothing else. -/
theorem exists_journal_settle (names : List String) (a : Answer) :
    ∃ texts : List String,
      (settle names a).journal = { records := texts.map Log.Channel.schema.warn } := by
  cases a with
  | notStarted e => exact ⟨[], rfl⟩
  | garbled => exact ⟨[], rfl⟩
  | finished status output written =>
    unfold settle
    dsimp only
    split
    · exact ⟨[], rfl⟩
    · rename_i ds _
      split
      · exact ⟨[], rfl⟩
      · refine ⟨ds.map fun d => "protoc: " ++ d.text, ?_⟩
        rw [Traced.journal_bind, List.map_map]
        exact Traced.journal_append_empty _

@[simp] theorem runs_settle (names : List String) (a : Answer) :
    (settle names a).journal.runs = [] := by
  obtain ⟨texts, h⟩ := exists_journal_settle names a
  rw [h]

@[simp] theorem opened_settle (names : List String) (a : Answer) :
    (settle names a).journal.opened = [] := by
  obtain ⟨texts, h⟩ := exists_journal_settle names a
  rw [h]

/-- An error output that cannot be read breaks a compilation, whatever its status. -/
theorem result_settle_of_unreadable {names : List String} {status : Int} {output : String}
    {written : Written} (h : Diagnostic.parse (Text.trimmed output) = none) :
    (settle names (.finished status output written)).result =
      .error (.broken .numeralTooLong) := by
  unfold settle
  dsimp only
  rw [h]
  rfl

section Settle
variable {names : List String} {status : Int} {output : String} {written : Written}
  {ds : List Diagnostic} (h : Diagnostic.parse (Text.trimmed output) = some ds)
include h

theorem result_settle_of_rejected (hs : status ≠ 0) :
    (settle names (.finished status output written)).result =
      .error (.failed (rejected status (Text.trimmed output) ds)) := by
  unfold settle
  dsimp only
  rw [h]
  dsimp only
  rw [if_pos (bne_iff_ne.2 hs)]
  rfl

theorem result_settle_of_accepted :
    (settle names (.finished 0 output written)).result =
      (load names written).mapError .broken := by
  unfold settle
  dsimp only
  rw [h]
  dsimp only
  rw [if_neg (by decide), Traced.result_bind]
  rfl

end Settle

@[simp] theorem runs_staged (dir : String) (store : Store) (roots names : List String) :
    (staged dir store roots names).journal.runs = [] := rfl

theorem result_staged_of_none {dir : String} {store : Store} {roots names : List String}
    (h : (stage dir store roots names).2 = none) :
    (staged dir store roots names).result = .ok (stage dir store roots names).1.files := by
  unfold staged
  dsimp only
  rw [h]

theorem result_staged_of_some {dir : String} {store : Store} {roots names : List String} {e : Stop}
    (h : (stage dir store roots names).2 = some e) :
    (staged dir store roots names).result = .error e := by
  unfold staged
  dsimp only
  rw [h]

section Names
-- the equation below is checked without computing names
attribute [local irreducible] virtualName?

theorem virtualNames_cons (path : String) (rest : List String) :
    virtualNames (path :: rest) = match virtualName? path with
      | none => .error (outsideRoots path)
      | some name => (virtualNames rest).map (name :: ·) := rfl

/-- The names of schema paths are those that each of them has. -/
theorem map_virtualName?_of_virtualNames {schemas names : List String}
    (h : virtualNames schemas = .ok names) : schemas.map virtualName? = names.map some := by
  induction schemas generalizing names with
  | nil =>
    cases h
    rfl
  | cons path rest ih =>
    rw [virtualNames_cons] at h
    split at h
    · exact nomatch h
    · rename_i name hname
      cases hrest : virtualNames rest with
      | error f =>
        rw [hrest] at h
        exact nomatch h
      | ok ns =>
        rw [hrest] at h
        have hcons : name :: ns = names := Except.ok.inj h
        rw [List.map_cons, hname, ih hrest, ← hcons, List.map_cons]

/-- Without names for all schema paths, the failure is that of the first path without one. -/
theorem exists_first_of_virtualNames {schemas : List String} {f : Failure}
    (h : virtualNames schemas = .error f) : ∃ before path after,
      schemas = before ++ path :: after ∧ (∀ p ∈ before, virtualName? p ≠ none) ∧
        virtualName? path = none ∧ f = outsideRoots path := by
  induction schemas with
  | nil => exact nomatch h
  | cons path rest ih =>
    rw [virtualNames_cons] at h
    split at h
    · rename_i hnone
      have hbefore : ∀ p ∈ [], virtualName? p ≠ none := fun p hp => absurd hp List.not_mem_nil
      exact ⟨[], path, rest, rfl, hbefore, hnone, (Except.error.inj h).symm⟩
    · rename_i name hname
      cases hrest : virtualNames rest with
      | error e =>
        rw [hrest] at h
        obtain ⟨before, p, after, rfl, hbefore, hp⟩ := ih (hrest.trans h)
        have hpath : virtualName? path ≠ none := by
          rw [hname]
          exact Option.some_ne_none name
        exact ⟨path :: before, p, after, rfl, List.forall_mem_cons.2 ⟨hpath, hbefore⟩, hp⟩
      | ok ns =>
        rw [hrest] at h
        exact nomatch h

/-- The failure of a path without a name. -/
theorem eq_outsideRoots_of_virtualNames {schemas : List String} {f : Failure}
    (h : virtualNames schemas = .error f) : ∃ path, f = outsideRoots path := by
  obtain ⟨-, path, -, -, -, -, hf⟩ := exists_first_of_virtualNames h
  exact ⟨path, hf⟩

/-- The names of one schema path. -/
theorem virtualNames_singleton {path : String} {names : List String} :
    virtualNames [path] = .ok names ↔ ∃ n, virtualName? path = some n ∧ names = [n] := by
  rw [virtualNames_cons]
  cases virtualName? path with
  | none => exact ⟨fun h => (nomatch h), fun ⟨_, h, _⟩ => (nomatch h)⟩
  | some n =>
    constructor
    · intro h
      exact ⟨n, rfl, (Except.ok.inj h).symm⟩
    · rintro ⟨m, hm, rfl⟩
      rw [Option.some.inj hm]
      rfl

end Names

section Compile
variable (c : Compiler) {store : Store} {importPaths schemas names : List String}

/-- A schema path without a name ends a compilation before anything is staged. -/
theorem compile_of_unnamed {f : Failure} (hs : schemas ≠ [])
    (hn : virtualNames schemas = .error f) :
    (compile c store importPaths schemas).result = .error (.failed f) ∧
      (compile c store importPaths schemas).journal.runs = [] := by
  have he : schemas.isEmpty = false := List.isEmpty_eq_false_iff.2 hs
  simp [compile, he, hn, Except.bind, Except.toOption]

/-- What stops staging ends a compilation before the compiler is started. -/
theorem compile_of_stopped {e : Stop} (hs : schemas ≠ []) (hn : virtualNames schemas = .ok names)
    (h : (stage c.directory store (searchedRoots importPaths) names).2 = some e) :
    (compile c store importPaths schemas).result = .error e ∧
      (compile c store importPaths schemas).journal.runs = [] := by
  have he : schemas.isEmpty = false := List.isEmpty_eq_false_iff.2 hs
  simp [compile, he, hn, Except.bind, Except.toOption, result_staged_of_some h]

/-- When all names are staged the compiler is started, once, on what is staged. -/
theorem compile_of_staged (hs : schemas ≠ []) (hn : virtualNames schemas = .ok names)
    (h : (stage c.directory store (searchedRoots importPaths) names).2 = none) :
    (compile c store importPaths schemas).result =
        (settle names (c.answer ⟨(searchedRoots importPaths).length, names,
          (stage c.directory store (searchedRoots importPaths) names).1.files⟩)).result ∧
      (compile c store importPaths schemas).journal.runs =
        [⟨(searchedRoots importPaths).length, names,
          (stage c.directory store (searchedRoots importPaths) names).1.files⟩] := by
  have he : schemas.isEmpty = false := List.isEmpty_eq_false_iff.2 hs
  simp [compile, he, hn, Except.bind, Except.toOption, result_staged_of_none h]

/-- What a compilation comes to: it needs a schema, a name for each of them, and all of them staged;
then the compiler is started. -/
theorem compile_cases (store : Store) (importPaths schemas : List String) :
    (schemas = [] ∧
      (compile c store importPaths schemas).result = .error (.broken .noSchema) ∧
      (compile c store importPaths schemas).journal.runs = []) ∨
    (∃ f, virtualNames schemas = .error f ∧
      (compile c store importPaths schemas).result = .error (.failed f) ∧
      (compile c store importPaths schemas).journal.runs = []) ∨
    (∃ names e, virtualNames schemas = .ok names ∧
      (stage c.directory store (searchedRoots importPaths) names).2 = some e ∧
      (compile c store importPaths schemas).result = .error e ∧
      (compile c store importPaths schemas).journal.runs = []) ∨
    ∃ names, schemas ≠ [] ∧ virtualNames schemas = .ok names ∧
      (stage c.directory store (searchedRoots importPaths) names).2 = none ∧
      ∃ r, (compile c store importPaths schemas).result = (settle names (c.answer r)).result ∧
        (compile c store importPaths schemas).journal.runs = [r] := by
  by_cases hs : schemas = []
  · rw [hs]
    exact .inl ⟨rfl, rfl, rfl⟩
  · right
    cases hn : virtualNames schemas with
    | error f => exact .inl ⟨f, rfl, compile_of_unnamed c hs hn⟩
    | ok names =>
      right
      cases h : (stage c.directory store (searchedRoots importPaths) names).2 with
      | some e => exact .inl ⟨names, e, rfl, h, compile_of_stopped c hs hn h⟩
      | none => exact .inr ⟨names, hs, rfl, h, _, compile_of_staged c hs hn h⟩

/-- The compiler is started when all names are staged, and only then. -/
theorem runs_compile_ne_nil_iff :
    (compile c store importPaths schemas).journal.runs ≠ [] ↔ schemas ≠ [] ∧
      ∃ names, virtualNames schemas = .ok names ∧
        (stage c.directory store (searchedRoots importPaths) names).2 = none := by
  rcases compile_cases c store importPaths schemas with
    ⟨hs, -, hr⟩ | ⟨f, hn, -, hr⟩ | ⟨names, e, hn, he, -, hr⟩ | ⟨names, hs, hn, hnone, r, -, hr⟩
  · exact ⟨fun h => absurd hr h, fun h => absurd hs h.1⟩
  · refine ⟨fun h => absurd hr h, ?_⟩
    rintro ⟨-, names, hn', -⟩
    rw [hn] at hn'
    exact nomatch hn'
  · refine ⟨fun h => absurd hr h, ?_⟩
    rintro ⟨-, names', hn', hnone⟩
    rw [hn] at hn'
    rw [← Except.ok.inj hn', he] at hnone
    exact nomatch hnone
  · rw [hr]
    exact ⟨fun _ => ⟨hs, names, hn, hnone⟩, fun _ => List.cons_ne_nil r []⟩

/-- The compiler is started once at most. -/
theorem length_runs_compile_le : (compile c store importPaths schemas).journal.runs.length ≤ 1 := by
  rcases compile_cases c store importPaths schemas with
    ⟨-, -, hr⟩ | ⟨_, -, -, hr⟩ | ⟨_, _, -, -, -, hr⟩ | ⟨_, -, -, -, _, -, hr⟩
  · exact hr ▸ Nat.zero_le 1
  · exact hr ▸ Nat.zero_le 1
  · exact hr ▸ Nat.zero_le 1
  · exact hr ▸ Nat.le_refl 1

/-- What compiles has been staged. -/
theorem runs_compile_ne_nil_of_ok {a : Compiled}
    (h : (compile c store importPaths schemas).result = .ok a) :
    (compile c store importPaths schemas).journal.runs ≠ [] := by
  rcases compile_cases c store importPaths schemas with
    ⟨-, he, -⟩ | ⟨f, -, he, -⟩ | ⟨_, e, -, -, he, -⟩ | ⟨_, -, -, -, r, -, hr⟩
  · rw [he] at h
    exact nomatch h
  · rw [he] at h
    exact nomatch h
  · rw [he] at h
    exact nomatch h
  · rw [hr]
    exact List.cons_ne_nil r []

end Compile

end ProtoCheck.Schema
