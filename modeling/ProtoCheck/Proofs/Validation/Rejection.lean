import ProtoCheck.Proofs.Schema.Diagnostic
import ProtoCheck.Proofs.Validation

/-!
# Where a rejected schema is reported

When the compiler ends with a status other than zero, its error output is read for diagnostics, the
errors among them are blamed, and the first of these that names a file gives the place.

* `Entry.PlacedBy` : an entry stands where the first of some diagnostics that names a file does;
  `Outcome.entryOf_placedBy` : so does the entry for the failure of a schema;
* `Validator.result_check_of_rejected` : what is recorded when the compiler rejects a schema;
* `Validator.check_places_rejection` : its message and its place.
-/

namespace ProtoCheck

open Schema

/-! ## Places -/

/-- An entry of the file at `path` has the line and column of the first diagnostic that names a
file, and names that file where it is another one; it has no place when none of them names a
file. -/
structure Entry.PlacedBy (e : Entry) (path : String) (ds : List Diagnostic) : Prop where
  first : ∀ before m after file, ds = before ++ m :: after →
    (∀ x ∈ before, x.location.file = none) → m.location.file = some file →
    e.line = m.location.line ∧ e.column = m.location.column ∧
      e.file = if file = tidied path then none else some file
  none : (∀ m ∈ ds, m.location.file = none) → e.file = none ∧ e.line = none ∧ e.column = none

/-- An entry with a place has that of one of the diagnostics. -/
theorem Entry.PlacedBy.exists_mem {e : Entry} {path : String} {ds : List Diagnostic}
    (h : e.PlacedBy path ds) (he : e.file ≠ Option.none ∨ e.line ≠ Option.none ∨
      e.column ≠ Option.none) :
    ∃ m ∈ ds, ∃ file, m.location.file = some file ∧ e.line = m.location.line ∧
      e.column = m.location.column ∧ (e.file = Option.none ∨ e.file = some file) := by
  cases hloc : Diagnostic.firstLocation ds with
  | none =>
    obtain ⟨hfile, hline, hcolumn⟩ := h.none (Diagnostic.firstLocation_eq_none_iff.1 hloc)
    exact absurd he (by simp [hfile, hline, hcolumn])
  | some loc =>
    obtain ⟨before, m, after, rfl, hbefore, hm, rfl⟩ :=
      Diagnostic.firstLocation_eq_some_iff.1 hloc
    obtain ⟨file, hfile⟩ := Option.isSome_iff_exists.1 hm
    obtain ⟨hline, hcolumn, hf⟩ := h.first before m after file rfl hbefore hfile
    refine ⟨m, List.mem_append_right _ List.mem_cons_self, file, hfile, hline, hcolumn, ?_⟩
    rw [hf]
    split
    · exact .inl rfl
    · exact .inr rfl

/-- An entry stands where its failure does. -/
theorem Outcome.entryOf_placedBy {path : String} {f : Failure} {ds : List Diagnostic}
    (h : f.location = Diagnostic.firstLocation ds) :
    (Outcome.entryOf (tidied path) f).PlacedBy path ds := by
  constructor
  · rintro before m after file rfl hbefore hfile
    have hfirst : Diagnostic.firstLocation (before ++ m :: after) = some m.location :=
      Diagnostic.firstLocation_eq_some_iff.2
        ⟨before, m, after, rfl, hbefore, by rw [hfile]; rfl, rfl⟩
    rw [hfirst] at h
    have hentry := Validator.file_entryOf_of_location path h hfile
    unfold Outcome.entryOf at hentry ⊢
    rw [h] at hentry ⊢
    exact ⟨rfl, rfl, hentry⟩
  · intro hnone
    rw [Diagnostic.firstLocation_eq_none_iff.2 hnone] at h
    unfold Outcome.entryOf
    rw [h]
    exact ⟨rfl, rfl, rfl⟩

/-! ## Rejections -/

namespace Validator

variable {v : Validator} {path : String} {raw : Bytes} {d : Directives}

/-- A run that starts the compiler goes on with its answer. -/
theorem exists_settled_of_runs {r : Invocation} (h : v.Heads path raw d)
    (hr : (v.check path).journal.runs = [r]) :
    ∃ names, (compile v.compiler v.store v.importPaths [d.schema]).result =
      (settle names (v.compiler.answer r)).result := by
  rw [runs_check, runs_validate_of_heads h, runs_resolve] at hr
  rcases compile_cases v.compiler v.store v.importPaths [d.schema] with
    ⟨hs, -⟩ | ⟨_, -, -, hnil⟩ | ⟨_, _, -, -, -, hnil⟩ | ⟨names, -, -, -, r', hres, hone⟩
  · exact nomatch hs
  · exact nomatch hnil.symm.trans hr
  · exact nomatch hnil.symm.trans hr
  · obtain rfl := List.head_eq_of_cons_eq (hone.symm.trans hr)
    exact ⟨names, hres⟩

theorem message_entryOf_unresolved (file : String) (d : Directives) (f : Failure) :
    (Outcome.entryOf file (unresolved d f)).message =
      "failed to find message " ++ d.message ++ " in " ++ d.schema ++ ": " ++ f.message := rfl

theorem message_rejected (status : Int) (output : String) (ds : List Diagnostic) :
    (rejected status output ds).message =
      if output = "" then "protoc exited with status " ++ toString status else output := by
  unfold rejected Failure.schemaCompile
  simp only [String.isEmpty_iff]

section Rejected
variable {r : Invocation} {status : Int} {output : String} {written : Written}
  {ds : List Diagnostic} (h : v.Heads path raw d) (hr : (v.check path).journal.runs = [r])
  (ha : v.compiler.answer r = .finished status output written)
include h hr ha

/-- What is recorded when the compiler rejects a schema. -/
theorem result_check_of_rejected (hs : status ≠ 0)
    (hds : Diagnostic.parse (Text.trimmed output) = some ds) :
    (v.check path).result = .ok ⟨tidied path, [Outcome.entryOf (tidied path)
      (unresolved d (rejected status (Text.trimmed output) ds))]⟩ := by
  obtain ⟨names, hcompile⟩ := exists_settled_of_runs h hr
  rw [ha, result_settle_of_rejected hds hs] at hcompile
  exact result_check_of_failed
    (result_validate_of_unresolved h (result_resolve_of_stopped hcompile))

end Rejected

/-- **Where a rejected schema is reported.** When the compiler is started for a file and ends with a
status other than zero, one error of resolving is recorded. Its message repeats the error output, or
gives the status where that is blank. It stands where the first of the errors in the output that
names a file does; other diagnostics count only where there is no error. -/
theorem check_places_rejection (v : Validator) {path : String} {raw : Bytes} {d : Directives}
    {r : Invocation} {status : Int} {output : String} {written : Written}
    (h : v.Heads path raw d) (hr : (v.check path).journal.runs = [r])
    (ha : v.compiler.answer r = .finished status output written) (hs : status ≠ 0)
    (hnum : Diagnostic.ShortNumerals (Text.trimmed output)) :
    ∃ ds e, Diagnostic.parse (Text.trimmed output) = some ds ∧
      (v.check path).result = .ok ⟨tidied path, [e]⟩ ∧ e.stage = Stage.resolve.name ∧
      e.message = "failed to find message " ++ d.message ++ " in " ++ d.schema ++ ": " ++
        (if Text.trimmed output = "" then "protoc exited with status " ++ toString status
          else Text.trimmed output) ∧
      e.PlacedBy path (if ∃ m ∈ ds, m.severity = .error
        then ds.filter fun m => m.severity = .error else ds) ∧
      ((∃ m ∈ ds, m.severity = .error) → (e.file ≠ none ∨ e.line ≠ none ∨ e.column ≠ none) →
        ∃ m ∈ ds, m.severity = .error ∧ ∃ file, m.location.file = some file ∧
          e.line = m.location.line ∧ e.column = m.location.column ∧
          (e.file = none ∨ e.file = some file)) := by
  obtain ⟨ds, hds⟩ := Diagnostic.exists_parse_iff.2 hnum
  obtain ⟨e, he⟩ : ∃ e, e = Outcome.entryOf (tidied path)
    (unresolved d (rejected status (Text.trimmed output) ds)) := ⟨_, rfl⟩
  have hplaced : e.PlacedBy path
      (if ∃ m ∈ ds, m.severity = .error then ds.filter fun m => m.severity = .error else ds) := by
    rw [← Diagnostic.blamed_eq, he]
    exact Outcome.entryOf_placedBy rfl
  refine ⟨ds, e, hds, he ▸ result_check_of_rejected h hr ha hs hds, ?_, ?_, hplaced, ?_⟩
  · rw [he]
    rfl
  · rw [he, message_entryOf_unresolved, message_rejected]
  · intro herror hplace
    rw [if_pos herror] at hplaced
    obtain ⟨m, hm, file, hfile⟩ := hplaced.exists_mem hplace
    obtain ⟨hm, hsev⟩ := List.mem_filter.1 hm
    exact ⟨m, hm, by simpa using hsev, file, hfile⟩

/-- An error output with a warning before the error, which stands in another schema. -/
def mixedOutput : String := "a.proto:1:1: warning: unused\nt.proto:3:5: missing\n"

/-- A plain file whose schema the compiler rejects. -/
def rejecting : Validator :=
  ⟨plainStore, [], ⟨["protoc"], "staging", fun _ => .finished 1 mixedOutput .nothing⟩⟩

theorem exists_run_rejecting : ∃ r, (rejecting.check "./m.textproto").journal.runs = [r] := by
  have hheads : rejecting.Heads "./m.textproto" plainInput ⟨"a.proto", "M"⟩ := heads_plain _
  rw [runs_check, runs_validate_of_heads hheads, runs_resolve]
  exact ⟨_, (compile_of_staged rejecting.compiler (List.cons_ne_nil "a.proto" [])
    virtualNames_plain stage_plain).2⟩

/-- The place of the error is reported, not that of the warning. -/
theorem check_rejecting : ∃ e,
    (rejecting.check "./m.textproto").result = .ok ⟨"m.textproto", [e]⟩ ∧
      e.stage = "resolve" ∧ e.file = some "t.proto" ∧ e.line = some 3 ∧ e.column = some 5 := by
  obtain ⟨r, hr⟩ := exists_run_rejecting
  have hparse : Diagnostic.parse (Text.trimmed mixedOutput) = some
      [⟨"warning: unused", { file := some "a.proto", line := some 1, column := some 1 }, .warning⟩,
        ⟨"missing", { file := some "t.proto", line := some 3, column := some 5 }, .error⟩] := by
    decide
  obtain ⟨ds, e, hds, hresult, hstage, -, hplaced, -⟩ := check_places_rejection rejecting
    (heads_plain _) hr rfl Int.one_ne_zero (Diagnostic.exists_parse_iff.1 ⟨_, hparse⟩)
  obtain rfl := Option.some.inj (hparse.symm.trans hds)
  rw [if_pos (by decide)] at hplaced
  have htidied : tidied "./m.textproto" = "m.textproto" := by decide
  obtain ⟨hline, hcolumn, hfile⟩ := hplaced.first [] _ [] "t.proto" rfl
    (fun x hx => absurd hx List.not_mem_nil) rfl
  rw [htidied] at hresult hfile
  exact ⟨e, hresult, hstage, hfile, hline, hcolumn⟩

end Validator

end ProtoCheck
