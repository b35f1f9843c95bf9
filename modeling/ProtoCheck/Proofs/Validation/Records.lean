import ProtoCheck.Proofs.Log
import ProtoCheck.Proofs.Validation

/-!
# The records of a run

Each step of a run writes records of two levels: those that trace it, and warnings.

* `Schema.Traced.Logs` : a computation that writes such records only, `Schema.Traced.Logs.bind` :
  and goes on with one;
* `Schema.logs_compile`, `Schema.logs_resolve` : compiling and resolving are such computations;
* `Validator.logs_validate`, `Validator.logs_checkAll` : so is validating files.
-/

namespace ProtoCheck

namespace Schema

/-- The records of a computation trace it or warn. -/
def Traced.Logs {α : Type} (x : Traced α) : Prop := ∀ rec ∈ x.journal.records, rec.Usual

namespace Traced.Logs

variable {α β : Type}

theorem of_records_eq_nil {x : Traced α} (h : x.journal.records = []) : x.Logs := by
  intro rec hrec
  rw [h] at hrec
  exact nomatch hrec

theorem log {records : List Log.Record} (h : ∀ rec ∈ records, rec.Usual) :
    (Traced.log records).Logs := h

theorem debug (c : Log.Channel) (text : String) : (Traced.log [c.debug text]).Logs :=
  log (List.forall_mem_singleton.2 (c.usual_debug text))

theorem ofExcept (e : Except Stop α) : (Traced.ofExcept e).Logs := of_records_eq_nil rfl

theorem bind {x : Traced α} {f : α → Traced β} (hx : x.Logs) (hf : ∀ a, (f a).Logs) :
    (x >>= f).Logs := by
  intro rec hrec
  rw [Traced.records_bind] at hrec
  rcases List.mem_append.1 hrec with hrec | hrec
  · exact hx rec hrec
  · cases h : x.result.toOption with
    | none =>
      rw [h] at hrec
      exact nomatch hrec
    | some a =>
      rw [h] at hrec
      exact hf a rec hrec

/-- A computation that goes on in the same way, whether it does something first or not. -/
theorem guarded {p : Prop} [Decidable p] {x : Traced α} {f : α → Traced β} (a : α) (hx : x.Logs)
    (hf : ∀ a, (f a).Logs) : (if p then x >>= f else f a).Logs := by
  split
  · exact hx.bind hf
  · exact hf a

end Traced.Logs

open Traced

theorem logs_settle (names : List String) (a : Answer) : (settle names a).Logs := by
  obtain ⟨texts, h⟩ := exists_journal_settle names a
  intro rec hrec
  rw [h] at hrec
  obtain ⟨text, -, rfl⟩ := List.mem_map.1 hrec
  exact Log.Channel.usual_warn _ text

theorem logs_staged (dir : String) (store : Store) (roots names : List String) :
    (staged dir store roots names).Logs := by
  intro rec hrec
  obtain ⟨event, -, hrec⟩ := List.mem_flatMap.1 hrec
  cases event with
  | opened path =>
    dsimp only [Event.record] at hrec
    split at hrec
    · rw [List.mem_singleton.1 hrec]
      exact Log.Channel.usual_debug _ _
    · exact nomatch hrec
  | staged name root =>
    rw [List.mem_singleton.1 hrec]
    exact Log.Channel.usual_debug _ _

variable (c : Compiler) (store : Store) (importPaths : List String)

theorem logs_compile (schemas : List String) : (compile c store importPaths schemas).Logs := by
  unfold compile
  dsimp only
  refine .guarded () (.of_records_eq_nil rfl) fun _ => ?_
  refine .bind (.ofExcept _) fun names => ?_
  refine .bind (logs_staged _ store _ names) fun files => ?_
  refine .bind (.debug _ _) fun _ => ?_
  exact .bind (.of_records_eq_nil rfl) fun _ => logs_settle names _

theorem logs_find (files : List Descriptor.FileDecl) (name : String) : (find files name).Logs := by
  unfold find
  refine .bind (.log fun rec hrec => ?_) fun _ => ?_
  · obtain ⟨f, -, rfl⟩ := List.mem_map.1 hrec
    exact Log.Channel.usual_debug _ _
  · split
    · exact .of_records_eq_nil rfl
    · exact .of_records_eq_nil rfl

theorem logs_resolve (schema name : String) :
    (resolve c store importPaths schema name).Logs := by
  unfold resolve
  refine .bind (logs_compile c store importPaths [schema]) fun compiled => ?_
  refine .bind (logs_find compiled.files name) fun found => ?_
  exact .bind (.debug _ _) fun _ => .of_records_eq_nil rfl

end Schema

namespace Validator

open Schema

variable (v : Validator) (path : String)

theorem logs_readInput : (v.readInput path).Logs := by
  unfold readInput
  dsimp only
  refine .guarded () (.debug _ _) fun _ => ?_
  exact .bind (.of_records_eq_nil rfl) fun _ => .ofExcept _

theorem logs_readHeader (raw : Bytes) : (readHeader path raw).Logs := by
  unfold readHeader
  split
  · exact .bind (.debug _ _) fun _ => .of_records_eq_nil rfl
  · exact .of_records_eq_nil rfl

theorem logs_resolveType (d : Directives) : (v.resolveType d).Logs := by
  intro rec hrec
  unfold resolveType at hrec
  dsimp only at hrec
  exact logs_resolve v.compiler v.store v.importPaths d.schema d.message rec hrec

theorem logs_validate : (v.validate path).Logs := by
  unfold validate
  refine .bind (v.logs_readInput path) fun raw => ?_
  refine .bind (logs_readHeader path raw) fun d => ?_
  refine .bind (v.logs_resolveType d) fun r => ?_
  exact .bind (.ofExcept _) fun _ => .debug _ _

theorem logs_check : (v.check path).Logs := by
  intro rec hrec
  unfold check at hrec
  dsimp only at hrec
  exact v.logs_validate path rec hrec

theorem logs_checkAll (paths : List String) : (v.checkAll paths).Logs := by
  induction paths with
  | nil => exact .of_records_eq_nil rfl
  | cons path rest ih =>
    unfold checkAll
    refine .bind (v.logs_check path) fun o => ?_
    dsimp only
    refine .guarded () (.debug _ _) fun _ => ?_
    exact .bind ih fun _ => .of_records_eq_nil rfl

/-- A file that cannot be read leaves nothing but what reading it does. -/
theorem checkAll_of_unread {v : Validator} {path : String} {f : Failure}
    (h : (v.readInput path).result = .error (.failed f)) : v.checkAll [path] =
      ⟨.ok [(Outcome.ofFile path).record f], (v.readInput path).journal⟩ := by
  have hvalidate : v.validate path = ⟨.error (.failed f), (v.readInput path).journal⟩ := by
    unfold validate
    exact Traced.bind_of_error h _
  have hcheck : v.check path =
      ⟨.ok ((Outcome.ofFile path).record f), (v.readInput path).journal⟩ := by
    unfold check
    rw [hvalidate]
  have hok : ((Outcome.ofFile path).record f).ok = false := by
    simp [Outcome.record, Outcome.add, Outcome.ok]
  unfold checkAll
  rw [Traced.bind_of_ok (congrArg (·.result) hcheck), hok, hcheck]
  exact congrArg _ (Traced.journal_append_empty _)

end Validator

end ProtoCheck
