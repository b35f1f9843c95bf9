import ProtoCheck.Proofs.Schema.Breakdown
import ProtoCheck.Proofs.Validation

/-!
# Batches

Files are validated one after the other. The failure of one is recorded and the next one follows,
but a breakdown ends the batch, and what has been recorded is lost.

* `Validator.breaks_validate_iff` : where a run breaks down;
* `Validator.checkAll_eq_ok_iff` : a batch records of each file what is recorded of it alone;
* `Validator.Parses`, `Unhindered` : files whose text is decoded or refused, and files that nothing
  else breaks a run on;
* `Validator.checkAll_iff_unhindered` : the batches of which one outcome for each file is left.
-/

namespace ProtoCheck

open Schema

namespace Validator

variable {v : Validator} {path : String}

/-! ## Breakdowns of a run -/

/-- A run breaks down on reading, resolving or decoding. -/
theorem breaks_validate_iff : Breaks (v.validate path).result ↔
    v.store.read path = .error .nul ∨
    (∃ raw d, v.Heads path raw d ∧
      Breaks (resolve v.compiler v.store v.importPaths d.schema d.message).result) ∨
    ∃ raw d r, v.Resolves path raw d r ∧
      Breaks (TextFormat.decodeFile r.pool r.type (some path) raw) := by
  constructor
  · rintro ⟨b, hb⟩
    have h := hb ▸ v.ends_validate path
    generalize hx : (Except.error (.broken b) : Except Stop Unit) = x at h
    cases h with
    | @unread e h =>
      cases e with
      | nul => exact .inl h
      | unknown name => exact nomatch hx
      | refused name os => exact nomatch hx
    | @headless raw e h he => exact nomatch hx
    | @unresolved raw d e h he =>
      cases e with
      | broken b' => exact .inr (.inl ⟨raw, d, h, b', he⟩)
      | failed f => exact nomatch hx
    | @undecoded raw d r e h he =>
      obtain rfl := Except.error.inj hx
      exact .inr (.inr ⟨raw, d, r, h, b, he⟩)
    | passed h => exact nomatch hx
  · rintro (h | ⟨raw, d, h, b, he⟩ | ⟨raw, d, r, h, b, he⟩)
    · exact ⟨_, result_validate_of_unread h⟩
    · exact ⟨b, result_validate_of_unresolved h he⟩
    · refine ⟨b, ?_⟩
      rw [result_validate_of_resolves h, he]
      rfl

/-- Nothing is recorded of a run that breaks down. -/
theorem result_check_of_broken {b : Breakdown} (h : (v.validate path).result = .error (.broken b)) :
    (v.check path).result = .error (.broken b) := by
  unfold check
  dsimp only
  rw [h]

theorem exists_result_check_iff :
    (∃ o, (v.check path).result = .ok o) ↔ ¬ Breaks (v.validate path).result := by
  cases hx : (v.validate path).result with
  | ok u => exact ⟨fun _ => not_breaks_ok u, fun _ => ⟨_, result_check_of_ok hx⟩⟩
  | error e =>
    cases e with
    | failed f => exact ⟨fun _ => not_breaks_failed f, fun _ => ⟨_, result_check_of_failed hx⟩⟩
    | broken b =>
      refine ⟨?_, fun h => absurd (breaks_broken b) h⟩
      rintro ⟨o, ho⟩
      exact nomatch (result_check_of_broken hx).symm.trans ho

/-- What is recorded is a failure of one of the four steps, if anything. -/
theorem stage_of_result_check {o : Outcome} (ho : (v.check path).result = .ok o) :
    o.entries = [] ∨ ∃ e, o.entries = [e] ∧
      ∃ s ∈ [Stage.read, .header, .resolve, .decode], e.stage = s.name := by
  rcases recorded_cases ho with ⟨-, rfl⟩ | ⟨f, -, hends, rfl⟩
  · exact .inl rfl
  · refine .inr ⟨_, rfl, f.stage, ?_, rfl⟩
    have hfails := hends.failsAt.1.1
    cases hs : f.stage with
    | read | header | resolve | decode => decide
    | config | validate =>
      rw [hs] at hfails
      exact absurd trivial hfails

/-! ## Several runs -/

theorem result_checkAll_cons (v : Validator) (path : String) (rest : List String) :
    (v.checkAll (path :: rest)).result = (v.check path).result.bind fun o =>
      (v.checkAll rest).result.bind fun os => .ok (o :: os) := by
  rw [checkAll, Traced.result_bind]
  congr 1
  funext o
  by_cases ho : o.ok = true
  · simp only [if_pos ho, Traced.result_bind, Traced.result_log]
    rfl
  · simp only [if_neg ho, Traced.result_bind]
    rfl

/-- A batch records of each file, in order, what is recorded of it alone. -/
theorem checkAll_eq_ok_iff {paths : List String} {os : List Outcome} :
    (v.checkAll paths).result = .ok os ↔
      List.Forall₂ (fun path o => (v.check path).result = .ok o) paths os := by
  induction paths generalizing os with
  | nil =>
    rw [List.forall₂_nil_left_iff]
    exact ⟨fun h => (Except.ok.inj h).symm, fun h => h ▸ rfl⟩
  | cons path rest ih =>
    rw [result_checkAll_cons, List.forall₂_cons_left_iff]
    constructor
    · intro h
      cases ho : (v.check path).result with
      | error e =>
        rw [ho] at h
        exact nomatch h
      | ok o =>
        cases hos : (v.checkAll rest).result with
        | error e =>
          rw [ho, hos] at h
          exact nomatch h
        | ok os' =>
          rw [ho, hos] at h
          exact ⟨o, os', rfl, ih.1 hos, (Except.ok.inj h).symm⟩
    · rintro ⟨o, os', ho, hos, rfl⟩
      rw [ho, ih.2 hos]
      rfl

/-- A batch ends with what it has recorded when each of its runs does. -/
theorem exists_result_checkAll_iff {paths : List String} :
    (∃ os, (v.checkAll paths).result = .ok os) ↔
      ∀ path ∈ paths, ∃ o, (v.check path).result = .ok o := by
  simp only [checkAll_eq_ok_iff]
  induction paths with
  | nil => exact ⟨fun _ path h => absurd h List.not_mem_nil, fun _ => ⟨[], .nil⟩⟩
  | cons path rest ih =>
    rw [List.forall_mem_cons, ← ih]
    constructor
    · rintro ⟨_, _ | ⟨ho, hos⟩⟩
      exact ⟨⟨_, ho⟩, _, hos⟩
    · rintro ⟨⟨o, ho⟩, os, hos⟩
      exact ⟨o :: os, .cons ho hos⟩

/-! ## Files that break nothing -/

/-- The text of the file is decoded or refused, once its message type is known. -/
def Parses (v : Validator) (path : String) : Prop :=
  ∀ raw d r, v.Resolves path raw d r →
    ¬ Breaks (TextFormat.decodeFile r.pool r.type (some path) raw)

/-- No operating system refuses the path for a NUL character in it, nothing is in the way of a
schema that is to be staged, and what the compiler puts out can be read. -/
structure Unhindered (v : Validator) (path : String) : Prop where
  openable : v.store.read path ≠ .error .nul
  stageable : ∀ raw d n, v.Heads path raw d → virtualName? d.schema = some n →
    Staging.Stageable v.compiler.directory v.store (searchedRoots v.importPaths) [n]
  legible : ∀ r ∈ (v.check path).journal.runs, (v.compiler.answer r).Legible

/-- A run does not break down on a file that is decoded or refused when nothing hinders it. -/
theorem unhindered_iff (hc : v.compiler.Writes) (hp : v.Parses path) :
    v.Unhindered path ↔ ¬ Breaks (v.validate path).result := by
  rw [breaks_validate_iff]
  constructor
  · rintro h (hnul | ⟨raw, d, hd, hb⟩ | ⟨raw, d, r, hr, hb⟩)
    · exact h.openable hnul
    · rcases (breaks_resolve_iff hc).1 hb with ⟨n, hn, hs⟩ | ⟨r, hr, hl⟩
      · exact hs (h.stageable raw d n hd hn)
      · rw [← runs_validate_of_heads hd, ← runs_check] at hr
        exact hl (h.legible r hr)
    · exact hp raw d r hr hb
  · intro h
    refine ⟨fun hnul => h (.inl hnul), fun raw d n hd hn => ?_, ?_⟩
    · by_contra hs
      exact h (.inr (.inl ⟨raw, d, hd, (breaks_resolve_iff hc).2 (.inl ⟨n, hn, hs⟩)⟩))
    · intro r hr
      by_contra hl
      -- only a run with a header starts the compiler
      rw [runs_check] at hr
      obtain ⟨raw, d, n, hd, -⟩ := runs_validate_ne_nil_iff.1 (List.ne_nil_of_mem hr)
      rw [runs_validate_of_heads hd] at hr
      exact h (.inr (.inl ⟨raw, d, hd, (breaks_resolve_iff hc).2 (.inr ⟨r, hr, hl⟩)⟩))

section Unread
variable {e : AccessError} (h : v.store.read path = .error e)
include h

theorem parses_of_unread : v.Parses path :=
  fun _ _ _ hr => nomatch h.symm.trans hr.1.1

/-- Nothing hinders the failure of a file that cannot be read. -/
theorem unhindered_of_unread (he : e ≠ .nul) : v.Unhindered path where
  openable hnul := he (Except.error.inj (h.symm.trans hnul))
  stageable _ _ _ hd := nomatch h.symm.trans hd.1
  legible r hr := by
    have hruns : (v.validate path).journal.runs = [] :=
      runs_validate_of_not_passes fun ⟨_, _, hd⟩ => nomatch h.symm.trans hd.1
    rw [runs_check, hruns] at hr
    exact absurd hr List.not_mem_nil

end Unread

/-- **What is left of a batch.** Let the compiler write what it is asked for, and let texts be
decoded or refused. Then a batch ends with one outcome for each file, in order, when nothing hinders
any of them, and only then. Each outcome is the one of the file alone, and holds one error of one of
the four steps at most.

It is assumed that calls nest as deep as the files ask for. Staging calls itself once for each
schema of a chain of imports, and making a directory once for each component of a name: where a
limit on nesting stops a program after about a thousand calls, chains and names of about that length
break a batch too. -/
theorem checkAll_iff_unhindered (v : Validator) (paths : List String) (hc : v.compiler.Writes)
    (hp : ∀ path ∈ paths, v.Parses path) :
    ((∃ os, (v.checkAll paths).result = .ok os) ↔ ∀ path ∈ paths, v.Unhindered path) ∧
      ∀ os, (v.checkAll paths).result = .ok os →
        List.Forall₂ (fun path o => (v.check path).result = .ok o ∧ o.file = tidied path ∧
          (o.entries = [] ∨ ∃ e, o.entries = [e] ∧
            ∃ s ∈ [Stage.read, .header, .resolve, .decode], e.stage = s.name)) paths os := by
  constructor
  · rw [exists_result_checkAll_iff]
    refine forall₂_congr fun path hpath => ?_
    rw [exists_result_check_iff, unhindered_iff hc (hp path hpath)]
  · intro os h
    refine (checkAll_eq_ok_iff.1 h).imp fun path o ho => ⟨ho, ?_, stage_of_result_check ho⟩
    rcases recorded_cases ho with ⟨-, rfl⟩ | ⟨f, -, -, rfl⟩
    · rfl
    · rfl

/-! ## Batches with a plain file -/

open Descriptor in
/-- A file that declares a message without fields. -/
def fieldlessFile (name : String) : FileDecl := { name, messages := [{ name := "M" }] }

/-- A compiler that takes every schema for such a file. -/
def fieldless : Compiler where
  command := ["protoc"]
  directory := "staging"
  answer r := match r.names with
    | [n] => .finished 0 "" (.files [fieldlessFile n])
    | _ => .notStarted (.bare "no protoc")

theorem fieldless_finished {r : Invocation} {status : Int} {output : String} {written : Written}
    (h : fieldless.answer r = .finished status output written) :
    ∃ n, r.names = [n] ∧ output = "" ∧ written = .files [fieldlessFile n] := by
  unfold fieldless at h
  dsimp only at h
  split at h
  · rename_i n hn
    cases h
    exact ⟨n, hn, rfl, rfl⟩
  · exact nomatch h

theorem fieldless_writes : fieldless.Writes := by
  intro r output written h
  obtain ⟨n, hn, -, rfl⟩ := fieldless_finished h
  refine ⟨_, _, rfl, rfl, fun m hm => ?_⟩
  rw [hn, List.mem_singleton] at hm
  rw [hm]
  simp [Descriptor.Pool.file?, fieldlessFile]

theorem parse_nothing : Diagnostic.parse (Text.trimmed "") = some [] := by decide

theorem fieldless_legible (r : Invocation) : (fieldless.answer r).Legible := by
  cases h : fieldless.answer r with
  | notStarted e => exact trivial
  | garbled =>
    unfold fieldless at h
    dsimp only at h
    split at h <;> exact nomatch h
  | finished status output written =>
    obtain ⟨n, -, rfl, -⟩ := fieldless_finished h
    exact Diagnostic.exists_parse_iff.1 ⟨_, parse_nothing⟩

/-- The message type of a plain file, as that compiler has it. -/
def fieldlessType : Descriptor.MessageType := ⟨"M", "M", "a.proto", [], false, false⟩

def fieldlessPool : Descriptor.Pool where
  files := [fieldlessFile "a.proto"]
  messages := [fieldlessType]

/-- A validator with a plain file and a compiler that takes its schema. -/
def plain : Validator := ⟨plainStore, [], fieldless⟩

theorem resolves_plain : plain.Resolves "./m.textproto" plainInput ⟨"a.proto", "M"⟩
    ⟨fieldlessPool, "a.proto", fieldlessType⟩ := by
  refine ⟨heads_plain _, ?_⟩
  have hcompile : (compile fieldless plainStore [] ["a.proto"]).result =
      .ok ⟨fieldlessPool, [fieldlessFile "a.proto"]⟩ :=
    (compile_of_staged fieldless (List.cons_ne_nil "a.proto" []) virtualNames_plain
      stage_plain).1.trans (result_settle_of_accepted parse_nothing)
  show (resolve fieldless plainStore [] "a.proto" "M").result = _
  unfold resolve
  rw [Traced.result_bind, hcompile]
  rfl

theorem exists_decodes_plain : ∃ m, plain.Decodes "./m.textproto" plainInput ⟨"a.proto", "M"⟩
    ⟨fieldlessPool, "a.proto", fieldlessType⟩ m := by
  have hdecode : (TextFormat.decodeFile fieldlessPool fieldlessType (some "./m.textproto")
      plainInput).toOption.isSome := by
    decide +kernel
  obtain ⟨m, hm⟩ := Option.isSome_iff_exists.1 hdecode
  exact ⟨m, resolves_plain, toOption_eq_some_iff.1 hm⟩

theorem parses_plain : plain.Parses "./m.textproto" := by
  intro raw d r hr
  obtain ⟨m, hm⟩ := exists_decodes_plain
  obtain ⟨rfl, -, rfl⟩ := hr.unique hm.1
  rw [hm.2]
  exact not_breaks_ok m

theorem unhindered_plain : plain.Unhindered "./m.textproto" := by
  have hheads : plain.Heads "./m.textproto" plainInput ⟨"a.proto", "M"⟩ := heads_plain _
  refine ⟨fun h => (nomatch h.symm.trans hheads.1), fun raw d n hd hn => ?_, ?_⟩
  · obtain ⟨-, rfl⟩ := hheads.unique hd
    have hname : virtualName? "a.proto" = some "a.proto" := by decide
    obtain rfl := Option.some.inj (hname.symm.trans hn)
    by_contra hs
    obtain ⟨b, hb⟩ := (exists_stage_broken_iff ⟨"a.proto", hname⟩).2 hs
    exact nomatch stage_plain.symm.trans hb
  · exact fun r _ => fieldless_legible r

/-- One file that is valid and one that is not there. -/
theorem checkAll_plain : ∃ o o', (plain.checkAll ["./m.textproto", "gone.textproto"]).result =
    .ok [o, o'] ∧ o.entries = [] ∧ ∃ e, o'.entries = [e] ∧ e.stage = "read" := by
  have hgone : plain.store.read "gone.textproto" = .error (.unknown "gone.textproto") := by
    decide
  obtain ⟨hiff, hall⟩ := checkAll_iff_unhindered plain ["./m.textproto", "gone.textproto"]
    fieldless_writes (List.forall_mem_cons.2
      ⟨parses_plain, List.forall_mem_singleton.2 (parses_of_unread hgone)⟩)
  obtain ⟨os, hos⟩ := hiff.2 (List.forall_mem_cons.2 ⟨unhindered_plain,
    List.forall_mem_singleton.2 (unhindered_of_unread hgone AccessError.noConfusion)⟩)
  have h := hall os hos
  obtain _ | ⟨ho, _ | ⟨ho', _ | _⟩⟩ := h
  obtain ⟨m, hm⟩ := exists_decodes_plain
  exact ⟨_, _, hos, (entries_eq_nil_iff ho.1).2 ⟨_, _, _, m, hm⟩,
    (failsAt_iff ho'.1).1 (failsAt_read hgone)⟩

/-- A schema that imports one below itself, as if it were a directory. -/
def nested : Validator where
  store := .memory (MemoryStore.ofList [("m.textproto", plainInput),
    ("a.proto", Utf8.encode "import \"a.proto/b.proto\";".toList), ("a.proto/b.proto", [])])
  importPaths := []
  compiler := fieldless

theorem stage_nested : (stage nested.compiler.directory nested.store ["."] ["a.proto"]).2 =
    some (.broken .stagedParentIsFile) := by
  have hfuel : (Staging.mentioned nested.store ["a.proto"]).length = 2 := by decide +kernel
  have hfound : lookUp nested.store ["."] "a.proto" =
      .found 0 (Utf8.encode "import \"a.proto/b.proto\";".toList) := by
    decide +kernel
  have himports : importedNames (Utf8.encode "import \"a.proto/b.proto\";".toList) ++ [] =
      ["a.proto/b.proto"] := by
    decide +kernel
  have hbelow : lookUp nested.store ["."] "a.proto/b.proto" = .found 0 [] := by decide +kernel
  unfold stage
  rw [hfuel, Staging.request]
  rw [Staging.run_found List.not_mem_nil hfound (by decide), himports]
  rw [Staging.run_blocked (b := .stagedParentIsFile) (by decide) hbelow (by decide)]
  rfl

/-- The file behind it in a batch is not reported, although its own run is. -/
theorem checkAll_nested : nested.compiler.Writes ∧
    (∀ path ∈ ["./m.textproto", "gone.textproto"], nested.Parses path) ∧
    (∃ o, (nested.check "gone.textproto").result = .ok o) ∧
    (nested.checkAll ["./m.textproto", "gone.textproto"]).result =
      .error (.broken .stagedParentIsFile) := by
  have hgone : nested.store.read "gone.textproto" = .error (.unknown "gone.textproto") := by
    decide
  have hheads : nested.Heads "./m.textproto" plainInput ⟨"a.proto", "M"⟩ := by
    constructor
    · show nested.store.read "./m.textproto" = _
      decide
    · decide +kernel
  have hresolve : (resolve nested.compiler nested.store nested.importPaths "a.proto" "M").result =
      .error (.broken .stagedParentIsFile) :=
    result_resolve_of_stopped (compile_of_stopped nested.compiler (List.cons_ne_nil _ _)
      virtualNames_plain stage_nested).1
  refine ⟨fieldless_writes, List.forall_mem_cons.2 ⟨?_, List.forall_mem_singleton.2
    (parses_of_unread hgone)⟩, ⟨_, result_check_of_failed (result_validate_of_unread hgone)⟩, ?_⟩
  · intro raw d r hr
    obtain ⟨-, rfl⟩ := hheads.unique hr.1
    exact nomatch hresolve.symm.trans hr.2
  · rw [result_checkAll_cons,
      result_check_of_broken (result_validate_of_unresolved hheads hresolve)]
    rfl

end Validator

end ProtoCheck
