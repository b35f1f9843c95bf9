import ProtoCheck.Proofs.Schema.Resolution
import ProtoCheck.Validation

/-!
# Where a run fails

* `Validator.Reads`, `Heads`, `Resolves`, `Decodes` : how far a run comes; `Validator.FailsAt` : the
  first step that fails;
* `Validator.Ends`, `Validator.ends_validate` : what a run ends with;
* `Validator.runs_validate_ne_nil_iff` : when the compiler is started;
* `Validator.check_records_first_failure` : what is recorded about a run.
-/

namespace ProtoCheck

open Schema

/-! ## Failures in the validated file -/

/-- A failure names no other file than the validated one. -/
def Failure.InFile (path : String) (f : Failure) : Prop :=
  ∀ file, f.location.bind (·.file) = some file → file = tidied path

/-- The order of the steps of a run. -/
def Stage.position : Stage → Nat
  | .read => 0
  | .header => 1
  | .resolve => 2
  | .decode => 3
  | .config => 4
  | .validate => 5

theorem Stage.position_injective : Function.Injective Stage.position := by
  intro s t h
  cases s <;> cases t <;> first | rfl | exact absurd h (by decide)

theorem Stage.name_injective : Function.Injective Stage.name := by
  intro s t h
  cases s <;> cases t <;> first | rfl | exact absurd h (by decide)

namespace TextFormat

theorem file_filePlace {path file : String}
    (h : ((filePlace (some path)).getD {}).file = some file) : file = tidied path := by
  unfold filePlace at h
  rw [Option.filter_some] at h
  split at h
  · exact (Option.some.inj h).symm
  · exact nomatch h

theorem bind_filePlace {path file : String}
    (h : (filePlace (some path)).bind (·.file) = some file) : file = tidied path := by
  obtain ⟨loc, hloc, hfile⟩ := Option.bind_eq_some_iff.1 h
  apply file_filePlace
  rw [hloc]
  exact hfile

/-- Decoding fails as such, in the file that is decoded. -/
theorem decodeFile_failed {pool : Descriptor.Pool} {type : Descriptor.MessageType} {path : String}
    {raw : Bytes} {f : Failure}
    (h : decodeFile pool type (some path) raw = .error (.failed f)) :
    f.stage = .decode ∧ f.InFile path := by
  unfold decodeFile at h
  split at h
  · rw [← Stop.failed.inj (Except.error.inj h)]
    exact ⟨rfl, fun file hf => bind_filePlace hf⟩
  · split at h
    · rename_i e _
      have he := Except.error.inj h
      cases e with
      | broken b => exact nomatch he
      | whole text =>
        rw [← Stop.failed.inj he]
        exact ⟨rfl, fun file hf => file_filePlace hf⟩
      | «at» line column text =>
        rw [← Stop.failed.inj he]
        exact ⟨rfl, fun file hf => file_filePlace hf⟩
    · dsimp only at h
      split at h
      · exact nomatch h
      · rw [← Stop.failed.inj (Except.error.inj h)]
        exact ⟨rfl, fun file hf => bind_filePlace hf⟩

end TextFormat

namespace Validator

variable (v : Validator) (path : String)

/-! ## Steps -/

/-- The file can be read. -/
def Reads (raw : Bytes) : Prop := v.store.read path = .ok raw

/-- What is read has a header. -/
def Heads (raw : Bytes) (d : Directives) : Prop :=
  v.Reads path raw ∧ Header.extract (Utf8.decodeLossy raw) = .ok d

/-- The message type that the header names can be resolved. -/
def Resolves (raw : Bytes) (d : Directives) (r : Resolved) : Prop :=
  v.Heads path raw d ∧
    (resolve v.compiler v.store v.importPaths d.schema d.message).result = .ok r

/-- The file decodes as a message of that type. -/
def Decodes (raw : Bytes) (d : Directives) (r : Resolved) (m : Message.Fields) : Prop :=
  v.Resolves path raw d r ∧ TextFormat.decodeFile r.pool r.type (some path) raw = .ok m

/-- The step of a stage succeeds, with all that go before it. -/
def Passes : Stage → Prop
  | .read => ∃ raw, v.Reads path raw
  | .header => ∃ raw d, v.Heads path raw d
  | .resolve => ∃ raw d r, v.Resolves path raw d r
  | .decode => ∃ raw d r m, v.Decodes path raw d r m
  | .config | .validate => True

/-- The first step that fails. -/
def FailsAt (s : Stage) : Prop :=
  ¬ v.Passes path s ∧ ∀ t : Stage, t.position < s.position → v.Passes path t

variable {v path}

theorem Reads.unique {raw raw' : Bytes} (h : v.Reads path raw) (h' : v.Reads path raw') :
    raw = raw' :=
  Except.ok.inj (h.symm.trans h')

theorem Heads.unique {raw raw' : Bytes} {d d' : Directives} (h : v.Heads path raw d)
    (h' : v.Heads path raw' d') : raw = raw' ∧ d = d' := by
  obtain rfl := h.1.unique h'.1
  exact ⟨rfl, Except.ok.inj (h.2.symm.trans h'.2)⟩

theorem Resolves.unique {raw raw' : Bytes} {d d' : Directives} {r r' : Resolved}
    (h : v.Resolves path raw d r) (h' : v.Resolves path raw' d' r') :
    raw = raw' ∧ d = d' ∧ r = r' := by
  obtain ⟨rfl, rfl⟩ := h.1.unique h'.1
  exact ⟨rfl, rfl, Except.ok.inj (h.2.symm.trans h'.2)⟩

/-- Only one step is the first that fails. -/
theorem FailsAt.unique {s t : Stage} (hs : v.FailsAt path s) (ht : v.FailsAt path t) : s = t := by
  rcases Nat.lt_trichotomy s.position t.position with h | h | h
  · exact absurd (ht.2 s h) hs.1
  · exact Stage.position_injective h
  · exact absurd (hs.2 t h) ht.1

/-! ## Runs -/

/-- The failure of a header. -/
def misheaded (path : String) (e : HeaderError) : Failure :=
  { e.toFailure with location := some (Location.inFile e.toFailure.location path) }

/-- What stops a run when resolving stops. -/
def unresolvedStop (d : Directives) : Stop → Stop
  | .failed f => .failed (unresolved d f)
  | .broken b => .broken b

variable (v path)

@[simp] theorem result_readInput :
    (v.readInput path).result = (v.store.read path).mapError AccessError.toStop := by
  unfold readInput
  split
  · simp [Except.bind]
  · simp [Except.bind]

@[simp] theorem runs_readInput : (v.readInput path).journal.runs = [] := by
  unfold readInput
  split
  · simp [Except.toOption]
  · simp [Except.toOption]

@[simp] theorem result_readHeader (raw : Bytes) : (readHeader path raw).result =
    (Header.extract (Utf8.decodeLossy raw)).mapError fun e => .failed (misheaded path e) := by
  unfold readHeader
  cases Header.extract (Utf8.decodeLossy raw) with
  | ok d => rfl
  | error e => rfl

@[simp] theorem runs_readHeader (raw : Bytes) : (readHeader path raw).journal.runs = [] := by
  unfold readHeader
  cases Header.extract (Utf8.decodeLossy raw) with
  | ok d => rfl
  | error e => rfl

@[simp] theorem result_resolveType (d : Directives) : (v.resolveType d).result =
    (resolve v.compiler v.store v.importPaths d.schema d.message).result.mapError
      (unresolvedStop d) := by
  unfold resolveType
  dsimp only
  congr 1

@[simp] theorem runs_resolveType (d : Directives) : (v.resolveType d).journal.runs =
    (resolve v.compiler v.store v.importPaths d.schema d.message).journal.runs := by
  unfold resolveType
  dsimp only

variable {v path}

theorem result_validate_of_unread {e : AccessError} (h : v.store.read path = .error e) :
    (v.validate path).result = .error e.toStop := by
  unfold validate
  rw [Traced.result_bind, result_readInput, h]
  rfl

theorem result_validate_of_headless {raw : Bytes} {e : HeaderError} (h : v.Reads path raw)
    (he : Header.extract (Utf8.decodeLossy raw) = .error e) :
    (v.validate path).result = .error (.failed (misheaded path e)) := by
  have hread : v.store.read path = .ok raw := h
  unfold validate
  simp only [Traced.result_bind, result_readInput, hread, result_readHeader, he, mapError_ok,
    mapError_error, Except.bind]

theorem result_validate_of_unresolved {raw : Bytes} {d : Directives} {e : Stop}
    (h : v.Heads path raw d)
    (he : (resolve v.compiler v.store v.importPaths d.schema d.message).result = .error e) :
    (v.validate path).result = .error (unresolvedStop d e) := by
  have hread : v.store.read path = .ok raw := h.1
  unfold validate
  simp only [Traced.result_bind, result_readInput, hread, result_readHeader, h.2,
    result_resolveType, he, mapError_ok, mapError_error, Except.bind]

theorem result_validate_of_resolves {raw : Bytes} {d : Directives} {r : Resolved}
    (h : v.Resolves path raw d r) : (v.validate path).result =
      (TextFormat.decodeFile r.pool r.type (some path) raw).map fun _ => () := by
  have hread : v.store.read path = .ok raw := h.1.1
  unfold validate
  simp only [Traced.result_bind, result_readInput, hread, result_readHeader, h.1.2,
    result_resolveType, h.2, mapError_ok, Except.bind, Traced.result_ofExcept]
  cases TextFormat.decodeFile r.pool r.type (some path) raw with
  | error e => rfl
  | ok m => rfl

/-- What a run ends with, by the step that fails. -/
inductive Ends (v : Validator) (path : String) : Except Stop Unit → Prop
  | unread {e : AccessError} (h : v.store.read path = .error e) : Ends v path (.error e.toStop)
  | headless {raw : Bytes} {e : HeaderError} (h : v.Reads path raw)
    (he : Header.extract (Utf8.decodeLossy raw) = .error e) :
    Ends v path (.error (.failed (misheaded path e)))
  | unresolved {raw : Bytes} {d : Directives} {e : Stop} (h : v.Heads path raw d)
    (he : (resolve v.compiler v.store v.importPaths d.schema d.message).result = .error e) :
    Ends v path (.error (unresolvedStop d e))
  | undecoded {raw : Bytes} {d : Directives} {r : Resolved} {e : Stop}
    (h : v.Resolves path raw d r)
    (he : TextFormat.decodeFile r.pool r.type (some path) raw = .error e) :
    Ends v path (.error e)
  | passed {raw : Bytes} {d : Directives} {r : Resolved} {m : Message.Fields}
    (h : v.Decodes path raw d r m) : Ends v path (.ok ())

theorem ends_validate (v : Validator) (path : String) : v.Ends path (v.validate path).result := by
  cases hread : v.store.read path with
  | error e =>
    rw [result_validate_of_unread hread]
    exact .unread hread
  | ok raw =>
    cases hhead : Header.extract (Utf8.decodeLossy raw) with
    | error e =>
      rw [result_validate_of_headless hread hhead]
      exact .headless hread hhead
    | ok d =>
      have h : v.Heads path raw d := ⟨hread, hhead⟩
      cases hres : (resolve v.compiler v.store v.importPaths d.schema d.message).result with
      | error e =>
        rw [result_validate_of_unresolved h hres]
        exact .unresolved h hres
      | ok r =>
        rw [result_validate_of_resolves ⟨h, hres⟩]
        cases hdec : TextFormat.decodeFile r.pool r.type (some path) raw with
        | error e => exact .undecoded ⟨h, hres⟩ hdec
        | ok m => exact .passed ⟨⟨h, hres⟩, hdec⟩

/-! ## Starts of the compiler -/

/-- With a header a run starts the compiler as resolving does. -/
theorem runs_validate_of_heads {raw : Bytes} {d : Directives} (h : v.Heads path raw d) :
    (v.validate path).journal.runs =
      (resolve v.compiler v.store v.importPaths d.schema d.message).journal.runs := by
  have hread : v.store.read path = .ok raw := h.1
  unfold validate
  simp only [Traced.runs_bind, runs_readInput, result_readInput, hread, mapError_ok,
    Except.toOption, Option.elim_some, runs_readHeader, result_readHeader, h.2, runs_resolveType,
    result_resolveType, List.nil_append]
  cases (resolve v.compiler v.store v.importPaths d.schema d.message).result with
  | error e => exact List.append_nil _
  | ok r =>
    show _ ++ ((Traced.ofExcept _).journal.runs ++ _) = _
    cases hdec : TextFormat.decodeFile r.pool r.type (some path) raw with
    | error e => exact List.append_nil _
    | ok m => exact List.append_nil _

/-- Without a header a run does not start the compiler. -/
theorem runs_validate_of_not_passes (h : ¬ v.Passes path .header) :
    (v.validate path).journal.runs = [] := by
  unfold validate
  rw [Traced.runs_bind, runs_readInput, result_readInput]
  cases hread : v.store.read path with
  | error e => rfl
  | ok raw =>
    show [] ++ ((_ : Traced Unit).journal.runs) = _
    rw [Traced.runs_bind, runs_readHeader, result_readHeader]
    cases hhead : Header.extract (Utf8.decodeLossy raw) with
    | error e => rfl
    | ok d => exact absurd ⟨raw, d, hread, hhead⟩ h

/-- A run starts the compiler when the schema that the header names is staged, and only then. -/
theorem runs_validate_ne_nil_iff : (v.validate path).journal.runs ≠ [] ↔
    ∃ raw d n, v.Heads path raw d ∧ virtualName? d.schema = some n ∧
      (stage v.compiler.directory v.store (searchedRoots v.importPaths) [n]).2 = none := by
  by_cases hp : v.Passes path .header
  · obtain ⟨raw, d, h⟩ := hp
    rw [runs_validate_of_heads h, runs_resolve_ne_nil_iff]
    constructor
    · rintro ⟨n, hn, hnone⟩
      exact ⟨raw, d, n, h, hn, hnone⟩
    · rintro ⟨raw', d', n, h', hn, hnone⟩
      obtain ⟨-, rfl⟩ := h.unique h'
      exact ⟨n, hn, hnone⟩
  · rw [runs_validate_of_not_passes hp]
    refine ⟨fun h => absurd rfl h, ?_⟩
    rintro ⟨raw, d, -, h, -⟩
    exact absurd ⟨raw, d, h⟩ hp

/-- A run starts the compiler once at most. -/
theorem length_runs_validate_le : (v.validate path).journal.runs.length ≤ 1 := by
  by_cases hp : v.Passes path .header
  · obtain ⟨raw, d, h⟩ := hp
    rw [runs_validate_of_heads h, runs_resolve]
    exact length_runs_compile_le v.compiler
  · rw [runs_validate_of_not_passes hp]
    exact Nat.zero_le 1

/-! ## Failing steps -/

theorem failsAt_read {e : AccessError} (h : v.store.read path = .error e) :
    v.FailsAt path .read := by
  refine ⟨?_, fun t ht => absurd ht (Nat.not_lt_zero _)⟩
  rintro ⟨raw, hraw⟩
  exact nomatch h.symm.trans hraw

theorem Reads.failsAt_header {raw : Bytes} {e : HeaderError} (h : v.Reads path raw)
    (he : Header.extract (Utf8.decodeLossy raw) = .error e) : v.FailsAt path .header := by
  constructor
  · rintro ⟨raw', d, h'⟩
    obtain rfl := h.unique h'.1
    exact nomatch he.symm.trans h'.2
  · intro t ht
    cases t with
    | read => exact ⟨raw, h⟩
    | header | resolve | decode | config | validate => exact absurd ht (by decide)

theorem Heads.failsAt_resolve {raw : Bytes} {d : Directives} (h : v.Heads path raw d)
    (he : ∀ r, (resolve v.compiler v.store v.importPaths d.schema d.message).result ≠ .ok r) :
    v.FailsAt path .resolve := by
  constructor
  · rintro ⟨raw', d', r, h'⟩
    obtain ⟨-, rfl⟩ := h.unique h'.1
    exact he r h'.2
  · intro t ht
    cases t with
    | read => exact ⟨raw, h.1⟩
    | header => exact ⟨raw, d, h⟩
    | resolve | decode | config | validate => exact absurd ht (by decide)

theorem Resolves.failsAt_decode {raw : Bytes} {d : Directives} {r : Resolved} {e : Stop}
    (h : v.Resolves path raw d r)
    (he : TextFormat.decodeFile r.pool r.type (some path) raw = .error e) :
    v.FailsAt path .decode := by
  constructor
  · rintro ⟨raw', d', r', m, h'⟩
    obtain ⟨rfl, -, rfl⟩ := h.unique h'.1
    exact nomatch he.symm.trans h'.2
  · intro t ht
    cases t with
    | read => exact ⟨raw, h.1.1⟩
    | header => exact ⟨raw, d, h.1⟩
    | resolve => exact ⟨raw, d, r, h⟩
    | decode | config | validate => exact absurd ht (by decide)

theorem stage_toStop {e : AccessError} {f : Failure} (h : e.toStop = .failed f) :
    f.stage = .read ∧ f.location = none := by
  cases e with
  | unknown name =>
    rw [← Stop.failed.inj h]
    exact ⟨rfl, rfl⟩
  | refused name os =>
    rw [← Stop.failed.inj h]
    exact ⟨rfl, rfl⟩
  | nul => exact nomatch h

theorem stage_misheaded (path : String) (e : HeaderError) :
    (misheaded path e).stage = .header ∧ (misheaded path e).InFile path := by
  cases e with
  | missing d => exact ⟨rfl, fun file h => (Option.some.inj h).symm⟩
  | duplicate d i => exact ⟨rfl, fun file h => (Option.some.inj h).symm⟩

/-- A run fails with a failure of the first step that fails; it names another file only when that is
resolving. -/
theorem Ends.failsAt {f : Failure} (h : v.Ends path (.error (.failed f))) :
    v.FailsAt path f.stage ∧ (f.stage ≠ .resolve → f.InFile path) := by
  generalize hx : (Except.error (.failed f) : Except Stop Unit) = x at h
  cases h with
  | unread h =>
    obtain ⟨hs, hloc⟩ := stage_toStop (Except.error.inj hx).symm
    rw [hs]
    refine ⟨failsAt_read h, fun _ file hfile => ?_⟩
    rw [hloc] at hfile
    exact nomatch hfile
  | headless h he =>
    rw [Stop.failed.inj (Except.error.inj hx)]
    obtain ⟨hs, hfile⟩ := stage_misheaded path ‹HeaderError›
    rw [hs]
    exact ⟨h.failsAt_header he, fun _ => hfile⟩
  | @unresolved raw d e h he =>
    cases e with
    | broken b => exact nomatch hx
    | failed g =>
      rw [Stop.failed.inj (Except.error.inj hx)]
      refine ⟨h.failsAt_resolve fun r hr => (nomatch he.symm.trans hr), fun hne => absurd rfl hne⟩
  | undecoded h he =>
    rw [← Except.error.inj hx] at he
    obtain ⟨hs, hfile⟩ := TextFormat.decodeFile_failed he
    rw [hs]
    exact ⟨h.failsAt_decode he, fun _ => hfile⟩
  | passed h => exact nomatch hx

/-! ## Records -/

@[simp] theorem runs_check : (v.check path).journal.runs = (v.validate path).journal.runs := by
  unfold check
  dsimp only

theorem result_check_of_ok (h : (v.validate path).result = .ok ()) :
    (v.check path).result = .ok ⟨tidied path, []⟩ := by
  unfold check
  dsimp only
  rw [h]
  rfl

theorem result_check_of_failed {f : Failure}
    (h : (v.validate path).result = .error (.failed f)) :
    (v.check path).result = .ok ⟨tidied path, [Outcome.entryOf (tidied path) f]⟩ := by
  unfold check
  dsimp only
  rw [h]
  rfl

/-- An entry leaves out the validated file. -/
theorem file_entryOf {f : Failure} (h : f.InFile path) :
    (Outcome.entryOf (tidied path) f).file = none := by
  unfold Outcome.entryOf
  dsimp only
  rw [Option.filter_eq_none_iff]
  intro file hfile
  rw [h file hfile, bne_self_eq_false]
  exact Bool.false_ne_true

/-- An entry stands in the file of its failure, which is left out where it is the validated one. -/
theorem file_entryOf_of_location (path : String) {f : Failure} {loc : Location} {file : String}
    (hloc : f.location = some loc) (hfile : loc.file = some file) :
    (Outcome.entryOf (tidied path) f).file = if file = tidied path then none else some file := by
  unfold Outcome.entryOf
  dsimp only
  rw [hloc, Option.bind_some, hfile, Option.filter_some]
  by_cases hsame : file = tidied path
  · rw [if_pos hsame, if_neg (by simpa using hsame)]
  · rw [if_neg hsame, if_pos (by simpa using hsame)]

theorem Ends.passes (h : v.Ends path (.ok ())) : v.Passes path .decode := by
  generalize hx : (Except.ok () : Except Stop Unit) = x at h
  cases h with
  | unread h => exact nomatch hx
  | headless h he => exact nomatch hx
  | unresolved h he => exact nomatch hx
  | undecoded h he => exact nomatch hx
  | passed h => exact ⟨_, _, _, _, h⟩

/-- When decoding succeeds no step fails. -/
theorem FailsAt.not_passes {s : Stage} (h : v.FailsAt path s) : ¬ v.Passes path .decode := by
  rintro ⟨raw, d, r, m, hd⟩
  cases s with
  | read => exact h.1 ⟨raw, hd.1.1.1⟩
  | header => exact h.1 ⟨raw, d, hd.1.1⟩
  | resolve => exact h.1 ⟨raw, d, r, hd.1⟩
  | decode => exact h.1 ⟨raw, d, r, m, hd⟩
  | config => exact h.1 trivial
  | validate => exact h.1 trivial

section Recorded
variable {o : Outcome} (ho : (v.check path).result = .ok o)
include ho

/-- What is recorded: nothing, or the failure that a run ends with. -/
theorem recorded_cases : (v.Passes path .decode ∧ o = ⟨tidied path, []⟩) ∨
    ∃ f, (v.validate path).result = .error (.failed f) ∧ v.Ends path (.error (.failed f)) ∧
      o = ⟨tidied path, [Outcome.entryOf (tidied path) f]⟩ := by
  have hends := v.ends_validate path
  cases hx : (v.validate path).result with
  | ok u =>
    rw [hx] at hends
    rw [result_check_of_ok hx] at ho
    exact .inl ⟨hends.passes, (Except.ok.inj ho).symm⟩
  | error e =>
    cases e with
    | failed f =>
      rw [hx] at hends
      rw [result_check_of_failed hx] at ho
      exact .inr ⟨f, rfl, hends, (Except.ok.inj ho).symm⟩
    | broken b =>
      unfold check at ho
      dsimp only at ho
      rw [hx] at ho
      exact nomatch ho

theorem entries_eq_nil_iff : o.entries = [] ↔ v.Passes path .decode := by
  rcases recorded_cases ho with ⟨hp, rfl⟩ | ⟨f, -, hends, rfl⟩
  · exact ⟨fun _ => hp, fun _ => rfl⟩
  · exact ⟨fun h => absurd h (List.cons_ne_nil _ _), fun hp => absurd hp hends.failsAt.1.not_passes⟩

theorem failsAt_iff {s : Stage} :
    v.FailsAt path s ↔ ∃ e, o.entries = [e] ∧ e.stage = s.name := by
  rcases recorded_cases ho with ⟨hp, rfl⟩ | ⟨f, -, hends, rfl⟩
  · refine ⟨fun h => absurd hp h.not_passes, ?_⟩
    rintro ⟨e, he, -⟩
    exact nomatch he
  · constructor
    · intro h
      exact ⟨_, rfl, congrArg Stage.name (hends.failsAt.1.unique h)⟩
    · rintro ⟨e, he, hs⟩
      obtain rfl := List.head_eq_of_cons_eq he
      rw [← Stage.name_injective hs]
      exact hends.failsAt.1

theorem stage_of_file_isSome {e : Entry} (he : e ∈ o.entries) (hf : e.file.isSome) :
    e.stage = Stage.resolve.name := by
  rcases recorded_cases ho with ⟨-, rfl⟩ | ⟨f, -, hends, rfl⟩
  · exact absurd he List.not_mem_nil
  · rw [List.mem_singleton] at he
    rw [he] at hf ⊢
    by_cases hs : f.stage = .resolve
    · exact congrArg Stage.name hs
    · rw [file_entryOf (hends.failsAt.2 hs)] at hf
      exact nomatch hf

/-- What is recorded of a run that fails. -/
theorem entries_of_failed {f : Failure} (hx : (v.validate path).result = .error (.failed f)) :
    o.entries = [Outcome.entryOf (tidied path) f] := by
  rw [result_check_of_failed hx] at ho
  rw [← Except.ok.inj ho]

end Recorded

/-- **What is recorded about a run** that nothing breaks: no error when every step succeeds, and
otherwise one error of the first step that fails. Only an error of resolving names a file; that of a
repeated directive has the line of the repetition. The compiler is started once at most, when the
schema that the header names is staged. -/
theorem check_records_first_failure (v : Validator) (path : String)
    (h : ∀ b, (v.validate path).result ≠ .error (.broken b)) :
    ∃ o, (v.check path).result = .ok o ∧ o.file = tidied path ∧
      (o.entries = [] ↔ ∃ raw d r m, v.Decodes path raw d r m) ∧
      (o.entries ≠ [] → ∃ s, v.FailsAt path s) ∧
      (∀ s, v.FailsAt path s ↔ ∃ e, o.entries = [e] ∧ e.stage = s.name) ∧
      (∀ raw d f, v.Heads path raw d →
        (resolve v.compiler v.store v.importPaths d.schema d.message).result = .error (.failed f) →
        f.stage = .resolve ∧ o.entries = [Outcome.entryOf (tidied path) (unresolved d f)]) ∧
      (∀ raw d n, v.Heads path raw d → virtualName? d.schema = some n →
        ¬ Opens v.store (searchedRoots v.importPaths) n → v.FailsAt path .resolve) ∧
      (∀ e ∈ o.entries, e.file.isSome → e.stage = Stage.resolve.name) ∧
      (∀ raw d (i : Nat), v.Reads path raw →
        Header.extract (Utf8.decodeLossy raw) = .error (.duplicate d i) →
        ∃ e, o.entries = [e] ∧ e.stage = Stage.header.name ∧ e.line = some (i + 1)) ∧
      (v.check path).journal.runs.length ≤ 1 ∧
      ((v.check path).journal.runs ≠ [] ↔ ∃ raw d n, v.Heads path raw d ∧
        virtualName? d.schema = some n ∧
        (stage v.compiler.directory v.store (searchedRoots v.importPaths) [n]).2 = none) := by
  obtain ⟨o, ho⟩ : ∃ o, (v.check path).result = .ok o := by
    cases hx : (v.validate path).result with
    | ok u => exact ⟨_, result_check_of_ok hx⟩
    | error e =>
      cases e with
      | failed f => exact ⟨_, result_check_of_failed hx⟩
      | broken b => exact absurd hx (h b)
  refine ⟨o, ho, ?_, entries_eq_nil_iff ho, ?_, fun s => failsAt_iff ho, ?_, ?_, ?_, ?_, ?_, ?_⟩
  · rcases recorded_cases ho with ⟨-, rfl⟩ | ⟨f, -, -, rfl⟩
    · rfl
    · rfl
  · intro hne
    rcases recorded_cases ho with ⟨-, rfl⟩ | ⟨f, -, hends, -⟩
    · exact absurd rfl hne
    · exact ⟨f.stage, hends.failsAt.1⟩
  · intro raw d f hheads hres
    exact ⟨failsIn_resolve v.compiler v.store v.importPaths d.schema d.message f hres,
      entries_of_failed ho (result_validate_of_unresolved hheads hres)⟩
  · intro raw d n hheads hn hno
    exact hheads.failsAt_resolve (resolve_ne_ok_of_not_opens hn hno)
  · exact fun e he hf => stage_of_file_isSome ho he hf
  · intro raw d i hreads hd
    exact ⟨_, entries_of_failed ho (result_validate_of_headless hreads hd), rfl, rfl⟩
  · rw [runs_check]
    exact length_runs_validate_le
  · rw [runs_check]
    exact runs_validate_ne_nil_iff

/-- A file in memory whose schema is not there. -/
def lone : Validator where
  store := .memory (MemoryStore.ofList [("m.textproto",
    Utf8.encode "# proto-file: none.proto\n# proto-message: M".toList)])
  importPaths := []
  compiler := ⟨["protoc"], "staging", fun _ => .notStarted (.bare "no protoc")⟩

theorem stage_lone : ∃ f,
    (stage lone.compiler.directory lone.store ["."] ["none.proto"]).2 = some (.failed f) := by
  unfold stage
  rw [Staging.request]
  rw [Staging.run_missing (e := some (.unknown "none.proto")) (by decide)
    (by decide +kernel), Staging.run]
  exact ⟨_, rfl⟩

/-- A schema that cannot be read is an error of resolving, whatever the spelling of the file. -/
theorem check_lone : ∃ o, (lone.check "./m.textproto").result = .ok o ∧ o.file = "m.textproto" ∧
    ∃ e, o.entries = [e] ∧ e.stage = "resolve" := by
  have hheads : lone.Heads "./m.textproto"
      (Utf8.encode "# proto-file: none.proto\n# proto-message: M".toList) ⟨"none.proto", "M"⟩ := by
    constructor
    · show lone.store.read "./m.textproto" = _
      decide
    · decide +kernel
  obtain ⟨f, hf⟩ := stage_lone
  have hnames : virtualNames ["none.proto"] = .ok ["none.proto"] :=
    virtualNames_singleton.2 ⟨"none.proto", by decide, rfl⟩
  have hres : (resolve lone.compiler lone.store [] "none.proto" "M").result =
      .error (.failed f) :=
    result_resolve_of_stopped (compile_of_stopped lone.compiler (List.cons_ne_nil _ _) hnames hf).1
  have hx := result_validate_of_unresolved hheads hres
  obtain ⟨o, ho, hfile, -, -, hstage, -⟩ := check_records_first_failure lone "./m.textproto"
    fun b hb => nomatch (hx.symm.trans hb)
  refine ⟨o, ho, ?_, (hstage .resolve).1 (hheads.failsAt_resolve fun r hr => ?_)⟩
  · have htidied : tidied "./m.textproto" = "m.textproto" := by decide
    rw [hfile, htidied]
  · exact nomatch (hres.symm.trans hr)

/-! ## A plain file -/

/-- A file that holds its directives and nothing else. -/
def plainInput : Bytes := Utf8.encode "# proto-file: a.proto\n# proto-message: M".toList

/-- The file in memory, with its schema, which has no text. -/
def plainStore : Store :=
  .memory (MemoryStore.ofList [("m.textproto", plainInput), ("a.proto", [])])

/-- The directives of the file, whatever the spelling of its path. -/
theorem heads_plain (c : Compiler) :
    Heads ⟨plainStore, [], c⟩ "./m.textproto" plainInput ⟨"a.proto", "M"⟩ := by
  constructor
  · show plainStore.read "./m.textproto" = _
    decide
  · decide +kernel

theorem virtualNames_plain : virtualNames ["a.proto"] = .ok ["a.proto"] :=
  virtualNames_singleton.2 ⟨"a.proto", by decide, rfl⟩

theorem stage_plain : (stage "staging" plainStore (searchedRoots []) ["a.proto"]).2 = none := by
  have hfuel : (Staging.mentioned plainStore ["a.proto"]).length = 1 := by decide +kernel
  have hfound : lookUp plainStore (searchedRoots []) "a.proto" = .found 0 [] := by decide +kernel
  have himports : importedNames [] ++ [] = [] := by decide +kernel
  unfold stage
  rw [hfuel, Staging.request]
  rw [Staging.run_found List.not_mem_nil hfound (by decide), himports, Staging.run]
  rfl

end Validator

end ProtoCheck
