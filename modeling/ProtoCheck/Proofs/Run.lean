import ProtoCheck.Proofs.Schema.Staging
import ProtoCheck.Proofs.Validation.Records
import ProtoCheck.Run

/-!
# What a run writes

A run writes its records and what comes of validating its files. Records that trace it stand on
standard output, in front of the results, warnings on the error stream.

* `Host.exists_level_of_verbose` : the level that records have to reach, for any number of verbosity
  flags;
* `Host.Starts`, `Host.Starts.run_eq`, `Host.Starts.printed` : a run that comes to validating its
  files, and what it writes;
* `Host.run_writes_document` : the two streams of such a run that prints a document, and when the
  document is all there is on standard output;
* `Host.run_untraced`, `Host.run_traced` : a run where it is, and one where it is not.
-/

namespace ProtoCheck.Host

/-! ## Levels -/

theorem routing_eq_ok_iff {c : Config} {r : Log.Routing} :
    c.routing = .ok r ↔ ∃ n, c.setting = .level n ∧ r = Log.Routing.usual n := by
  unfold Config.routing
  cases c.setting with
  | level n =>
    constructor
    · intro h
      exact ⟨n, rfl, (Except.ok.inj h).symm⟩
    · rintro ⟨m, hm, rfl⟩
      rw [Log.Setting.level.inj hm]
      rfl
  | formatText => exact ⟨fun h => (nomatch h), fun ⟨_, h, _⟩ => (nomatch h)⟩
  | styleTable => exact ⟨fun h => (nomatch h), fun ⟨_, h, _⟩ => (nomatch h)⟩

/-- A configuration with the level that verbosity flags make of a level. -/
def withVerbosity (c : Config) (verbosity : Nat) (l : Log.Level) : Config :=
  { c with logLevel := Log.levelName (Log.verbosityLevel verbosity l.value) }

theorem setting_withVerbosity (c : Config) (verbosity : Nat) (l : Log.Level) :
    (withVerbosity c verbosity l).setting = .level (Log.verbosityLevel verbosity l.value) := by
  obtain ⟨l', hl'⟩ := Log.exists_verbosityLevel verbosity l
  unfold Config.setting withVerbosity
  rw [hl']
  exact Log.Setting.named_levelName l'

theorem verbose_of_setting {c : Config} {verbosity : Nat} {l : Log.Level}
    (h : c.setting = .level l.value) (hv : verbosity ≠ 0) :
    verbose c verbosity = .ok (withVerbosity c verbosity l) := by
  unfold verbose
  dsimp only
  rw [if_neg (mt beq_iff_eq.1 hv), h]
  rfl

/-- What verbosity flags do: without them nothing changes, with them the level does. Where it is no
level, two are needed. -/
theorem verbose_cases {c c' : Config} {verbosity : Nat} (h : verbose c verbosity = .ok c') :
    (verbosity = 0 ∧ c' = c) ∨
    (∃ l : Log.Level, c.setting = .level l.value ∧ c' = withVerbosity c verbosity l) ∨
    (2 ≤ verbosity ∧ c' = withVerbosity c verbosity .warning) := by
  unfold verbose at h
  dsimp only at h
  split at h
  · rename_i hzero
    exact .inl ⟨beq_iff_eq.1 hzero, (Except.ok.inj h).symm⟩
  · rename_i hpos
    rw [beq_iff_eq] at hpos
    split at h
    · rename_i n hn
      obtain ⟨l, rfl⟩ := Log.Setting.exists_level hn
      exact .inr (.inl ⟨l, hn, (Except.ok.inj h).symm⟩)
    · split at h
      · exact nomatch h
      · rename_i hone
        rw [beq_iff_eq] at hone
        exact .inr (.inr ⟨by omega, (Except.ok.inj h).symm⟩)

/-- Records that trace a run are left out when the level of its settings leaves them out, and there
is one flag at most. -/
theorem exists_level_of_verbose {c c' : Config} {verbosity : Nat} {r : Log.Routing}
    (h : verbose c verbosity = .ok c') (hr : c'.routing = .ok r) :
    ∃ n, r = Log.Routing.usual n ∧ (Log.Level.debug.value < n ↔
      verbosity ≤ 1 ∧ ∃ m, c.setting = .level m ∧ Log.Level.debug.value < m) := by
  obtain ⟨n, hn, rfl⟩ := routing_eq_ok_iff.1 hr
  refine ⟨n, rfl, ?_⟩
  rcases verbose_cases h with ⟨rfl, rfl⟩ | ⟨l, hl, rfl⟩ | ⟨htwo, rfl⟩
  · simp [hn]
  · rw [setting_withVerbosity] at hn
    rw [← Log.Setting.level.inj hn, Log.debug_lt_verbosityLevel_iff, hl]
    simp
  · rw [setting_withVerbosity] at hn
    rw [← Log.Setting.level.inj hn, Log.debug_lt_verbosityLevel_iff]
    omega

theorem eq_of_verbose {c c' : Config} {verbosity : Nat} (h : verbose c verbosity = .ok c') :
    c'.importPaths = c.importPaths ∧ c'.style = c.style := by
  rcases verbose_cases h with ⟨-, rfl⟩ | ⟨l, -, rfl⟩ | ⟨-, rfl⟩
  · exact ⟨rfl, rfl⟩
  · exact ⟨rfl, rfl⟩
  · exact ⟨rfl, rfl⟩

/-! ## Runs -/

/-- A run that comes to its files: what is asked for, the settings that are settled for it, and how
records are routed once the verbosity flags are counted in. -/
structure Starts (h : Host) (args : List String) (o : Options) (c : Config) (r : Log.Routing) :
    Prop where
  asked : Request.ofArguments args = .run o
  settled : h.settle o = .ok c
  routed : ∃ c', verbose c o.verbosity = .ok c' ∧ c'.routing = .ok r

/-- What is printed of the results of a run; a run that breaks has none. -/
def resultsOf (s : Style) : Except Stop (List Outcome) → Printed
  | .ok outcomes => s.print outcomes
  | .error _ => {}

/-- The document of a run. -/
def documentOf : Except Stop (List Outcome) → String
  | .ok outcomes => (Style.document outcomes).pretty ++ "\n"
  | .error _ => ""

theorem resultsOf_json (x : Except Stop (List Outcome)) :
    resultsOf .json x = ⟨documentOf x, ""⟩ := by
  cases x with
  | ok outcomes => rfl
  | error e => rfl

section Starts
variable {h : Host} {args : List String} {o : Options} {c : Config} {r : Log.Routing}

/-- A run that comes to its files validates them; the verbosity flags change the level alone. -/
theorem Starts.run_eq (hs : h.Starts args o c r) : ∃ c' : Config,
    c'.importPaths = c.importPaths ∧ c'.style = c.style ∧
      h.run args = h.validateAll c' r o.files := by
  obtain ⟨hasked, hsettled, c', hverbose, hrouted⟩ := hs
  obtain ⟨hpaths, hstyle⟩ := eq_of_verbose hverbose
  refine ⟨c', hpaths, hstyle, ?_⟩
  unfold run
  rw [hasked]
  dsimp only
  unfold runOptions
  rw [hsettled]
  dsimp only
  rw [hverbose]
  dsimp only
  rw [hrouted]

theorem validator_congr {c c' : Config} (h : Host) (hpaths : c'.importPaths = c.importPaths) :
    h.validator c' = h.validator c := by
  unfold validator
  rw [hpaths]

/-- What a run writes that comes to its files: the records of all of it, and the results. -/
theorem Starts.printed (hs : h.Starts args o c r) :
    (h.run args).printed =
      written r (pathsRecord c :: ((h.validator c).checkAll o.files).journal.records)
        (resultsOf c.style ((h.validator c).checkAll o.files).result) := by
  obtain ⟨c', hpaths, hstyle, hrun⟩ := hs.run_eq
  have hrecord : pathsRecord c' = pathsRecord c := by
    unfold pathsRecord
    rw [hpaths]
  rw [hrun]
  unfold validateAll
  dsimp only
  rw [h.validator_congr hpaths, hrecord, hstyle]
  cases ((h.validator c).checkAll o.files).result with
  | ok outcomes => rfl
  | error e =>
    cases e with
    | broken b => rfl
    | failed f => rfl

/-- **What stands on the two streams** of a run that prints a document: on standard output the
records that trace the run, where they are not left out, and then the document; on the error stream
the warnings. The document is all that stands on standard output when there is one verbosity flag at
most and the level of the settings is above the one of such records, and only then. -/
theorem run_writes_document (hs : h.Starts args o c r) (hj : c.style = .json) :
    let x := (h.validator c).checkAll o.files
    let records := pathsRecord c :: x.journal.records
    (h.run args).printed.out =
        (if r.level ≤ Log.Level.debug.value then
          Log.linesOf .debug Log.Format.brief.line records else "") ++ documentOf x.result ∧
      (h.run args).printed.err =
        (if r.level ≤ Log.Level.warning.value then
          Log.linesOf .warning Log.Format.brief.line records else "") ∧
      ((h.run args).printed.out = documentOf x.result ↔
        o.verbosity ≤ 1 ∧ ∃ n, c.setting = .level n ∧ Log.Level.debug.value < n) := by
  intro x records
  obtain ⟨c', hverbose, hrouted⟩ := hs.routed
  obtain ⟨n, hr, hlevel⟩ := exists_level_of_verbose hverbose hrouted
  have husual : ∀ rec ∈ records, rec.Usual :=
    List.forall_mem_cons.2 ⟨Log.Channel.usual_debug _ _, (h.validator c).logs_checkAll o.files⟩
  have hprinted : (h.run args).printed = written r records ⟨documentOf x.result, ""⟩ := by
    rw [hs.printed, hj, resultsOf_json]
  have hout : (h.run args).printed.out =
      (if r.level ≤ Log.Level.debug.value then
        Log.linesOf .debug Log.Format.brief.line records else "") ++ documentOf x.result := by
    rw [hprinted, hr]
    exact congrArg (· ++ documentOf x.result) (Log.Routing.emit_out husual n)
  refine ⟨hout, ?_, ?_⟩
  · rw [hprinted, hr]
    exact (String.append_empty).trans (Log.Routing.emit_err husual n)
  · rw [hout, ← hlevel, hr]
    change (if n ≤ Log.Level.debug.value then _ else _) ++ _ = _ ↔ _
    split
    · -- the record of the import paths is among those in front of the document
      rename_i hle
      refine ⟨fun he => ?_, fun hlt => absurd hlt (Int.not_lt.2 hle)⟩
      exact absurd (String.append_eq_right_iff.1 he) (Log.linesOf_cons_ne_empty rfl _ _)
    · rename_i hlt
      exact ⟨fun _ => Int.not_le.1 hlt, fun _ => String.empty_append⟩

end Starts

/-! ## A file that is not there -/

/-- A disk without files, with an environment that sets nothing. -/
def bare : Host where
  tree := ⟨[], []⟩
  environment := {}
  compiler := Schema.uninstalled

/-- A document is asked for, of a file that is not there, with flags in front. -/
def bareArguments (flags : List String) : List String :=
  flags ++ ["--format", "json", "gone.textproto"]

/-- The options that these arguments stand for. -/
def bareOptions (verbosity : Nat) : Options :=
  { files := ["gone.textproto"], format := some Style.json.name, verbosity }

/-- The settings that come of it. -/
def bareConfig : Config := { style := .json }

theorem settle_bare (verbosity : Nat) : bare.settle (bareOptions verbosity) = .ok bareConfig := rfl

theorem setting_bareConfig : bareConfig.setting = .level Log.Level.warning.value := by
  decide

/-- The failure of that file. -/
def gone : Failure :=
  ⟨.access, "open gone.textproto: No such file or directory", none, some (.file .noEntry)⟩

theorem readInput_bare : ((bare.validator bareConfig).readInput "gone.textproto").result =
    .error (.failed gone) := by
  have hnul : "gone.textproto".contains '\x00' = false := by simp
  rw [Validator.result_readInput]
  unfold validator
  dsimp only
  unfold Store.read
  rw [hnul]
  rfl

/-- Without verbosity flags the document is all that is written to standard output. -/
theorem run_untraced :
    bare.Starts (bareArguments []) (bareOptions 0) bareConfig (Log.Routing.usual 30) ∧
      bareConfig.style = .json ∧
      (bare.run (bareArguments [])).printed.out = documentOf
        ((bare.validator bareConfig).checkAll (bareOptions 0).files).result := by
  have hrouted := routing_eq_ok_iff.2 ⟨_, setting_bareConfig, rfl⟩
  have hs : bare.Starts (bareArguments []) (bareOptions 0) bareConfig (Log.Routing.usual 30) :=
    ⟨by decide, settle_bare 0, _, rfl, hrouted⟩
  obtain ⟨-, -, hiff⟩ := run_writes_document hs rfl
  exact ⟨hs, rfl, hiff.2 ⟨Nat.zero_le 1, _, setting_bareConfig, by decide⟩⟩

/-- What is recorded about that file. -/
def goneOutcome : Outcome := (Outcome.ofFile "gone.textproto").record gone

/-- With two verbosity flags it is not: the records of the import paths and of the file that is read
stand in front of it. -/
theorem run_traced :
    bare.Starts (bareArguments ["-v", "-v"]) (bareOptions 2) bareConfig (Log.Routing.usual 10) ∧
      ((bare.validator bareConfig).checkAll (bareOptions 2).files).result = .ok [goneOutcome] ∧
      (bare.run (bareArguments ["-v", "-v"])).printed.out =
        "DEBUG: Import paths: ['.']\nDEBUG: Reading file: gone.textproto\n" ++
          ((Style.document [goneOutcome]).pretty ++ "\n") ∧
      (bare.run (bareArguments ["-v", "-v"])).printed.out ≠
        (Style.document [goneOutcome]).pretty ++ "\n" := by
  have hs : bare.Starts (bareArguments ["-v", "-v"]) (bareOptions 2) bareConfig
      (Log.Routing.usual 10) :=
    ⟨by decide, settle_bare 2, _, verbose_of_setting setting_bareConfig (by decide),
      routing_eq_ok_iff.2 ⟨_, setting_withVerbosity bareConfig 2 .warning, rfl⟩⟩
  have hx := Validator.checkAll_of_unread readInput_bare
  have hresult : ((bare.validator bareConfig).checkAll (bareOptions 2).files).result =
      .ok [goneOutcome] := congrArg (·.result) hx
  have hrecords : ((bare.validator bareConfig).checkAll (bareOptions 2).files).journal.records =
      [Log.Channel.fileAccess.debug "Reading file: gone.textproto"] :=
    congrArg (·.journal.records) hx
  have hlines : (Log.Routing.usual 10).emit Log.Format.brief.line [pathsRecord bareConfig,
      Log.Channel.fileAccess.debug "Reading file: gone.textproto"] .out =
        "DEBUG: Import paths: ['.']\nDEBUG: Reading file: gone.textproto\n" := by
    decide
  have hprinted := congrArg Printed.out hs.printed
  rw [hresult, hrecords] at hprinted
  have hout : (bare.run (bareArguments ["-v", "-v"])).printed.out =
      "DEBUG: Import paths: ['.']\nDEBUG: Reading file: gone.textproto\n" ++
        ((Style.document [goneOutcome]).pretty ++ "\n") := by
    rw [hprinted, ← hlines]
    rfl
  have hfront : "DEBUG: Import paths: ['.']\nDEBUG: Reading file: gone.textproto\n" ≠ "" := by
    decide
  exact ⟨hs, hresult, hout, hout ▸ fun he => hfront (String.append_eq_right_iff.1 he)⟩

end ProtoCheck.Host
