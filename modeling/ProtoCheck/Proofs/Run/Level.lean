import ProtoCheck.Proofs.Config.Unusable
import ProtoCheck.Proofs.Log.Root
import ProtoCheck.Proofs.Run.Verdict

/-!
# Texts for the level of a run

The level of a run can be given as any text. It is looked up in capitals among names of which two
are no levels, so that these two stop a run which does not count two verbosity flags. Every other
text only says which records are written: the files and what comes of them are the same.

* `Log.Level.Called`, `Log.StandsFor`, `Log.levelOf` : the names of levels, and the level for a
  text;
* `Log.Misnamed` : texts that name something else;
* `Host.setUp`, `Host.setUp_cases` : the root of the loggers in a run, or why there is none;
* `Host.settle_withLevel` : the settings of a run depend on the text in nothing but their level;
* `Host.sessionOf`, `Host.run_of_setUp`, `Host.run_of_setUp_error` : what becomes of the run;
* `Host.runs_at_any_level` : all of this for every text in the environment.
-/

namespace ProtoCheck

namespace Log

/-! ## Texts -/

/-- A text in capitals, as far as these are ASCII. -/
def capitals (text : String) : String := String.ofList (text.toList.flatMap capital)

/-- The names of a level: its own, and a second one for two of the levels. -/
inductive Level.Called : Level → String → Prop
  | own (l : Level) : Called l l.name
  | fatal : Called .critical "FATAL"
  | warn : Called .warning "WARN"

theorem Level.named?_eq_some_iff {name : String} {l : Level} :
    Level.named? name = some l ↔ l.Called name := by
  constructor
  · intro h
    unfold Level.named? at h
    split at h
    · rename_i hname
      obtain rfl := beq_iff_eq.1 hname
      obtain rfl := Option.some.inj h
      exact .fatal
    · split at h
      · rename_i hname
        obtain rfl := beq_iff_eq.1 hname
        obtain rfl := Option.some.inj h
        exact .warn
      · have hname := List.find?_some h
        obtain rfl := beq_iff_eq.1 hname
        exact .own l
  · intro h
    cases h with
    | own => cases l <;> decide
    | fatal => decide
    | warn => decide

/-- The level that a text stands for, in any case of its letters: the one that it names, and
`WARNING` if it names none. -/
def StandsFor (text : String) (l : Level) : Prop :=
  l.Called (capitals text) ∨ (∀ l' : Level, ¬ l'.Called (capitals text)) ∧ l = .warning

def levelOf (text : String) : Level := (Level.named? (capitals text)).getD .warning

/-- A text stands for one level. -/
theorem standsFor_iff {text : String} {l : Level} : StandsFor text l ↔ l = levelOf text := by
  unfold StandsFor levelOf
  simp only [← Level.named?_eq_some_iff]
  cases Level.named? (capitals text) with
  | some l' => simp [eq_comm]
  | none => simp

/-- The texts that name something that is no level: the basic line format, and the table of format
styles. -/
def Misnamed (text : String) : Prop :=
  capitals text = "BASIC_FORMAT" ∨ capitals text = "_STYLES"

instance (text : String) : Decidable (Misnamed text) :=
  inferInstanceAs (Decidable (_ ∨ _))

theorem Setting.named_eq (text : String) : Setting.named text =
    if capitals text = "BASIC_FORMAT" then .formatText
    else if capitals text = "_STYLES" then .styleTable
    else .level (levelOf text).value := by
  unfold Setting.named
  simp only [beq_iff_eq]
  rfl

theorem Setting.named_of_not_misnamed {text : String} (h : ¬ Misnamed text) :
    Setting.named text = .level (levelOf text).value := by
  rw [named_eq, if_neg fun hformat => h (.inl hformat), if_neg fun htable => h (.inr htable)]

theorem Setting.named_of_misnamed {text : String} (h : Misnamed text) : Setting.named text =
    if capitals text = "BASIC_FORMAT" then .formatText else .styleTable := by
  rw [named_eq]
  rcases h with hformat | htable
  · rw [if_pos hformat, if_pos hformat]
  · rw [if_pos htable]

/-- A level with verbosity flags counted in: one lowers it to `INFO` at most, more make it
`DEBUG`. -/
def lowered (l : Level) : (verbosity : Nat) → Int
  | 0 => l.value
  | 1 => min l.value Level.info.value
  | _ + 2 => Level.debug.value

theorem verbosityLevel_eq_lowered (verbosity : Nat) (l : Level) :
    verbosityLevel verbosity l.value = lowered l verbosity := by
  match verbosity with
  | 0 => rfl
  | 1 => rfl
  | v + 2 =>
    unfold verbosityLevel
    rw [if_neg (by omega), if_neg (by omega)]
    rfl

end Log

namespace Host

open Log

/-! ## The root of the loggers -/

/-- The root of the loggers for settings and a count of verbosity flags, where it was `root`. -/
def setUp (c : Config) (verbosity : Nat) (root : Root) : Except Breakdown Root := do
  let c ← verbose c verbosity
  let r ← c.routing
  return root.configure r Format.brief

/-- The breakdown for a text that names no level: with one flag it is compared with a level, without
flags it is put in force as one. -/
def levelStop (text : String) (verbosity : Nat) : Breakdown :=
  if verbosity = 1 then .levelsApart
  else if capitals text = "BASIC_FORMAT" then .levelIsText
  else .levelIsTable

section SetUp
variable {c : Config} {verbosity : Nat} (root : Root)

theorem setUp_of_verbose {c' : Config} (hc : verbose c verbosity = .ok c') :
    setUp c verbosity root = c'.routing.map (root.configure · Format.brief) := by
  unfold setUp
  rw [hc]
  simp only [bind, Except.bind]
  cases c'.routing with
  | ok r => rfl
  | error b => rfl

theorem setUp_of_routing {c' : Config} {r : Routing} (hc : verbose c verbosity = .ok c')
    (hr : c'.routing = .ok r) : setUp c verbosity root = .ok (root.configure r Format.brief) := by
  rw [setUp_of_verbose root hc, hr]
  rfl

theorem setUp_withVerbosity {l : Level}
    (h : verbose c verbosity = .ok (withVerbosity c verbosity l)) :
    setUp c verbosity root =
      .ok (root.configure (Routing.usual (lowered l verbosity)) Format.brief) := by
  have hr := routing_eq_ok_iff.2 ⟨_, setting_withVerbosity c verbosity l, rfl⟩
  rw [setUp_of_routing root h hr, verbosityLevel_eq_lowered]

theorem setUp_of_not_misnamed (h : ¬ Misnamed c.logLevel) : setUp c verbosity root =
    .ok (root.configure (Routing.usual (lowered (levelOf c.logLevel) verbosity)) Format.brief) := by
  have hsetting : c.setting = .level (levelOf c.logLevel).value := Setting.named_of_not_misnamed h
  cases verbosity with
  | zero => exact setUp_of_routing root rfl (routing_eq_ok_iff.2 ⟨_, hsetting, rfl⟩)
  | succ v => exact setUp_withVerbosity root (verbose_of_setting hsetting (Nat.succ_ne_zero v))

theorem verbose_of_misnamed (h : Misnamed c.logLevel) (hv : verbosity ≠ 0) : verbose c verbosity =
    if verbosity = 1 then .error .levelsApart else .ok (withVerbosity c verbosity .warning) := by
  have hsetting : c.setting = _ := Setting.named_of_misnamed h
  unfold verbose
  dsimp only
  rw [if_neg (mt beq_iff_eq.1 hv), hsetting]
  simp only [beq_iff_eq]
  split_ifs <;> rfl

/-- Two flags make any text usable. -/
theorem setUp_of_two_le (h : Misnamed c.logLevel) (hv : 2 ≤ verbosity) : setUp c verbosity root =
    .ok (root.configure (Routing.usual (lowered (levelOf c.logLevel) verbosity)) Format.brief) := by
  have hv0 : verbosity ≠ 0 := by omega
  have hverbose := verbose_of_misnamed h hv0
  rw [if_neg (by omega)] at hverbose
  rw [setUp_withVerbosity root hverbose]
  obtain ⟨v, rfl⟩ := Nat.exists_eq_add_of_le' hv
  rfl

theorem setUp_of_misnamed (h : Misnamed c.logLevel) (hv : verbosity ≤ 1) :
    setUp c verbosity root = .error (levelStop c.logLevel verbosity) := by
  unfold levelStop
  match verbosity with
  | 0 =>
    have hsetting : c.setting = _ := Setting.named_of_misnamed h
    have hrouting : c.routing = .error (if capitals c.logLevel = "BASIC_FORMAT" then .levelIsText
        else .levelIsTable) := by
      unfold Config.routing
      rw [hsetting]
      split_ifs <;> rfl
    have hverbose : verbose c 0 = .ok c := rfl
    rw [setUp_of_verbose root hverbose, hrouting]
    rfl
  | 1 =>
    unfold setUp
    rw [verbose_of_misnamed h Nat.one_ne_zero]
    rfl

/-- What comes of setting up the loggers: only a text that names something else than a level stops
it, and only when there is one verbosity flag at most. -/
theorem setUp_cases (c : Config) (verbosity : Nat) (root : Root) :
    (Misnamed c.logLevel ∧ verbosity ≤ 1 ∧
      setUp c verbosity root = .error (levelStop c.logLevel verbosity)) ∨
    (¬ (Misnamed c.logLevel ∧ verbosity ≤ 1) ∧ setUp c verbosity root =
      .ok (root.configure (Routing.usual (lowered (levelOf c.logLevel) verbosity))
        Format.brief)) := by
  by_cases h : Misnamed c.logLevel
  · by_cases hv : verbosity ≤ 1
    · exact .inl ⟨h, hv, setUp_of_misnamed root h hv⟩
    · exact .inr ⟨fun hboth => hv hboth.2, setUp_of_two_le root h (by omega)⟩
  · exact .inr ⟨fun hboth => h hboth.1, setUp_of_not_misnamed root h⟩

end SetUp

/-! ## Settings -/

/-- The surroundings of a run with another text for the level in the environment. -/
def withLevel (h : Host) (text : Option String) : Host :=
  { h with environment := { h.environment with logLevel := text } }

/-- The text for the level that an environment gives. -/
theorem ofEnvironment_withLevel (h : Host) (text : Option String) :
    Config.ofEnvironment (h.withLevel text).environment =
      { Config.ofEnvironment h.environment with
        logLevel := text.getD Level.warning.name } := rfl

/-- Further settings do the same whatever the level was before. -/
theorem updated_withLevel (c : Config) (s : Settings) (text : String) :
    ({ c with logLevel := text } : Config).updated s =
      (c.updated s).map fun c' => { c' with logLevel := s.level?.getD text } := by
  unfold Config.updated
  dsimp only
  cases s.outputFormat with
  | none => rfl
  | some name =>
    dsimp only
    cases Style.named? name <;> rfl

theorem eq_ok_of_mapError {ε ε' α : Type} {f : ε → ε'} {x : Except ε α} {a : α}
    (h : x.mapError f = .ok a) : x = .ok a := by
  cases x with
  | error e => cases h
  | ok b => rw [Except.ok.inj h]

theorem updated_withLevel_of_ok {c c' : Config} {s : Settings} (h : c.updated s = .ok c')
    (text : String) : (({ c with logLevel := text } : Config).updated s).mapError Stop.failed =
      .ok { c' with logLevel := s.level?.getD text } := by
  rw [updated_withLevel, h]
  rfl

/-- The settings of a file do the same whatever the level was before, and of the levels that they
can set none is misnamed. -/
theorem withFile_withLevel {c c' : Config} {t : Tree} {path : String}
    (h : c.withFile t path = .ok c') : ∃ own : Option String,
      (∀ name ∈ own, name ∈ Settings.levels) ∧
      ∀ text, ({ c with logLevel := text } : Config).withFile t path =
        .ok { c' with logLevel := own.getD text } := by
  have happly : ∀ c : Config, c.withFile t path = _ := fun c => Change.apply_eq c (.file t path)
  rw [happly] at h
  obtain ⟨s, hs, hc⟩ := exists_of_bind_eq_ok h
  refine ⟨s.level?, fun name hname => ?_, fun text => ?_⟩
  · obtain ⟨text, -, htext⟩ := exists_of_bind_eq_ok hs
    obtain ⟨d, hd, rfl⟩ := exists_data_of_settings htext
    exact level_mem_of_ofData hd name (Option.filter_eq_some_iff.1 hname).1
  · rw [happly, hs]
    exact updated_withLevel_of_ok (eq_ok_of_mapError hc) text

/-- The settings of a run depend on the text for the level in nothing but their level: it is the one
that the configuration file sets, and the text if the file sets none. -/
theorem settle_withLevel {h : Host} {o : Options} {c : Config} (hs : h.settle o = .ok c) :
    ∃ own : Option String, (o.config.filter (!·.isEmpty) = none → own = none) ∧
      (∀ name ∈ own, name ∈ Settings.levels) ∧
      ∀ text : Option String, (h.withLevel text).settle o =
        .ok { c with logLevel := own.getD (text.getD Level.warning.name) } := by
  cases hpath : o.config.filter (!·.isEmpty) with
  | none =>
    unfold settle at hs ⊢
    rw [hpath] at hs ⊢
    exact ⟨none, fun _ => rfl, nofun, fun text =>
      updated_withLevel_of_ok (eq_ok_of_mapError hs) (text.getD Level.warning.name)⟩
  | some path =>
    unfold settle at hs ⊢
    rw [hpath] at hs ⊢
    obtain ⟨c₁, hfile, hc⟩ := exists_of_bind_eq_ok hs
    obtain ⟨own, hown, hwith⟩ := withFile_withLevel hfile
    refine ⟨own, nofun, hown, fun text => ?_⟩
    rw [ofEnvironment_withLevel]
    dsimp only
    have hfile' := hwith (text.getD Level.warning.name)
    change (Config.withFile _ h.tree path).bind _ = _
    rw [hfile']
    exact updated_withLevel_of_ok (eq_ok_of_mapError hc) _

/-! ## Runs -/

/-- How a run ends whose files are validated. -/
def endingOf : Except Stop (List Outcome) → Ending
  | .ok outcomes => .exit (exitCode outcomes)
  | .error (.broken b) => .broken b
  | .error (.failed _) => .exit 1

/-- The session of a run whose files are validated, with its records at a root of the loggers. -/
def sessionOf (h : Host) (c : Config) (root : Root) (files : List String) : Session :=
  let x := (h.validator c).checkAll files
  let records := pathsRecord c :: x.journal.records
  ⟨endingOf x.result,
    ⟨root.text records .out, root.text records .err⟩ ++ resultsOf c.style x.result,
    x.journal.runs.length⟩

/-- What is written to the two streams is what the root of the loggers writes. -/
theorem validateAll_eq (h : Host) (c : Config) (root : Root) (r : Routing) (files : List String) :
    h.validateAll c r files = h.sessionOf c (root.configure r Format.brief) files := by
  unfold validateAll sessionOf written
  simp only [Root.text_configure]
  cases ((h.validator c).checkAll files).result with
  | ok outcomes => rfl
  | error e => cases e <;> rfl

theorem sessionOf_congr (h : Host) {c c' : Config} (hpaths : c'.importPaths = c.importPaths)
    (hstyle : c'.style = c.style) (root : Root) (files : List String) :
    h.sessionOf c' root files = h.sessionOf c root files := by
  unfold sessionOf pathsRecord
  rw [h.validator_congr hpaths, hpaths, hstyle]

section Run
variable {h : Host} {args : List String} {o : Options} {c : Config}
  (hasked : Request.ofArguments args = .run o) (hsettled : h.settle o = .ok c) (root : Root)
include hasked hsettled

/-- A run with its loggers set up validates its files. -/
theorem run_of_setUp {r : Root} (hr : setUp c o.verbosity root = .ok r) :
    h.run args = h.sessionOf c r o.files := by
  obtain ⟨c₁, hverbose, hr⟩ := exists_of_bind_eq_ok hr
  obtain ⟨routing, hrouting, hr⟩ := exists_of_bind_eq_ok hr
  obtain rfl := Except.ok.inj hr
  have hstarts : h.Starts args o c routing := ⟨hasked, hsettled, c₁, hverbose, hrouting⟩
  obtain ⟨c', hpaths, hstyle, hrun⟩ := hstarts.run_eq
  rw [hrun, h.validateAll_eq c' root, h.sessionOf_congr hpaths hstyle]

theorem run_of_setUp_error {b : Breakdown} (hb : setUp c o.verbosity root = .error b) :
    h.run args = ⟨.broken b, {}, 0⟩ := by
  unfold run
  rw [hasked]
  dsimp only
  unfold runOptions
  rw [hsettled]
  dsimp only
  cases hverbose : verbose c o.verbosity with
  | error b' =>
    unfold setUp at hb
    rw [hverbose] at hb
    rw [Except.error.inj hb]
  | ok c₁ =>
    rw [setUp_of_verbose root hverbose] at hb
    dsimp only
    cases hrouting : c₁.routing with
    | error b' =>
      rw [hrouting] at hb
      rw [Except.error.inj hb]
    | ok r =>
      rw [hrouting] at hb
      exact nomatch hb

end Run

/-- **Which texts for the level can be used.** The settings of a run that is given files depend on
the text in the environment in nothing but their level, and there only if the configuration file
sets none. The loggers are set up, with one handler for each stream and at the level that the text
stands for, with the verbosity flags counted in; then the files are validated, whatever the text is.
The two texts that name something else than a level are different: with one flag at most the run
breaks down in front of its files and writes nothing. -/
theorem runs_at_any_level {h : Host} {args : List String} {o : Options} {c : Config}
    (hasked : Request.ofArguments args = .run o) (hsettled : h.settle o = .ok c) (root : Root) :
    ∃ own : Option String, (o.config.filter (!·.isEmpty) = none → own = none) ∧
      ∀ given : Option String, ∃ text c',
        text = own.getD (given.getD Level.warning.name) ∧
        (h.withLevel given).settle o = .ok c' ∧ c' = { c with logLevel := text } ∧
        (¬ (Misnamed text ∧ o.verbosity ≤ 1) → ∃ l r, StandsFor text l ∧
          setUp c' o.verbosity root = .ok r ∧ r.level = lowered l o.verbosity ∧
          r.handlers.map (·.stream) = [.out, .err] ∧
          (h.withLevel given).run args = h.sessionOf c r o.files) ∧
        (Misnamed text ∧ o.verbosity ≤ 1 → own = none ∧
          setUp c' o.verbosity root = .error (levelStop text o.verbosity) ∧
          (h.withLevel given).run args = ⟨.broken (levelStop text o.verbosity), {}, 0⟩) := by
  obtain ⟨own, hfile, hown, hsettle⟩ := settle_withLevel hsettled
  refine ⟨own, hfile, fun given =>
    ⟨_, _, rfl, hsettle given, rfl, fun husable => ?_, fun hmis => ?_⟩⟩
  · rcases setUp_cases { c with logLevel := own.getD (given.getD Level.warning.name) }
        o.verbosity root
      with ⟨hmis, hv, -⟩ | ⟨-, hset⟩
    · exact absurd ⟨hmis, hv⟩ husable
    · exact ⟨_, _, standsFor_iff.2 rfl, hset, rfl, rfl,
        run_of_setUp hasked (hsettle given) root hset⟩
  · have hset := setUp_of_misnamed
      (c := { c with logLevel := own.getD (given.getD Level.warning.name) }) root hmis.1 hmis.2
    refine ⟨?_, hset, run_of_setUp_error hasked (hsettle given) root hset⟩
    -- none of the levels that a file can set is misnamed
    cases own with
    | none => rfl
    | some name =>
      have hmem := hown name rfl
      have hlevels : ∀ name ∈ Settings.levels, ¬ Misnamed name := by decide
      exact absurd hmis.1 (hlevels name hmem)

theorem settle_withLevel_bare (given : Option String) (verbosity : Nat) :
    (bare.withLevel given).settle (bareOptions verbosity) =
      .ok { bareConfig with logLevel := given.getD Level.warning.name } := rfl

/-- One flag lowers the level of a text to `INFO`, and the file that is not there is looked for. -/
theorem runs_at_critical :
    Request.ofArguments (bareArguments ["-v"]) = .run (bareOptions 1) ∧
      bare.settle (bareOptions 1) = .ok bareConfig ∧ ∃ r : Root, r.level = 20 ∧
        (bare.withLevel (some "Critical")).run (bareArguments ["-v"]) =
          bare.sessionOf bareConfig r ["gone.textproto"] := by
  have hasked : Request.ofArguments (bareArguments ["-v"]) = .run (bareOptions 1) := by
    decide
  obtain ⟨own, hfile, hrun⟩ := runs_at_any_level hasked (settle_bare 1) Root.initial
  obtain rfl := hfile rfl
  obtain ⟨text, c', rfl, -, -, husable, -⟩ := hrun (some "Critical")
  obtain ⟨l, r, hl, -, hlevel, -, hsession⟩ := husable (by decide)
  have hcritical : levelOf "Critical" = .critical := by decide
  obtain rfl : l = .critical := (standsFor_iff.1 hl).trans hcritical
  exact ⟨hasked, settle_bare 1, r, hlevel, hsession⟩

/-- The name of the line format stops the run, and so does that of the table of styles with a flag.
Without either the file that is not there is looked for, and the run ends with status one. -/
theorem stopped_at_format_name :
    (bare.withLevel (some "BASIC_FORMAT")).run (bareArguments []) =
        ⟨.broken .levelIsText, {}, 0⟩ ∧
      (bare.withLevel (some "_styles")).run (bareArguments ["-v"]) =
        ⟨.broken .levelsApart, {}, 0⟩ ∧
      ((bare.withLevel none).run (bareArguments [])).ending = .exit 1 := by
  have hasked : Request.ofArguments (bareArguments []) = .run (bareOptions 0) := by decide
  have hflag : Request.ofArguments (bareArguments ["-v"]) = .run (bareOptions 1) := by
    decide
  have hformat : Misnamed "BASIC_FORMAT" := by decide
  have hstyles : Misnamed "_styles" := by decide
  have hstop : levelStop "BASIC_FORMAT" 0 = .levelIsText := by decide
  refine ⟨?_, ?_, ?_⟩
  · rw [← hstop]
    exact run_of_setUp_error hasked (settle_withLevel_bare _ 0) Root.initial
      (setUp_of_misnamed Root.initial hformat (Nat.zero_le 1))
  · exact run_of_setUp_error hflag (settle_withLevel_bare _ 1) Root.initial
      (setUp_of_misnamed Root.initial hstyles (Nat.le_refl 1))
  · have hset : ¬ Misnamed Level.warning.name := by decide
    rw [run_of_setUp hasked (settle_withLevel_bare none 0) Root.initial
      (setUp_of_not_misnamed Root.initial hset)]
    have hx := Validator.checkAll_of_unread readInput_bare
    have hresult : ((bare.validator bareConfig).checkAll (bareOptions 0).files).result =
        .ok [goneOutcome] := congrArg (·.result) hx
    change endingOf ((bare.validator bareConfig).checkAll (bareOptions 0).files).result = _
    rw [hresult]
    rfl

end Host

end ProtoCheck
