import ProtoCheck.Config

/-!
# Settings over a run

Settings come from the environment and then change step by step: with a file, or with settings that
are given. A step that fails changes nothing.

* `distinct`, `mergeImportPaths_eq` : import paths that are merged, `distinct_distinct_append` : it
  does not matter whether some of them are merged already;
* `Config.updated_cases` : what further settings do;
* `violation?_eq_none_iff`, `mem_violations_of_violation?` : the violation that is reported is one
  of all, and one is reported when there are any;
* `hasStyle_of_settings` : the settings of a file can always be used;
* `Change`, `Change.apply`, `after` : steps, and the settings behind several of them;
* `Follows`, `Follows.apply` : how settings depend on the environment and on what the steps set, and
  that each step keeps it so;
* `follows_after` : what the settings are behind any steps.
-/

namespace ProtoCheck

/-! ## Import paths -/

/-- The paths of a list that say something, each of them once, where it stands first. -/
def distinct (paths : List String) : List String := (paths.filter (!·.isEmpty)).eraseDups

theorem mem_distinct {paths : List String} {p : String} :
    p ∈ distinct paths ↔ p ∈ paths ∧ p ≠ "" := by
  simp [distinct, List.mem_eraseDups]

/-- Paths that are added one after the other stand behind those that were there. -/
theorem foldl_addPath (paths acc : List String) :
    paths.foldl addPath acc =
      acc ++ (paths.filter fun p => !p.isEmpty && !acc.contains p).eraseDups := by
  induction paths generalizing acc with
  | nil => exact (List.append_nil acc).symm
  | cons p rest ih =>
    rw [List.foldl_cons, ih]
    cases hp : p.isEmpty || acc.contains p with
    | true =>
      have hskip : (!p.isEmpty && !acc.contains p) = false := by
        rw [← Bool.not_or, hp]
        rfl
      rw [List.filter_cons_of_neg (by rw [hskip]; exact Bool.false_ne_true)]
      unfold addPath
      rw [if_pos hp]
    | false =>
      have hkeep : (!p.isEmpty && !acc.contains p) = true := by
        rw [← Bool.not_or, hp]
        rfl
      have hadd : addPath acc p = acc ++ [p] := by
        unfold addPath
        rw [hp]
        rfl
      -- of what follows, this path is skipped from here on
      have hpred : (fun q : String => !q.isEmpty && !(acc ++ [p]).contains q) =
          fun q => (!q == p) && (!q.isEmpty && !acc.contains q) := by
        funext q
        have hor : (acc ++ [p]).contains q = (acc.contains q || q == p) := by
          rw [Bool.eq_iff_iff]
          simp
        rw [hor, Bool.not_or]
        ac_rfl
      rw [List.filter_cons_of_pos (p := fun q : String => !q.isEmpty && !acc.contains q) hkeep,
        List.eraseDups_cons, List.filter_filter, hadd, hpred, List.append_assoc]
      rfl

theorem foldl_addPath_nil (paths : List String) : paths.foldl addPath [] = distinct paths := by
  rw [foldl_addPath]
  simp [distinct]

theorem nodup_addPath {acc : List String} (h : acc.Nodup) (p : String) : (addPath acc p).Nodup := by
  unfold addPath
  split
  · exact h
  · rename_i hp
    have hnew : p ∉ acc := by
      intro hmem
      simp [hmem] at hp
    exact List.nodup_append.2 ⟨h, List.pairwise_singleton _ p, fun a ha b hb he =>
      hnew (List.mem_singleton.1 hb ▸ he ▸ ha)⟩

theorem nodup_foldl_addPath {acc : List String} (h : acc.Nodup) (paths : List String) :
    (paths.foldl addPath acc).Nodup := by
  induction paths generalizing acc with
  | nil => exact h
  | cons p rest ih => exact ih (nodup_addPath h p)

theorem nodup_distinct (paths : List String) : (distinct paths).Nodup := by
  rw [← foldl_addPath_nil]
  exact nodup_foldl_addPath List.nodup_nil paths

/-- Paths that all are new are added as they are. -/
theorem foldl_addPath_of_nodup {paths acc : List String} (h : (acc ++ paths).Nodup)
    (hne : "" ∉ paths) : paths.foldl addPath acc = acc ++ paths := by
  induction paths generalizing acc with
  | nil => exact (List.append_nil acc).symm
  | cons p rest ih =>
    have hp : p ∉ acc := by
      intro hmem
      exact (List.nodup_append.1 h).2.2 p hmem p List.mem_cons_self rfl
    have hempty : p ≠ "" := fun he => hne (he ▸ List.mem_cons_self)
    have hadd : addPath acc p = acc ++ [p] := by simp [addPath, hp, hempty]
    rw [List.foldl_cons, hadd, ih (by rwa [List.append_assoc]) fun hmem =>
      hne (List.mem_cons_of_mem p hmem), List.append_assoc]
    rfl

/-- It does not matter whether the paths in front are distinct already. -/
theorem distinct_distinct_append (before more : List String) :
    distinct (distinct before ++ more) = distinct (before ++ more) := by
  have hne : "" ∉ distinct before := fun hmem => (mem_distinct.1 hmem).2 rfl
  have hself : (distinct before).foldl addPath [] = distinct before :=
    foldl_addPath_of_nodup (nodup_distinct before) hne
  calc distinct (distinct before ++ more)
      = more.foldl addPath ((distinct before).foldl addPath []) := by
        rw [← foldl_addPath_nil, List.foldl_append]
    _ = more.foldl addPath (before.foldl addPath []) := by rw [hself, foldl_addPath_nil]
    _ = distinct (before ++ more) := by rw [← List.foldl_append, foldl_addPath_nil]

theorem distinct_prefix_append (before more : List String) :
    distinct before <+: distinct (before ++ more) := by
  rw [← foldl_addPath_nil, ← foldl_addPath_nil, List.foldl_append, foldl_addPath more]
  exact List.prefix_append _ _

theorem distinct_usualImportPaths : distinct usualImportPaths = usualImportPaths := by
  decide

theorem mergeImportPaths_eq (groups : List (List String)) :
    mergeImportPaths groups = distinct (usualImportPaths ++ groups.flatten) := by
  unfold mergeImportPaths
  rw [foldl_addPath_nil, List.flatten_cons]

example : mergeImportPaths [["a", "", "."], ["b", "a"]] = [".", "a", "b"] := by decide

/-- Paths that are there already are not added again. -/
theorem foldl_addPath_of_mem {paths acc : List String} (h : ∀ p ∈ paths, p = "" ∨ p ∈ acc) :
    paths.foldl addPath acc = acc := by
  induction paths with
  | nil => rfl
  | cons p rest ih =>
    obtain ⟨hp, hrest⟩ := List.forall_mem_cons.1 h
    have hadd : addPath acc p = acc := by
      unfold addPath
      rcases hp with rfl | hp
      · rfl
      · simp [hp]
    rw [List.foldl_cons, hadd, ih hrest]

theorem distinct_append_append_self (before more : List String) :
    distinct (before ++ (before ++ more)) = distinct (before ++ more) := by
  have hmem : ∀ p ∈ before, p = "" ∨ p ∈ distinct before := by
    intro p hp
    by_cases he : p = ""
    · exact .inl he
    · exact .inr (mem_distinct.2 ⟨hp, he⟩)
  simp only [← foldl_addPath_nil, List.foldl_append]
  rw [foldl_addPath_nil before, foldl_addPath_of_mem hmem]

/-- Paths are merged with those that are there, which begin with the usual ones: it is as if all
were merged at once. -/
theorem mergeImportPaths_distinct (before more : List String) :
    mergeImportPaths [distinct (usualImportPaths ++ before), more] =
      distinct (usualImportPaths ++ before ++ more) := by
  obtain ⟨rest, hrest⟩ := distinct_prefix_append usualImportPaths before
  rw [distinct_usualImportPaths] at hrest
  calc mergeImportPaths [distinct (usualImportPaths ++ before), more]
      = distinct (usualImportPaths ++ (usualImportPaths ++ (rest ++ more))) := by
        rw [mergeImportPaths_eq, ← hrest]
        simp
    _ = distinct (distinct (usualImportPaths ++ before) ++ more) := by
        rw [distinct_append_append_self, ← List.append_assoc, hrest]
    _ = distinct (usualImportPaths ++ before ++ more) := distinct_distinct_append _ _

/-! ## Styles -/

theorem Style.named?_eq_some_iff {name : String} {s : Style} :
    Style.named? name = some s ↔ s.name = name := by
  constructor
  · intro h
    unfold Style.named? at h
    have hfound := List.find?_some h
    exact beq_iff_eq.1 hfound
  · rintro rfl
    cases s <;> decide

theorem Style.named?_eq_none_iff {name : String} :
    Style.named? name = none ↔ name ∉ Settings.formats := by
  simp [Style.named?, Settings.formats]

theorem Style.name_mem_formats (s : Style) : s.name ∈ Settings.formats := by
  apply List.mem_map_of_mem
  cases s <;> decide

/-! ## Further settings -/

/-- Whether the output format of settings, if they have one, is there. -/
def Settings.HasStyle (s : Settings) : Prop := ∀ name ∈ s.outputFormat, name ∈ Settings.formats

instance (s : Settings) : Decidable s.HasStyle :=
  inferInstanceAs (Decidable (∀ name ∈ s.outputFormat, name ∈ Settings.formats))

/-- The level that settings give; a text that says nothing gives none. -/
def Settings.level? (s : Settings) : Option String := s.logLevel.filter (!·.isEmpty)

/-- A configuration with further settings, in the style that they come to. -/
def Config.withSettings (c : Config) (s : Settings) (style : Style) : Config where
  importPaths := mergeImportPaths [c.importPaths, s.importPaths]
  logLevel := s.level?.getD c.logLevel
  style := style

/-- What further settings do: their paths are merged, and what they give replaces what was there. An
output format that is not there is refused. -/
theorem Config.updated_cases (c : Config) (s : Settings) :
    (s.HasStyle ∧ ∃ style : Style, style.name = s.outputFormat.getD c.style.name ∧
      c.updated s = .ok (c.withSettings s style)) ∨
    (¬ s.HasStyle ∧ ∃ f, c.updated s = .error f) := by
  cases hf : s.outputFormat with
  | none =>
    refine .inl ⟨fun name hname => ?_, c.style, rfl, ?_⟩
    · rw [hf] at hname
      exact absurd hname (Option.not_mem_none name)
    · unfold Config.updated
      rw [hf]
      rfl
  | some name =>
    have hhas : s.HasStyle ↔ name ∈ Settings.formats := by
      unfold Settings.HasStyle
      rw [hf]
      exact ⟨fun h => h name rfl, fun h n hn => Option.mem_some.1 hn ▸ h⟩
    cases hn : Style.named? name with
    | none =>
      refine .inr ⟨fun h => Style.named?_eq_none_iff.1 hn (hhas.1 h), ?_⟩
      unfold Config.updated
      rw [hf]
      dsimp only
      rw [hn]
      exact ⟨_, rfl⟩
    | some style =>
      have hname : style.name = name := Style.named?_eq_some_iff.1 hn
      refine .inl ⟨hhas.2 (hname ▸ style.name_mem_formats), style, hname, ?_⟩
      unfold Config.updated
      rw [hf]
      dsimp only
      rw [hn]
      rfl

/-! ## Violations -/

section Violations
variable {d : Yaml.Data} {path steps : List Yaml.Step} {items : List Yaml.Data} {v : Violation}

/-- The violation of a text out of a list stands at its key. -/
theorem choiceViolation?_eq_some {key : String} {allowed : List String}
    (h : ((d.get? key).bind (choiceViolation? allowed)).map (fun w => ([Yaml.Step.key key], w)) =
      some (steps, v)) :
    ∃ value, d.get? key = some value ∧ choiceViolation? allowed value = some v ∧
      steps = [.key key] := by
  obtain ⟨w, hw, he⟩ := Option.map_eq_some_iff.1 h
  obtain ⟨value, hvalue, hw⟩ := Option.bind_eq_some_iff.1 hw
  obtain ⟨hsteps, rfl⟩ := Prod.mk.inj he
  exact ⟨value, hvalue, hw, hsteps.symm⟩

/-- The violation of a list is that of one of its items, and stands there. -/
theorem itemViolation?_eq_some (h : itemViolation? path items = some (steps, v)) :
    v ∈ items.filterMap pathViolation? ∧ ∃ i < items.length, steps = path ++ [.index i] := by
  obtain ⟨⟨value, i⟩, hmem, hfound⟩ := List.exists_of_findSome?_eq_some h
  obtain ⟨w, hw, he⟩ := Option.map_eq_some_iff.1 hfound
  obtain ⟨hsteps, rfl⟩ := Prod.mk.inj he
  have hmem := List.mem_reverse.1 hmem
  have hi := List.snd_lt_of_mem_zipIdx hmem
  exact ⟨List.mem_filterMap.2 ⟨value, List.fst_mem_of_mem_zipIdx hmem, hw⟩, i, by simpa using hi,
    hsteps.symm⟩

theorem itemViolation?_eq_none_iff :
    itemViolation? path items = none ↔ items.filterMap pathViolation? = [] := by
  unfold itemViolation?
  rw [List.findSome?_eq_none_iff, List.filterMap_eq_nil_iff]
  constructor
  · intro h value hvalue
    obtain ⟨i, hi⟩ := List.mem_iff_getElem?.1 hvalue
    have hmem := List.mem_reverse.2 (List.mk_mem_zipIdx_iff_getElem?.2 hi)
    exact Option.map_eq_none_iff.1 (h _ hmem)
  · rintro h ⟨value, i⟩ hmem
    have hvalue := List.fst_mem_of_mem_zipIdx (List.mem_reverse.1 hmem)
    exact Option.map_eq_none_iff.2 (h value hvalue)

theorem violation?_of_unknownKeys {pairs : List (Yaml.Data × Yaml.Data)}
    (h : unknownKeys pairs ≠ []) :
    violation? (.mapping pairs) = some ([], .unknownKeys (unknownKeys pairs)) := by
  have hne : (!(unknownKeys pairs).isEmpty) = true := by simpa using h
  exact if_pos hne

/-- A violation is reported when there is one, and only then. -/
theorem violation?_eq_none_iff : violation? d = none ↔ violations d = [] := by
  cases d with
  | mapping pairs =>
    by_cases hknown : unknownKeys pairs = []
    · unfold violation? violations
      dsimp only
      rw [if_neg (by simp [hknown]), if_pos (by simp [hknown]), Option.orElse_eq_or,
        Option.orElse_eq_or, Option.or_eq_none_iff, Option.or_eq_none_iff, Option.map_eq_none_iff,
        Option.map_eq_none_iff, List.nil_append, List.append_eq_nil_iff, List.append_eq_nil_iff,
        Option.toList_eq_nil_iff, Option.toList_eq_nil_iff, and_assoc]
      refine and_congr_right fun _ => and_congr_right fun _ => ?_
      split
      · exact iff_of_true rfl rfl
      · exact itemViolation?_eq_none_iff
      · exact iff_of_false (Option.some_ne_none _) (List.cons_ne_nil _ _)
    · rw [violation?_of_unknownKeys hknown]
      refine iff_of_false (Option.some_ne_none _) fun hnil => ?_
      unfold violations at hnil
      dsimp only at hnil
      rw [if_neg (by simpa using hknown)] at hnil
      exact nomatch hnil
  | _ => exact iff_of_false (Option.some_ne_none _) (List.cons_ne_nil _ _)

/-- The violation that is reported is one of all those that there are. -/
theorem mem_violations_of_violation? (h : violation? d = some (steps, v)) : v ∈ violations d := by
  cases d with
  | mapping pairs =>
    unfold violations
    dsimp only
    simp only [List.mem_append, Option.mem_toList]
    by_cases hknown : unknownKeys pairs = []
    · unfold violation? at h
      dsimp only at h
      rw [if_neg (by simp [hknown]), Option.orElse_eq_or, Option.orElse_eq_or,
        Option.or_eq_some_iff, Option.or_eq_some_iff] at h
      rcases h with hformat | ⟨-, hlevel | ⟨-, hlist⟩⟩
      · obtain ⟨value, hvalue, hv, -⟩ := choiceViolation?_eq_some hformat
        exact .inl (.inl (.inr (Option.bind_eq_some_iff.2 ⟨value, hvalue, hv⟩)))
      · obtain ⟨value, hvalue, hv, -⟩ := choiceViolation?_eq_some hlevel
        exact .inl (.inr (Option.bind_eq_some_iff.2 ⟨value, hvalue, hv⟩))
      · right
        split at hlist
        · exact nomatch hlist
        · exact (itemViolation?_eq_some hlist).1
        · exact List.mem_singleton.2 (congrArg Prod.snd (Option.some.inj hlist)).symm
    · rw [violation?_of_unknownKeys hknown] at h
      cases h
      rw [if_neg (by simpa using hknown)]
      exact .inl (.inl (.inl List.mem_cons_self))
  | _ => exact List.mem_singleton.2 (congrArg Prod.snd (Option.some.inj h)).symm

end Violations

/-! ## Settings of a file -/

theorem exists_of_bind_eq_ok {ε α β : Type} {x : Except ε α} {f : α → Except ε β} {b : β}
    (h : x >>= f = .ok b) : ∃ a, x = .ok a ∧ f a = .ok b := by
  cases x with
  | error e => exact nomatch h
  | ok a => exact ⟨a, rfl, h⟩

/-- A text that the rule for it leaves alone is among those of the list. -/
theorem mem_of_choiceViolation? {allowed : List String} {value : Option Yaml.Data}
    (h : value.bind (choiceViolation? allowed) = none) :
    ∀ name ∈ value.bind text?, name ∈ allowed := by
  intro name hname
  obtain ⟨v, rfl, ht⟩ := Option.bind_eq_some_iff.1 hname
  cases v with
  | text s =>
    obtain rfl : s = name := Option.some.inj ht
    simpa [choiceViolation?] using h
  | _ => exact nomatch ht

/-- Data that breaks no rule breaks neither of those for texts out of a list. -/
theorem choices_of_violation? {pairs : List (Yaml.Data × Yaml.Data)}
    (h : violation? (.mapping pairs) = none) :
    ((Yaml.Data.mapping pairs).get? Settings.outputFormatKey).bind
        (choiceViolation? Settings.formats) = none ∧
      ((Yaml.Data.mapping pairs).get? Settings.logLevelKey).bind
        (choiceViolation? Settings.levels) = none := by
  unfold violation? at h
  dsimp only at h
  split at h
  · exact nomatch h
  · rw [Option.orElse_eq_or, Option.or_eq_none_iff, Option.orElse_eq_or, Option.or_eq_none_iff,
      Option.map_eq_none_iff, Option.map_eq_none_iff] at h
    exact ⟨h.1, h.2.1⟩

/-- Data that breaks no rule has no output format but one of those there are. -/
theorem hasStyle_ofData {d : Yaml.Data} (h : violation? d = none) :
    (Settings.ofData d).HasStyle := by
  cases d with
  | mapping pairs => exact mem_of_choiceViolation? (choices_of_violation? h).1
  | _ => exact nomatch h

/-- Data that breaks no rule has no level but one of those that a document may set. -/
theorem level_mem_of_ofData {d : Yaml.Data} (h : violation? d = none) :
    ∀ name ∈ (Settings.ofData d).logLevel, name ∈ Settings.levels := by
  cases d with
  | mapping pairs => exact mem_of_choiceViolation? (choices_of_violation? h).2
  | _ => exact nomatch h

/-- The settings of a file are those of data that breaks no rule, however its text is read. -/
theorem exists_data_of_settings {path : String} {text : List Char} {s : Settings}
    (h : Config.settings path text = .ok s) :
    ∃ d, violation? d = none ∧ s = Settings.ofData d := by
  unfold Config.settings at h
  dsimp only at h
  split at h
  all_goals
    obtain ⟨d, -, h⟩ := exists_of_bind_eq_ok h
    obtain ⟨places, -, h⟩ := exists_of_bind_eq_ok h
    split at h
    · exact nomatch h
    · split at h
      · exact nomatch h
      · rename_i hv
        exact ⟨d, hv, (Except.ok.inj h).symm⟩

/-- The settings of a file can be used. -/
theorem hasStyle_of_settings {path : String} {text : List Char} {s : Settings}
    (h : Config.settings path text = .ok s) : s.HasStyle := by
  obtain ⟨d, hd, rfl⟩ := exists_data_of_settings h
  exact hasStyle_ofData hd

/-! ## Steps -/

/-- A step of a configuration: with a file, or with settings that are given. -/
inductive Change where
  | file (t : Tree) (path : String)
  | given (s : Settings)

namespace Change

/-- The settings that a step is about: those in the file, or those that are given. -/
def settings : Change → Except Stop Settings
  | .file t path => (Config.readText t (tidied path)).bind (Config.settings (tidied path))
  | .given s => .ok s

/-- What a step makes of a configuration. -/
def apply (c : Config) : Change → Except Stop Config
  | .file t path => c.withFile t path
  | .given s => (c.updated s).mapError .failed

/-- What a step sets: a file that cannot be read, or whose data breaks the rules, sets nothing, and
neither do settings whose output format is not there. -/
def supplied? (x : Change) : Option Settings := x.settings.toOption.filter fun s => s.HasStyle

/-- A file sets what it holds whenever it can be read and its data breaks no rule. -/
theorem supplied?_file (t : Tree) (path : String) :
    (file t path).supplied? = (file t path).settings.toOption := by
  unfold supplied?
  cases hs : (file t path).settings with
  | error e => rfl
  | ok s =>
    obtain ⟨text, -, hs⟩ := exists_of_bind_eq_ok hs
    exact Option.filter_some_pos (decide_eq_true (hasStyle_of_settings hs))

theorem apply_eq (c : Config) (x : Change) :
    x.apply c = x.settings.bind fun s => (c.updated s).mapError .failed := by
  cases x with
  | file t path =>
    dsimp only [apply, settings, Config.withFile]
    cases Config.readText t (tidied path) <;> rfl
  | given s => rfl

/-- What a step does: where it sets nothing it fails, otherwise it gives further settings. -/
theorem apply_cases (c : Config) (x : Change) :
    (∃ s, x.supplied? = some s ∧ ∃ style : Style, style.name = s.outputFormat.getD c.style.name ∧
      x.apply c = .ok (c.withSettings s style)) ∨
    (x.supplied? = none ∧ ∃ e, x.apply c = .error e) := by
  rw [apply_eq]
  unfold supplied?
  cases x.settings with
  | error e => exact .inr ⟨rfl, e, rfl⟩
  | ok s =>
    rcases c.updated_cases s with ⟨hs, style, hname, hc⟩ | ⟨hs, f, hc⟩
    · refine .inl ⟨s, ?_, style, hname, ?_⟩
      · simp [Except.toOption, hs]
      · change (c.updated s).mapError Stop.failed = _
        rw [hc]
        rfl
    · refine .inr ⟨?_, .failed f, ?_⟩
      · simp [Except.toOption, hs]
      · change (c.updated s).mapError Stop.failed = _
        rw [hc]
        rfl

end Change

/-- The configuration behind steps; one that fails leaves it as it was. -/
def after (e : Environment) (changes : List Change) : Config :=
  changes.foldl (fun c x => (x.apply c).toOption.getD c) (Config.ofEnvironment e)

/-! ## What steps keep -/

/-- The import paths of the environment. -/
def Environment.importPaths (e : Environment) : List String :=
  (e.importPath.map Config.splitPaths).getD []

/-- The level of the environment. -/
def Environment.level (e : Environment) : String := e.logLevel.getD Log.Level.warning.name

/-- The last of what settings give; what is usual where none of them gives it. -/
def lastGiven (given? : Settings → Option String) (set : List Settings) (usual : String) : String :=
  (set.filterMap given?).getLast?.getD usual

theorem lastGiven_append_singleton (given? : Settings → Option String) (set : List Settings)
    (s : Settings) (usual : String) :
    lastGiven given? (set ++ [s]) usual = (given? s).getD (lastGiven given? set usual) := by
  unfold lastGiven
  cases hs : given? s with
  | none => simp [hs]
  | some text => simp [hs]

/-- How a configuration depends on the environment and on what was set since: paths add up, of the
other settings the last that was given is in force. -/
structure Follows (e : Environment) (set : List Settings) (c : Config) : Prop where
  importPaths : c.importPaths =
    distinct (usualImportPaths ++ (e.importPaths ++ set.flatMap (·.importPaths)))
  logLevel : c.logLevel = lastGiven Settings.level? set e.level
  style : c.style.name = lastGiven Settings.outputFormat set Style.human.name

namespace Follows

variable {e : Environment} {set : List Settings} {c : Config}

theorem start (e : Environment) : Follows e [] (Config.ofEnvironment e) where
  importPaths := by
    unfold Config.ofEnvironment
    rw [mergeImportPaths_eq]
    rfl
  logLevel := rfl
  style := rfl

/-- What a step keeps. -/
theorem apply (h : Follows e set c) (x : Change) :
    Follows e (set ++ x.supplied?.toList) ((x.apply c).toOption.getD c) := by
  rcases x.apply_cases c with ⟨s, hs, style, hname, hc⟩ | ⟨hs, stop, hc⟩
  · rw [hs, hc]
    refine ⟨?_, ?_, ?_⟩
    · change mergeImportPaths [c.importPaths, s.importPaths] = _
      rw [h.importPaths, mergeImportPaths_distinct]
      simp
    · change s.level?.getD c.logLevel = _
      rw [h.logLevel]
      exact (lastGiven_append_singleton Settings.level? set s e.level).symm
    · change style.name = _
      rw [hname, h.style]
      exact (lastGiven_append_singleton Settings.outputFormat set s Style.human.name).symm
  · rw [hs, hc]
    simpa [Except.toOption] using h

/-- What steps keep. -/
theorem foldl (h : Follows e set c) (changes : List Change) :
    Follows e (set ++ changes.filterMap Change.supplied?)
      (changes.foldl (fun c x => (x.apply c).toOption.getD c) c) := by
  induction changes generalizing set c with
  | nil => simpa using h
  | cons x rest ih =>
    have hrest := ih (h.apply x)
    cases hx : x.supplied? with
    | none => simpa [List.filterMap_cons_none hx, hx] using hrest
    | some s => simpa [List.filterMap_cons_some hx, hx] using hrest

end Follows

end ProtoCheck
