import ProtoCheck.Proofs.Config
import ProtoCheck.Proofs.Path
import ProtoCheck.Proofs.Text.Decoding
import ProtoCheck.Proofs.Run

/-!
# Configuration files that cannot be used

A configuration file gives settings, or it is refused with a failure, or reading it breaks down.

* `Yaml.Endless` : a document that contains itself;
* `Config.Holds` : the text that a file holds;
* `Config.Refused` : the failures of a file, `Config.Uncovered` : the breakdowns, which no failure
  covers;
* `Config.withFile_eq_failed_iff`, `Config.withFile_eq_broken_iff` : these are all of them;
* `Config.settings_eq_ok_iff` : the documents that give settings;
* `Host.run_of_unusable` : what a run makes of a file that it cannot use.
-/

namespace ProtoCheck

namespace Yaml

/-- The document of a text contains itself, keys left aside. -/
def Endless (text : List Char) : Prop :=
  ∃ root, Node.ofText? text = .ok (some root) ∧ root.isEndless = true

theorem sourceMap?_of_endless {text : List Char} (h : Endless text) :
    sourceMap? text = .error .endlessDocument := by
  obtain ⟨root, hroot, hend⟩ := h
  unfold sourceMap?
  rw [hroot]
  exact if_pos hend

theorem exists_sourceMap? {text : List Char} {d : Data} (hd : Data.ofText? text = .ok d)
    (h : ¬ Endless text) : ∃ places, sourceMap? text = .ok places := by
  unfold sourceMap?
  unfold Data.ofText? at hd
  cases hn : Node.ofText? text with
  | error p =>
    rw [hn] at hd
    exact nomatch hd
  | ok root =>
    cases root with
    | none => exact ⟨[], rfl⟩
    | some root => exact ⟨root.sourceMap, if_neg fun hend => h ⟨root, hn, hend⟩⟩

end Yaml

namespace Config

/-- The data that settings are taken from. A document without contents sets nothing. -/
def contents : Yaml.Data → Yaml.Data
  | .null => .mapping []
  | d => d

/-- The violations of data can be put in words, all of them. -/
def Shown (d : Yaml.Data) : Prop := ∀ v ∈ violations (contents d), v.isShowable = true

instance (d : Yaml.Data) : Decidable (Shown d) :=
  inferInstanceAs (Decidable (∀ v ∈ violations (contents d), v.isShowable = true))

/-- The bytes of a file encode a text, ends of lines aside. -/
def Holds (t : Tree) (path : String) (text : List Char) : Prop :=
  '\x00' ∉ path.toList ∧
    ∃ cs, t.read (tidied path) = .ok (Utf8.encode cs) ∧ Text.unifyBreaks cs = text

/-- The failures of a configuration file. -/
inductive Refused (t : Tree) (path : String) : Failure → Prop
  | unread {e : OsError} : '\x00' ∉ path.toList → t.read (tidied path) = .error e →
      Refused t path (unreadable (tidied path) e)
  | malformed {text : List Char} {e : Yaml.YamlError} : Holds t path text →
      Yaml.Data.ofText? text = .error (.error e) →
      Refused t path (malformed (tidied path) text e)
  | invalid {text : List Char} {d : Yaml.Data} {places : SourceMap} {steps : List Yaml.Step}
      {v : Violation} : Holds t path text → Yaml.Data.ofText? text = .ok d →
      Yaml.sourceMap? text = .ok places → Shown d → violation? (contents d) = some (steps, v) →
      Refused t path (invalid (tidied path) places steps v)

/-- The breakdowns of reading a configuration file: a path that is none, bytes that encode no text,
data that cannot be made of its document, a document that contains itself, and violations that
cannot be put in words. -/
inductive Uncovered (t : Tree) (path : String) : Breakdown → Prop
  | nul : '\x00' ∈ path.toList → Uncovered t path .nulInPath
  | notUtf8 {bytes : Bytes} : '\x00' ∉ path.toList → t.read (tidied path) = .ok bytes →
      (∀ text, bytes ≠ Utf8.encode text) → Uncovered t path .configNotUtf8
  | unmade {text : List Char} {b : Breakdown} : Holds t path text →
      Yaml.Data.ofText? text = .error (.breakdown b) → Uncovered t path b
  | endless {text : List Char} {d : Yaml.Data} : Holds t path text →
      Yaml.Data.ofText? text = .ok d → Yaml.Endless text → Uncovered t path .endlessDocument
  | unshown {text : List Char} {d : Yaml.Data} {places : SourceMap} : Holds t path text →
      Yaml.Data.ofText? text = .ok d → Yaml.sourceMap? text = .ok places → ¬ Shown d →
      Uncovered t path .numeralTooLong

/-! ## Texts of files -/

section Text
variable {t : Tree} {path : String}

theorem contains_nul_tidied (path : String) :
    (tidied path).contains '\x00' = true ↔ '\x00' ∈ path.toList := by
  rw [← mem_tidied (by decide) (by decide) path]
  simp

theorem readText_of_nul (h : '\x00' ∈ path.toList) :
    readText t (tidied path) = .error (.broken .nulInPath) :=
  if_pos ((contains_nul_tidied path).2 h)

theorem readText_of_not_nul (h : '\x00' ∉ path.toList) :
    readText t (tidied path) =
      match t.read (tidied path) with
      | .error e => .error (.failed (unreadable (tidied path) e))
      | .ok bytes =>
        match Utf8.decode? bytes with
        | .error _ => .error (.broken .configNotUtf8)
        | .ok text => .ok (Text.unifyBreaks text) :=
  if_neg (mt (contains_nul_tidied path).1 h)

theorem Holds.readText_eq {text : List Char} (h : Holds t path text) :
    readText t (tidied path) = .ok text := by
  obtain ⟨hnul, cs, hread, rfl⟩ := h
  rw [readText_of_not_nul hnul, hread]
  dsimp only
  rw [Utf8.decode?_eq_ok_iff.2 rfl]

theorem readText_of_notUtf8 {bytes : Bytes} (hnul : '\x00' ∉ path.toList)
    (hread : t.read (tidied path) = .ok bytes) (h : ∀ text, bytes ≠ Utf8.encode text) :
    readText t (tidied path) = .error (.broken .configNotUtf8) := by
  rw [readText_of_not_nul hnul, hread]
  dsimp only
  cases hd : Utf8.decode? bytes with
  | error e => rfl
  | ok text => exact absurd (Utf8.decode?_eq_ok_iff.1 hd) (h text)

theorem readText_cases (t : Tree) (path : String) :
    (∃ text, Holds t path text) ∨ (∃ f, Refused t path f) ∨ ∃ b, Uncovered t path b := by
  by_cases hnul : '\x00' ∈ path.toList
  · exact .inr (.inr ⟨_, .nul hnul⟩)
  · cases hread : t.read (tidied path) with
    | error e => exact .inr (.inl ⟨_, .unread hnul hread⟩)
    | ok bytes =>
      by_cases hb : ∃ text, bytes = Utf8.encode text
      · obtain ⟨text, rfl⟩ := hb
        exact .inl ⟨_, hnul, text, hread, rfl⟩
      · exact .inr (.inr ⟨_, .notUtf8 hnul hread fun text he => hb ⟨text, he⟩⟩)

end Text

/-! ## Settings of texts -/

section Settings
variable {path : String} {text : List Char}

theorem settings_of_malformed {e : Yaml.YamlError}
    (h : Yaml.Data.ofText? text = .error (.error e)) :
    settings path text = .error (.failed (malformed path text e)) := by
  unfold settings
  rw [h]
  rfl

theorem settings_of_unmade {b : Breakdown} (h : Yaml.Data.ofText? text = .error (.breakdown b)) :
    settings path text = .error (.broken b) := by
  unfold settings
  rw [h]
  rfl

theorem settings_of_endless {d : Yaml.Data} (h : Yaml.Data.ofText? text = .ok d)
    (hend : Yaml.Endless text) : settings path text = .error (.broken .endlessDocument) := by
  unfold settings
  rw [h, Yaml.sourceMap?_of_endless hend]
  cases d <;> rfl

section Data
variable {d : Yaml.Data} {places : SourceMap} (h : Yaml.Data.ofText? text = .ok d)
  (hplaces : Yaml.sourceMap? text = .ok places)
include h hplaces

theorem settings_of_data : settings path text =
    if !(violations (contents d)).all Violation.isShowable then .error (.broken .numeralTooLong)
    else
      match violation? (contents d) with
      | some (steps, v) => .error (.failed (invalid path places steps v))
      | none => .ok (Settings.ofData (contents d)) := by
  unfold settings
  rw [h, hplaces]
  cases d <;> simp only [contents, bind, Except.bind, Except.mapError] <;> rfl

theorem settings_of_shown (hshown : Shown d) : settings path text =
    match violation? (contents d) with
    | some (steps, v) => .error (.failed (invalid path places steps v))
    | none => .ok (Settings.ofData (contents d)) := by
  have hall : (violations (contents d)).all Violation.isShowable = true := List.all_eq_true.2 hshown
  rw [settings_of_data h hplaces, hall]
  exact if_neg Bool.false_ne_true

theorem settings_of_not_shown (hshown : ¬ Shown d) :
    settings path text = .error (.broken .numeralTooLong) := by
  have hall : (violations (contents d)).all Violation.isShowable = false :=
    Bool.eq_false_iff.2 fun hall => hshown (List.all_eq_true.1 hall)
  rw [settings_of_data h hplaces, hall]
  exact if_pos rfl

/-- A document gives settings when its data has no violation, and only then. -/
theorem settings_eq_ok_iff {s : Settings} : settings path text = .ok s ↔
    violations (contents d) = [] ∧ Settings.ofData (contents d) = s := by
  by_cases hshown : Shown d
  · rw [settings_of_shown h hplaces hshown, ← violation?_eq_none_iff]
    cases hv : violation? (contents d) with
    | none => exact ⟨fun he => ⟨rfl, Except.ok.inj he⟩, fun he => congrArg Except.ok he.2⟩
    | some found => exact iff_of_false (nomatch ·) fun he => Option.some_ne_none found he.1
  · rw [settings_of_not_shown h hplaces hshown]
    refine iff_of_false (nomatch ·) fun he => hshown fun v hv => ?_
    rw [he.1] at hv
    exact absurd hv List.not_mem_nil

end Data

end Settings

/-! ## Files -/

section File
variable {t : Tree} {path : String}

/-- The settings of a file: what a change of the settings with it sets. -/
theorem settings_file_of_holds {text : List Char} (h : Holds t path text) :
    (Change.file t path).settings = settings (tidied path) text := by
  unfold Change.settings
  dsimp only
  rw [h.readText_eq]
  rfl

theorem Refused.settings_eq {f : Failure} (h : Refused t path f) :
    (Change.file t path).settings = .error (.failed f) := by
  cases h with
  | unread hnul hread =>
    unfold Change.settings
    dsimp only
    rw [readText_of_not_nul hnul, hread]
    rfl
  | malformed htext he => rw [settings_file_of_holds htext, settings_of_malformed he]
  | invalid htext hd hplaces hshown hv =>
    rw [settings_file_of_holds htext, settings_of_shown hd hplaces hshown, hv]

theorem Uncovered.settings_eq {b : Breakdown} (h : Uncovered t path b) :
    (Change.file t path).settings = .error (.broken b) := by
  cases h with
  | nul hnul =>
    unfold Change.settings
    dsimp only
    rw [readText_of_nul hnul]
    rfl
  | notUtf8 hnul hread hbytes =>
    unfold Change.settings
    dsimp only
    rw [readText_of_notUtf8 hnul hread hbytes]
    rfl
  | unmade htext hb => rw [settings_file_of_holds htext, settings_of_unmade hb]
  | endless htext hd hend => rw [settings_file_of_holds htext, settings_of_endless hd hend]
  | unshown htext hd hplaces hshown =>
    rw [settings_file_of_holds htext, settings_of_not_shown hd hplaces hshown]

/-- A file is refused, or reading it breaks down, or it gives settings. -/
theorem settings_file_cases (t : Tree) (path : String) :
    (∃ s, (Change.file t path).settings = .ok s) ∨ (∃ f, Refused t path f) ∨
      ∃ b, Uncovered t path b := by
  rcases readText_cases t path with ⟨text, htext⟩ | hf | hb
  · cases hd : Yaml.Data.ofText? text with
    | error p =>
      cases p with
      | error e => exact .inr (.inl ⟨_, .malformed htext hd⟩)
      | breakdown b => exact .inr (.inr ⟨b, .unmade htext hd⟩)
    | ok d =>
      by_cases hend : Yaml.Endless text
      · exact .inr (.inr ⟨_, .endless htext hd hend⟩)
      · obtain ⟨places, hplaces⟩ := Yaml.exists_sourceMap? hd hend
        by_cases hshown : Shown d
        · cases hv : violation? (contents d) with
          | some x => exact .inr (.inl ⟨_, .invalid htext hd hplaces hshown hv⟩)
          | none =>
            refine .inl ⟨Settings.ofData (contents d), ?_⟩
            rw [settings_file_of_holds htext, settings_of_shown hd hplaces hshown, hv]
        · exact .inr (.inr ⟨_, .unshown htext hd hplaces hshown⟩)
  · exact .inr (.inl hf)
  · exact .inr (.inr hb)

theorem Refused.withFile_eq {f : Failure} (h : Refused t path f) (c : Config) :
    c.withFile t path = .error (.failed f) := by
  have happly := Change.apply_eq c (.file t path)
  rw [h.settings_eq] at happly
  exact happly

theorem Uncovered.withFile_eq {b : Breakdown} (h : Uncovered t path b) (c : Config) :
    c.withFile t path = .error (.broken b) := by
  have happly := Change.apply_eq c (.file t path)
  rw [h.settings_eq] at happly
  exact happly

/-- Settings of a file can always be put in force. -/
theorem withFile_cases (c : Config) (t : Tree) (path : String) :
    (∃ c', c.withFile t path = .ok c') ∨ (∃ f, Refused t path f) ∨ ∃ b, Uncovered t path b := by
  rcases settings_file_cases t path with ⟨s, hs⟩ | h
  · rcases Change.apply_cases c (.file t path) with ⟨_, -, _, -, hc⟩ | ⟨hnone, -⟩
    · exact .inl ⟨_, hc⟩
    · rw [Change.supplied?_file, hs] at hnone
      exact nomatch hnone
  · exact .inr h

theorem withFile_eq_failed_iff (c : Config) {f : Failure} :
    c.withFile t path = .error (.failed f) ↔ Refused t path f := by
  refine ⟨fun h => ?_, fun h => h.withFile_eq c⟩
  rcases withFile_cases c t path with ⟨_, hc⟩ | ⟨g, hg⟩ | ⟨b, hb⟩
  · exact nomatch h.symm.trans hc
  · have he := h.symm.trans (hg.withFile_eq c)
    cases he
    exact hg
  · exact nomatch h.symm.trans (hb.withFile_eq c)

theorem withFile_eq_broken_iff (c : Config) {b : Breakdown} :
    c.withFile t path = .error (.broken b) ↔ Uncovered t path b := by
  refine ⟨fun h => ?_, fun h => h.withFile_eq c⟩
  rcases withFile_cases c t path with ⟨_, hc⟩ | ⟨f, hf⟩ | ⟨b', hb⟩
  · exact nomatch h.symm.trans hc
  · exact nomatch h.symm.trans (hf.withFile_eq c)
  · have he := h.symm.trans (hb.withFile_eq c)
    cases he
    exact hb

theorem Refused.kind_eq {f : Failure} (h : Refused t path f) : f.kind = .configuration := by
  cases h <;> rfl

end File

end Config

namespace Host

/-! ## Runs -/

section Run
variable {h : Host} {args : List String} {o : Options} {path : String}

/-- The settings of a run with a file are those of the environment, of the file and of the command
line. -/
theorem settle_eq (hfile : o.config = some path) (hne : path ≠ "") :
    h.settle o = ((Config.ofEnvironment h.environment).withFile h.tree path).bind fun c =>
      (c.updated ⟨o.importPaths, none, o.format⟩).mapError .failed := by
  have hnamed : o.config.filter (!·.isEmpty) = some path := by simp [hfile, hne]
  unfold settle
  rw [hnamed]
  rfl

theorem run_of_refused {f : Failure} (hasked : Request.ofArguments args = .run o)
    (hfile : o.config = some path) (hne : path ≠ "") (hf : Config.Refused h.tree path f) :
    h.run args = ⟨.exit 1, ⟨"", unusable h.environment f⟩, 0⟩ := by
  have hsettle : h.settle o = .error (.failed f) := by
    rw [settle_eq hfile hne, hf.withFile_eq]
    rfl
  unfold run
  rw [hasked]
  dsimp only
  unfold runOptions
  rw [hsettle]

theorem run_of_uncovered {b : Breakdown} (hasked : Request.ofArguments args = .run o)
    (hfile : o.config = some path) (hne : path ≠ "") (hb : Config.Uncovered h.tree path b) :
    h.run args = ⟨.broken b, {}, 0⟩ := by
  have hsettle : h.settle o = .error (.broken b) := by
    rw [settle_eq hfile hne, hb.withFile_eq]
    rfl
  unfold run
  rw [hasked]
  dsimp only
  unfold runOptions
  rw [hsettle]

end Run

/-- **What becomes of a configuration file.** It is refused, with a failure of the configuration, or
reading it breaks down, exactly in the listed ways; otherwise its settings come into force. A run
with a file that is refused says so and exits with one. When reading breaks down, so does the run,
and says nothing. -/
theorem answers_file (c : Config) (t : Tree) (path : String) :
    ((∃ c', c.withFile t path = .ok c') ∨ (∃ f, c.withFile t path = .error (.failed f)) ↔
      ¬ ∃ b, Config.Uncovered t path b) ∧
    (∀ b, c.withFile t path = .error (.broken b) ↔ Config.Uncovered t path b) ∧
    (∀ f, c.withFile t path = .error (.failed f) ↔ Config.Refused t path f) ∧
    (∀ f, Config.Refused t path f → f.kind = .configuration ∧ f.stage = .config) ∧
    ∀ (h : Host) args o, h.tree = t → Request.ofArguments args = .run o → o.config = some path →
      path ≠ "" →
      (∀ f, Config.Refused t path f → h.run args = ⟨.exit 1, ⟨"", "Invalid configuration: " ++
        f.message ++ Location.describe h.environment.sourceRoot f.location ++ "\n"⟩, 0⟩) ∧
      ∀ b, Config.Uncovered t path b → h.run args = ⟨.broken b, {}, 0⟩ := by
  refine ⟨?_, fun b => Config.withFile_eq_broken_iff c, fun f => Config.withFile_eq_failed_iff c,
    fun f hf => ⟨hf.kind_eq, congrArg FailureKind.stage hf.kind_eq⟩, ?_⟩
  · constructor
    · rintro (⟨c', hc⟩ | ⟨f, hc⟩) ⟨b, hb⟩
      · exact nomatch hc.symm.trans (hb.withFile_eq c)
      · exact nomatch hc.symm.trans (hb.withFile_eq c)
    · intro hnone
      rcases Config.withFile_cases c t path with hc | ⟨f, hf⟩ | hb
      · exact .inl hc
      · exact .inr ⟨f, hf.withFile_eq c⟩
      · exact absurd hb hnone
  · rintro h args o rfl hasked hfile hne
    exact ⟨fun f hf => run_of_refused hasked hfile hne hf,
      fun b hb => run_of_uncovered hasked hfile hne hb⟩

/-! ## Files for which it breaks down -/

/-- A configuration file is named. -/
def fileArguments : List String := ["--config", "c.yaml", "m.textproto"]

/-- The options that these arguments stand for. -/
def fileOptions : Options := { files := ["m.textproto"], config := some "c.yaml" }

theorem asked_fileArguments : Request.ofArguments fileArguments = .run fileOptions := by
  decide

/-- The failure of a configuration file that is not there. -/
def missing : Failure := Config.unreadable "c.yaml" .noEntry

theorem run_missing_file : bare.run fileArguments =
    ⟨.exit 1, ⟨"", "Invalid configuration: Failed to read configuration file c.yaml: " ++
      "No such file or directory (source= c.yaml)\n"⟩, 0⟩ := by
  have htidy : tidied "c.yaml" = "c.yaml" := by decide
  have hf : Config.Refused bare.tree "c.yaml" missing := by
    have hunread : Config.Refused bare.tree "c.yaml"
        (Config.unreadable (tidied "c.yaml") .noEntry) :=
      .unread (by decide) (by decide)
    rwa [htidy] at hunread
  have hshown : "Invalid configuration: " ++ missing.message ++
      Location.describe bare.environment.sourceRoot missing.location ++ "\n" =
        "Invalid configuration: Failed to read configuration file c.yaml: " ++
          "No such file or directory (source= c.yaml)\n" := by
    decide
  obtain ⟨-, -, -, -, hrun⟩ := answers_file {} bare.tree "c.yaml"
  rw [(hrun bare fileArguments fileOptions rfl asked_fileArguments rfl (by decide)).1 _ hf, hshown]

/-- A disk with a configuration file. -/
def withContent (content : Bytes) : Host :=
  { bare with tree := .ofLists [] [("c.yaml", content)] [] }

/-- A byte that begins no character. -/
def stray : Bytes := [0xFF]

theorem stray_ne_encode (text : List Char) : stray ≠ Utf8.encode text := by
  intro he
  have hdecode := Utf8.decode?_eq_ok_iff.2 he
  unfold Utf8.decode? stray at hdecode
  rw [Utf8.scan_cons] at hdecode
  exact nomatch hdecode

/-- A list that contains itself. -/
def coil : String := "import_paths: &a [*a]"

theorem endless_coil : Yaml.Endless coil.toList := by
  have hroot : ((Yaml.Node.ofText? coil.toList).toOption.join.map Yaml.Node.isEndless) =
      some true := by
    decide +kernel
  unfold Yaml.Endless
  revert hroot
  cases hn : Yaml.Node.ofText? coil.toList with
  | error e => exact fun h => nomatch h
  | ok root =>
    cases root with
    | none => exact fun h => nomatch h
    | some root => exact fun h => ⟨root, rfl, Option.some.inj h⟩

theorem exists_data_coil : ∃ d, Yaml.Data.ofText? coil.toList = .ok d := by
  have hdata : (Yaml.Data.ofText? coil.toList).toOption.isSome = true := by decide +kernel
  cases hd : Yaml.Data.ofText? coil.toList with
  | error p =>
    rw [hd] at hdata
    exact nomatch hdata
  | ok d => exact ⟨d, rfl⟩

/-- Neither a file that encodes no text nor one that contains itself is refused: a run with it
breaks down. -/
theorem run_uncovered_files :
    (∀ c : Config, c.withFile (withContent stray).tree "c.yaml" =
      .error (.broken .configNotUtf8)) ∧
    (∀ c : Config, c.withFile (withContent (Utf8.encodeString coil)).tree "c.yaml" =
      .error (.broken .endlessDocument)) ∧
    (withContent stray).run fileArguments = ⟨.broken .configNotUtf8, {}, 0⟩ ∧
    (withContent (Utf8.encodeString coil)).run fileArguments =
      ⟨.broken .endlessDocument, {}, 0⟩ := by
  have hnul : '\x00' ∉ "c.yaml".toList := by decide
  have hstray : Config.Uncovered (withContent stray).tree "c.yaml" .configNotUtf8 :=
    .notUtf8 hnul (by decide) stray_ne_encode
  have hholds : Config.Holds (withContent (Utf8.encodeString coil)).tree "c.yaml" coil.toList :=
    ⟨hnul, coil.toList, by rfl, by rfl⟩
  obtain ⟨d, hd⟩ := exists_data_coil
  have hcoil : Config.Uncovered (withContent (Utf8.encodeString coil)).tree "c.yaml"
      .endlessDocument := .endless hholds hd endless_coil
  exact ⟨hstray.withFile_eq, hcoil.withFile_eq,
    run_of_uncovered asked_fileArguments rfl (by decide) hstray,
    run_of_uncovered asked_fileArguments rfl (by decide) hcoil⟩

end Host

end ProtoCheck
