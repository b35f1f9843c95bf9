import ProtoCheck.Proofs.Schema.Diagnostic
import ProtoCheck.Proofs.Text.Breaks
import ProtoCheck.Proofs.Text.Digit

/-!
# Diagnostics and the lines that report them

A diagnostic is written in one of three shapes, and which of them a line has is told by what stands
behind its first colon. So a line is read as the diagnostic that it was written for, as far as the
diagnostic can be written at all; and a line that is read is written again as it was, unless its
file or one of its numbers has another form than the one that is written.

* `WellFormed`, `WellFormed.ofLine?_text` : the diagnostics that are read from their lines;
* `Canonical`, `text_of_ofLine?` : the lines that are written for their diagnostics;
* `reportLines_intercalate` : the lines of joined texts;
* `parse_inverse_text` : reading and writing, either way round.
-/

namespace ProtoCheck.Diagnostic

open Text

/-! ## Writing -/

section text

variable (file message : String) (severity : Severity)

theorem toList_text_located (line column : Nat) :
    (text ⟨message, { file := some file, line := some line, column := some column },
      severity⟩).toList =
      file.toList ++ ':' :: (Nat.toDigits 10 line ++ ':' ::
        (Nat.toDigits 10 column ++ ':' :: ' ' :: message.toList)) := by
  have hline : toString (line : Int) = line.repr := rfl
  have hcolumn : toString (column : Int) = column.repr := rfl
  simp only [text, hline, hcolumn, Option.getD_some, String.toList_append, Nat.toList_repr,
    List.append_assoc]
  rfl

theorem toList_text_inFile :
    (text ⟨message, { file := some file }, severity⟩).toList =
      file.toList ++ ':' :: ' ' :: message.toList := by
  simp only [text, String.toList_append, List.append_assoc]
  rfl

end text

/-! ## Diagnostics that are read back -/

/-- A message on one line, which white space does not end. -/
structure IsMessage (message : String) : Prop where
  ne_empty : message ≠ ""
  noBreak : ∀ c ∈ message.toList, isBreak c = false
  last : ∀ c ∈ message.toList.getLast?, isBlank c = false

theorem any_eq_false_iff {p : Char → Bool} {s : List Char} :
    s.any p = false ↔ ∀ c ∈ s, p c = false := by
  simp only [List.any_eq_false, Bool.not_eq_true]

instance (message : String) : Decidable (IsMessage message) :=
  decidable_of_iff (message ≠ "" ∧ message.toList.any isBreak = false ∧
      message.toList.getLast?.any isBlank = false)
    ⟨fun h => ⟨h.1, any_eq_false_iff.1 h.2.1, (Option.any_eq_false _ _).1 h.2.2⟩,
      fun h => ⟨h.ne_empty, any_eq_false_iff.2 h.noBreak, (Option.any_eq_false _ _).2 h.last⟩⟩

/-- A path in its shown form, on one line and without colons, which white space does not begin. -/
structure IsFile (file : String) : Prop where
  ne_empty : file ≠ ""
  tidy : tidied file = file
  noColon : ':' ∉ file.toList
  noBreak : ∀ c ∈ file.toList, isBreak c = false
  first : ∀ c ∈ file.toList.head?, isBlank c = false

instance (file : String) : Decidable (IsFile file) :=
  decidable_of_iff (file ≠ "" ∧ tidied file = file ∧ ':' ∉ file.toList ∧
      file.toList.any isBreak = false ∧ file.toList.head?.any isBlank = false)
    ⟨fun h => ⟨h.1, h.2.1, h.2.2.1, any_eq_false_iff.1 h.2.2.2.1,
        (Option.any_eq_false _ _).1 h.2.2.2.2⟩,
      fun h => ⟨h.ne_empty, h.tidy, h.noColon, any_eq_false_iff.2 h.noBreak,
        (Option.any_eq_false _ _).2 h.first⟩⟩

/-- A diagnostic in one of the three shapes, with the severity that its message has there. -/
inductive WellFormed : Diagnostic → Prop where
  | located {file message : String} {line column : Nat} (hf : IsFile file)
    (hl : (toString line).length ≤ maxDigits) (hc : (toString column).length ≤ maxDigits)
    (hm : IsMessage message) :
    WellFormed ⟨message, { file := some file, line := some line, column := some column },
      severityOf message.toList⟩
  | inFile {file message : String} (hf : IsFile file)
    (hwarning : lower file.toList ≠ "warning".toList)
    (herror : lower file.toList ≠ "error".toList) (hm : IsMessage message) :
    WellFormed ⟨message, { file := some file }, severityOf message.toList⟩
  | plain {message : String} (hm : IsMessage message)
    (hfirst : ∀ c ∈ message.toList.head?, isBlank c = false)
    (hlocated : ∀ file line column text, ¬ Located message.toList file line column text)
    (hinFile : ∀ file text, ¬ InFile message.toList file text) :
    WellFormed ⟨message, {}, plainSeverity message.toList⟩

theorem isDecimal_toDigits (n : Nat) :
    Nat.toDigits 10 n ≠ [] ∧ ∀ c ∈ Nat.toDigits 10 n, isDecimal c = true := by
  refine ⟨Nat.toDigits_ne_nil, fun c hc => ?_⟩
  rw [isDecimal, decimal?_of_isAsciiDigit (isAsciiDigit_of_mem_toDigits hc)]
  rfl

theorem count?_toDigits {n : Nat} (h : (Nat.toDigits 10 n).length ≤ maxDigits) :
    count? (Nat.toDigits 10 n) = some (n : Int) := by
  rw [count?, if_neg (Nat.not_lt.2 h), number?_toDigits]
  rfl

theorem length_toString (n : Nat) : (toString n).length = (Nat.toDigits 10 n).length := by
  rw [← Nat.toList_repr, String.length_toList]
  rfl

theorem IsMessage.toList_ne_nil {message : String} (h : IsMessage message) :
    message.toList ≠ [] :=
  fun he => h.ne_empty (String.toList_eq_nil_iff.1 he)

theorem IsFile.toList_ne_nil {file : String} (h : IsFile file) : file.toList ≠ [] :=
  fun he => h.ne_empty (String.toList_eq_nil_iff.1 he)

theorem WellFormed.ofLine?_text {d : Diagnostic} (h : WellFormed d) :
    ofLine? d.text.toList = some d := by
  cases h with
  | @located file message line column hf hl hc hm =>
    rw [length_toString] at hl hc
    have hshape : Located _ file.toList (Nat.toDigits 10 line) (Nat.toDigits 10 column)
        message.toList :=
      ⟨hf.toList_ne_nil, hf.noColon, isDecimal_toDigits line, isDecimal_toDigits column,
        toList_text_located file message (severityOf message.toList) line column⟩
    rw [ofLine?, located?_eq_some_iff.2 hshape]
    simp only [count?_toDigits hl, count?_toDigits hc, String.ofList_toList, hf.tidy]
    rfl
  | @inFile file message hf hwarning herror hm =>
    have hshape : InFile _ file.toList message.toList :=
      ⟨hf.toList_ne_nil, hf.noColon, hwarning, herror,
        toList_text_inFile file message (severityOf message.toList)⟩
    rw [ofLine?, hshape.not_located, inFile?_eq_some_iff.2 hshape]
    simp only [String.ofList_toList, hf.tidy]
  | @plain message hm hfirst hlocated hinFile =>
    show ofLine? message.toList = _
    rw [ofLine?, located?_eq_none_iff.2 hlocated, inFile?_eq_none_iff.2 hinFile]
    simp only [String.ofList_toList]

/-! ## Lines of a report -/

/-- A line without boundaries in it, which white space neither begins nor ends. -/
structure IsReportLine (s : List Char) : Prop where
  ne_nil : s ≠ []
  noBreak : ∀ c ∈ s, isBreak c = false
  first : ∀ c ∈ s.head?, isBlank c = false
  last : ∀ c ∈ s.getLast?, isBlank c = false

theorem reportLines_intercalate {l : List String} (h : ∀ s ∈ l, IsReportLine s.toList) :
    reportLines ("\n".intercalate l) = l.map String.toList := by
  have hlines : ∀ s ∈ l.map String.toList, IsReportLine s := List.forall_mem_map.2 h
  have htrim : (l.map String.toList).map trim = l.map String.toList :=
    (List.map_congr_left fun s hs => trim_of_edges (hlines s hs).first (hlines s hs).last).trans
      (List.map_id _)
  have hfeed : "\n".toList = ['\n'] := rfl
  rw [reportLines, String.toList_intercalate, hfeed,
    splitLines_intercalate (fun s hs => (hlines s hs).ne_nil) fun s hs => (hlines s hs).noBreak,
    htrim, List.filter_eq_self]
  intro s hs
  rw [List.isEmpty_eq_false_iff.2 (hlines s hs).ne_nil]
  rfl

/-- A file in front of a message, with what stands between them on one line, is one line. -/
theorem IsFile.isReportLine {file message : String} (hf : IsFile file) (hm : IsMessage message)
    {between : List Char} (hb : ∀ c ∈ between, isBreak c = false) :
    IsReportLine (file.toList ++ (between ++ message.toList)) := by
  refine ⟨List.append_ne_nil_of_left_ne_nil hf.toList_ne_nil _, fun c hc => ?_, fun c hc => ?_,
    fun c hc => ?_⟩
  · rcases List.mem_append.1 hc with hc | hc
    · exact hf.noBreak c hc
    · rcases List.mem_append.1 hc with hc | hc
      · exact hb c hc
      · exact hm.noBreak c hc
  · rw [List.head?_append_of_ne_nil _ hf.toList_ne_nil] at hc
    exact hf.first c hc
  · rw [← List.append_assoc, List.getLast?_append_of_ne_nil _ hm.toList_ne_nil] at hc
    exact hm.last c hc

theorem isBreak_of_isAsciiDigit {c : Char} (h : isAsciiDigit c = true) : isBreak c = false := by
  rw [isAsciiDigit_iff] at h
  simp [isBreak]
  omega

theorem WellFormed.isReportLine {d : Diagnostic} (h : WellFormed d) :
    IsReportLine d.text.toList := by
  have hdigits : ∀ n, ∀ c ∈ Nat.toDigits 10 n, isBreak c = false :=
    fun n c hc => isBreak_of_isAsciiDigit (isAsciiDigit_of_mem_toDigits hc)
  cases h with
  | @located file message line column hf hl hc hm =>
    have hbetween : ∀ c ∈ ':' :: (Nat.toDigits 10 line ++ ':' ::
        (Nat.toDigits 10 column ++ [':', ' '])), isBreak c = false := by
      simp only [List.forall_mem_cons, List.forall_mem_append]
      exact ⟨by decide, hdigits line, by decide, hdigits column, by decide, by decide,
        fun c hc => absurd hc List.not_mem_nil⟩
    have hline := hf.isReportLine hm hbetween
    rw [toList_text_located]
    simpa only [List.cons_append, List.append_assoc, List.nil_append] using hline
  | @inFile file message hf hwarning herror hm =>
    have hbetween : ∀ c ∈ [':', ' '], isBreak c = false := any_eq_false_iff.1 (by decide)
    rw [toList_text_inFile]
    exact hf.isReportLine hm hbetween
  | @plain message hm hfirst hlocated hinFile =>
    exact ⟨hm.toList_ne_nil, hm.noBreak, hfirst, hm.last⟩

/-! ## Lines that are written back -/

/-- The digits of a number, no more of them than are read. -/
def IsCount (digits : List Char) : Prop := Numeral digits ∧ digits.length ≤ maxDigits

/-- A line whose file, where it names one, has its shown form, and whose numbers, where it has
some, are written as numbers are. -/
structure Canonical (s : List Char) : Prop where
  located : ∀ file line column text, Located s file line column text →
    tidied (String.ofList file) = String.ofList file ∧ IsCount line ∧ IsCount column
  inFile : ∀ file text, InFile s file text →
    tidied (String.ofList file) = String.ofList file

instance (digits : List Char) : Decidable (IsCount digits) :=
  inferInstanceAs (Decidable (Numeral digits ∧ digits.length ≤ maxDigits))

theorem canonical_iff {s : List Char} : Canonical s ↔
    (∀ x ∈ located? s, tidied (String.ofList x.1) = String.ofList x.1 ∧ IsCount x.2.1 ∧
      IsCount x.2.2.1) ∧ ∀ x ∈ inFile? s, tidied (String.ofList x.1) = String.ofList x.1 := by
  constructor
  · intro h
    refine ⟨?_, ?_⟩
    · rintro ⟨file, line, column, text⟩ hx
      exact h.located file line column text (located?_eq_some_iff.1 hx)
    · rintro ⟨file, text⟩ hx
      exact h.inFile file text (inFile?_eq_some_iff.1 hx)
  · rintro ⟨hlocated, hinFile⟩
    exact ⟨fun file line column text h =>
        hlocated (file, line, column, text) (located?_eq_some_iff.2 h),
      fun file text h => hinFile (file, text) (inFile?_eq_some_iff.2 h)⟩

instance (s : List Char) : Decidable (Canonical s) := decidable_of_iff _ canonical_iff.symm

theorem IsCount.exists_count? {digits : List Char} (h : IsCount digits) :
    ∃ n : Nat, digits = Nat.toDigits 10 n ∧ count? digits = some (n : Int) := by
  obtain ⟨hnumeral, hlength⟩ := h
  obtain ⟨n, rfl⟩ := hnumeral.exists_eq_toDigits
  exact ⟨n, rfl, count?_toDigits hlength⟩

theorem text_of_ofLine? {s : List Char} (hs : Canonical s) {d : Diagnostic}
    (h : ofLine? s = some d) : d.text.toList = s := by
  unfold ofLine? at h
  cases hl : located? s with
  | some found =>
    obtain ⟨file, line, column, text⟩ := found
    have hshape := located?_eq_some_iff.1 hl
    obtain ⟨htidy, hline, hcolumn⟩ := hs.located file line column text hshape
    obtain ⟨l, rfl, hline⟩ := hline.exists_count?
    obtain ⟨c, rfl, hcolumn⟩ := hcolumn.exists_count?
    simp only [hl, hline, hcolumn, htidy, Option.bind_eq_bind, Option.bind_some, Option.pure_def,
      Option.some_inj] at h
    rw [← h, toList_text_located, String.toList_ofList, String.toList_ofList, hshape.eq]
  | none =>
    cases hi : inFile? s with
    | some found =>
      obtain ⟨file, text⟩ := found
      have hshape := inFile?_eq_some_iff.1 hi
      simp only [hl, hi, hs.inFile file text hshape, Option.some_inj] at h
      rw [← h, toList_text_inFile, String.toList_ofList, String.toList_ofList, hshape.eq]
    | none =>
      simp only [hl, hi, Option.some_inj] at h
      rw [← h]
      exact String.toList_ofList

theorem Canonical.exists_ofLine? {s : List Char} (hs : Canonical s) : ∃ d, ofLine? s = some d := by
  rw [exists_ofLine?_iff]
  intro file line column text hl
  obtain ⟨-, hline, hcolumn⟩ := hs.located file line column text (located?_eq_some_iff.1 hl)
  exact ⟨hline.2, hcolumn.2⟩

/-! ## Whole reports -/

theorem parse_eq (output : String) : parse output = (reportLines output).mapM ofLine? := rfl

theorem parse_intercalate_text {ds : List Diagnostic} (h : ∀ d ∈ ds, WellFormed d) :
    parse ("\n".intercalate (ds.map text)) = some ds := by
  rw [parse_eq, reportLines_intercalate (List.forall_mem_map.2 fun d hd => (h d hd).isReportLine),
    List.map_map, mapM_eq_some_iff, List.forall₂_map_left_iff, List.forall₂_same]
  exact fun d hd => (h d hd).ofLine?_text

theorem exists_parse_text {output : String} (h : ∀ s ∈ reportLines output, Canonical s) :
    ∃ ds, parse output = some ds ∧ ds.map text = (reportLines output).map String.ofList := by
  obtain ⟨ds, hds⟩ := exists_mapM_iff.2 fun s hs => (h s hs).exists_ofLine?
  have htext : (ds.map fun d => d.text.toList) = reportLines output :=
    map_eq_of_mapM hds fun s hs d hd => text_of_ofLine? (h s hs) hd
  refine ⟨ds, hds, ?_⟩
  rw [← htext, List.map_map]
  exact List.map_congr_left fun d _ => String.ofList_toList.symm

/-- **Reading and writing diagnostics.** Diagnostics are read from the lines that are written for
them; and the lines of a report are written for the diagnostics that are read from it. -/
theorem parse_inverse_text :
    (∀ ds : List Diagnostic, (∀ d ∈ ds, WellFormed d) →
      parse ("\n".intercalate (ds.map text)) = some ds) ∧
    ∀ output : String, (∀ s ∈ reportLines output, Canonical s) →
      ∃ ds, parse output = some ds ∧ ds.map text = (reportLines output).map String.ofList :=
  ⟨fun _ => parse_intercalate_text, fun _ => exists_parse_text⟩

/-- A report with a line of each shape. -/
def report : String :=
  "\r\napi.proto:3:1: warning: unused\n\n missing.proto: File not found. \nWarning: none:7:2: x\n"

/-- The diagnostics of the report. -/
def reported : List Diagnostic :=
  [⟨"warning: unused", { file := some "api.proto", line := some 3, column := some 1 }, .warning⟩,
    ⟨"File not found.", { file := some "missing.proto" }, .error⟩,
    ⟨"Warning: none:7:2: x", {}, .warning⟩]

theorem wellFormed_reported : ∀ d ∈ reported, WellFormed d := by
  have hlocated : located? "Warning: none:7:2: x".toList = none := by decide
  have hinFile : inFile? "Warning: none:7:2: x".toList = none := by decide
  simp only [reported, List.forall_mem_cons]
  refine ⟨?_, ?_, ?_, fun d hd => absurd hd List.not_mem_nil⟩
  · exact @WellFormed.located "api.proto" "warning: unused" 3 1 (by decide) (by decide)
      (by decide) (by decide)
  · exact .inFile (by decide) (by decide) (by decide) (by decide)
  · exact .plain (by decide) ((Option.any_eq_false _ _).1 (by decide))
      (located?_eq_none_iff.1 hlocated) (inFile?_eq_none_iff.1 hinFile)

theorem parse_inverse_text_report :
    parse ("\n".intercalate (reported.map text)) = some reported ∧
      ∃ ds, parse report = some ds ∧ ds.map text = (reportLines report).map String.ofList :=
  ⟨parse_inverse_text.1 reported wellFormed_reported,
    parse_inverse_text.2 report (by decide)⟩

end ProtoCheck.Diagnostic
