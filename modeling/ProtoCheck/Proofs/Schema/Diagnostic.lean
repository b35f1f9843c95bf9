import ProtoCheck.Schema.Diagnostic
import Mathlib.Data.List.Forall2
import Mathlib.Data.List.TakeWhile

/-!
# Diagnostics of an error output

Every line of an error output can be read as a diagnostic, unless it has a line or column number of
more digits than are read. Where a failure stands is told by the diagnostics that are blamed for it.

* `exists_mapM_iff`, `mapM_eq_some_iff`, `map_eq_of_mapM` : a list can be read when each of its
  members can, and is read member by member;
* `Located`, `InFile`, `located?_eq_some_iff`, `inFile?_eq_some_iff` : the shapes that a line can
  have;
* `ShortNumerals`, `exists_parse_iff` : the error outputs that can be read;
* `blamed_eq` : errors are blamed, and where there is none everything is;
* `firstLocation_eq_some_iff`, `firstLocation_eq_none_iff` : the first place that names a file.
-/

namespace ProtoCheck

theorem exists_mapM_iff {α β : Type} {f : α → Option β} {l : List α} :
    (∃ bs, l.mapM f = some bs) ↔ ∀ a ∈ l, ∃ b, f a = some b := by
  induction l with
  | nil => simp
  | cons a l ih =>
    rw [List.forall_mem_cons, ← ih, List.mapM_cons]
    constructor
    · rintro ⟨bs, h⟩
      obtain ⟨b, hb, h⟩ := Option.bind_eq_some_iff.1 h
      obtain ⟨rest, hrest, -⟩ := Option.bind_eq_some_iff.1 h
      exact ⟨⟨b, hb⟩, rest, hrest⟩
    · rintro ⟨⟨b, hb⟩, rest, hrest⟩
      exact ⟨b :: rest, by rw [hb, hrest]; rfl⟩

theorem mapM_eq_some_iff {α β : Type} {f : α → Option β} {l : List α} {bs : List β} :
    l.mapM f = some bs ↔ List.Forall₂ (fun a b => f a = some b) l bs := by
  induction l generalizing bs with
  | nil => rw [List.mapM_nil, List.forall₂_nil_left_iff]; exact eq_comm.trans Option.some_inj
  | cons a l ih =>
    rw [List.mapM_cons, List.forall₂_cons_left_iff]
    simp only [Option.bind_eq_bind, Option.bind_eq_some_iff, Option.pure_def, Option.some_inj, ih]
    constructor
    · rintro ⟨b, hb, rest, hrest, rfl⟩
      exact ⟨b, rest, hb, hrest, rfl⟩
    · rintro ⟨b, rest, hb, hrest, rfl⟩
      exact ⟨b, hb, rest, hrest, rfl⟩

/-- What is read from a list makes up the list when each part makes up the member it is read
from. -/
theorem map_eq_of_mapM {α β : Type} {f : α → Option β} {g : β → α} {l : List α} {bs : List β}
    (h : l.mapM f = some bs) (hg : ∀ a ∈ l, ∀ b, f a = some b → g b = a) : bs.map g = l := by
  rw [mapM_eq_some_iff] at h
  induction h with
  | nil => rfl
  | cons hab _ ih =>
    rw [List.forall_mem_cons] at hg
    rw [List.map_cons, hg.1 _ hab, ih hg.2]

namespace Text

/-- Decimal digits, of which there are some, stand for a number. -/
theorem exists_number? {s : List Char} (hne : s ≠ []) (h : ∀ c ∈ s, isDecimal c = true) :
    ∃ n, number? s = some n := by
  obtain ⟨ds, hds⟩ := exists_mapM_iff.2 fun c hc => Option.isSome_iff_exists.1 (h c hc)
  unfold number?
  rw [List.isEmpty_eq_false_iff.2 hne, hds]
  exact ⟨_, rfl⟩

end Text

namespace Diagnostic

open Text

/-! ## Shapes of lines -/

/-- The part of a text in front of the first character that `p` does not accept, when there is
such a part and that character is a colon, and what follows the colon. -/
def colonAfter? (p : Char → Bool) (s : List Char) : Option (List Char × List Char) :=
  match s.dropWhile p with
  | ':' :: rest =>
    let front := s.takeWhile p
    if front.isEmpty then none else some (front, rest)
  | _ => none

theorem fileColon?_eq (s : List Char) : fileColon? s = colonAfter? (· != ':') s := rfl

theorem digitsColon?_eq (s : List Char) : digitsColon? s = colonAfter? isDecimal s := rfl

theorem colonAfter?_eq_some_iff {p : Char → Bool} (hp : p ':' = false) {s front rest : List Char} :
    colonAfter? p s = some (front, rest) ↔
      front ≠ [] ∧ (∀ c ∈ front, p c = true) ∧ s = front ++ ':' :: rest := by
  unfold colonAfter?
  constructor
  · intro h
    split at h
    · rename_i r hdrop
      dsimp only at h
      split at h
      · exact nomatch h
      · rename_i hne
        cases h
        refine ⟨fun he => hne (List.isEmpty_iff.2 he), fun c hc => List.mem_takeWhile_imp hc, ?_⟩
        rw [← hdrop, List.takeWhile_append_dropWhile]
    · exact nomatch h
  · rintro ⟨hne, hall, rfl⟩
    have hcolon : ¬ p ':' = true := Bool.eq_false_iff.1 hp
    rw [List.dropWhile_append_of_pos hall, List.dropWhile_cons_of_neg hcolon]
    dsimp only
    rw [List.takeWhile_append_of_pos hall, List.takeWhile_cons_of_neg hcolon, List.append_nil,
      List.isEmpty_eq_false_iff.2 hne]
    rfl

theorem fileColon?_eq_some_iff {s file rest : List Char} :
    fileColon? s = some (file, rest) ↔ file ≠ [] ∧ ':' ∉ file ∧ s = file ++ ':' :: rest := by
  have hcolon : (∀ c ∈ file, (c != ':') = true) ↔ ':' ∉ file := by
    simp only [bne_iff_ne]
    exact ⟨fun h hm => h _ hm rfl, fun h c hc he => h (he ▸ hc)⟩
  rw [fileColon?_eq, colonAfter?_eq_some_iff (by decide), hcolon]

theorem digitsColon?_eq_some_iff {s digits rest : List Char} :
    digitsColon? s = some (digits, rest) ↔
      digits ≠ [] ∧ (∀ c ∈ digits, isDecimal c = true) ∧ s = digits ++ ':' :: rest := by
  rw [digitsColon?_eq, colonAfter?_eq_some_iff (by decide)]

/-- A line `file:line:column: text`. -/
structure Located (s file line column text : List Char) : Prop where
  file_ne_nil : file ≠ []
  file_colon : ':' ∉ file
  line_digits : line ≠ [] ∧ ∀ c ∈ line, isDecimal c = true
  column_digits : column ≠ [] ∧ ∀ c ∈ column, isDecimal c = true
  eq : s = file ++ ':' :: (line ++ ':' :: (column ++ ':' :: ' ' :: text))

/-- A line `file: text`, where the file is neither the word `warning` nor the word `error`. -/
structure InFile (s file text : List Char) : Prop where
  file_ne_nil : file ≠ []
  file_colon : ':' ∉ file
  not_warning : lower file ≠ "warning".toList
  not_error : lower file ≠ "error".toList
  eq : s = file ++ ':' :: ' ' :: text

theorem located?_eq_some_iff {s file line column text : List Char} :
    located? s = some (file, line, column, text) ↔ Located s file line column text := by
  unfold located?
  simp only [Option.bind_eq_bind, Option.bind_eq_some_iff, Prod.exists]
  constructor
  · rintro ⟨_, s₁, hfile, _, s₂, hline, _, s₃, hcolumn, h⟩
    split at h
    · cases h
      obtain ⟨hne, hcolon, rfl⟩ := fileColon?_eq_some_iff.1 hfile
      obtain ⟨hl, hl', rfl⟩ := digitsColon?_eq_some_iff.1 hline
      obtain ⟨hc, hc', rfl⟩ := digitsColon?_eq_some_iff.1 hcolumn
      exact ⟨hne, hcolon, ⟨hl, hl'⟩, ⟨hc, hc'⟩, rfl⟩
    · exact nomatch h
  · intro h
    exact ⟨file, _, fileColon?_eq_some_iff.2 ⟨h.file_ne_nil, h.file_colon, h.eq⟩,
      line, _, digitsColon?_eq_some_iff.2 ⟨h.line_digits.1, h.line_digits.2, rfl⟩,
      column, _, digitsColon?_eq_some_iff.2 ⟨h.column_digits.1, h.column_digits.2, rfl⟩, rfl⟩

theorem inFile?_eq_some_iff {s file text : List Char} :
    inFile? s = some (file, text) ↔ InFile s file text := by
  have hword : ∀ {file word : List Char},
      (String.ofList (lower file) == String.ofList word) = true ↔ lower file = word := by
    intro file word
    rw [beq_iff_eq, String.ofList_inj]
  have hwords : ∀ file : List Char, (String.ofList (lower file) == "warning" ||
      String.ofList (lower file) == "error") = true ↔
        lower file = "warning".toList ∨ lower file = "error".toList := by
    intro file
    rw [Bool.or_eq_true]
    exact or_congr hword hword
  unfold inFile?
  simp only [Option.bind_eq_bind, Option.bind_eq_some_iff, Prod.exists]
  constructor
  · rintro ⟨_, s₁, hfile, h⟩
    split at h
    · split at h
      · exact nomatch h
      · rename_i hne
        cases h
        obtain ⟨hne', hcolon, rfl⟩ := fileColon?_eq_some_iff.1 hfile
        rw [hwords, not_or] at hne
        exact ⟨hne', hcolon, hne.1, hne.2, rfl⟩
    · exact nomatch h
  · intro h
    refine ⟨file, _, fileColon?_eq_some_iff.2 ⟨h.file_ne_nil, h.file_colon, h.eq⟩, ?_⟩
    refine if_neg ?_
    rw [hwords, not_or]
    exact ⟨h.not_warning, h.not_error⟩

theorem located?_eq_none_iff {s : List Char} :
    located? s = none ↔ ∀ file line column text, ¬ Located s file line column text := by
  simp only [Option.eq_none_iff_forall_ne_some, ne_eq, Prod.forall, located?_eq_some_iff]

theorem inFile?_eq_none_iff {s : List Char} :
    inFile? s = none ↔ ∀ file text, ¬ InFile s file text := by
  simp only [Option.eq_none_iff_forall_ne_some, ne_eq, Prod.forall, inFile?_eq_some_iff]

/-- A line behind whose first colon a space stands has no line or column number. -/
theorem InFile.not_located {s file text : List Char} (h : InFile s file text) :
    located? s = none := by
  rw [located?_eq_none_iff]
  intro file' line column text' hl
  have hcolon := fileColon?_eq_some_iff.2 ⟨h.file_ne_nil, h.file_colon, h.eq⟩
  have hcolon' := fileColon?_eq_some_iff.2 ⟨hl.file_ne_nil, hl.file_colon, hl.eq⟩
  have hrest := (Prod.mk.inj (Option.some.inj (hcolon.symm.trans hcolon'))).2
  obtain ⟨c, digits, hline⟩ := List.exists_cons_of_ne_nil hl.line_digits.1
  rw [hline, List.cons_append, List.cons.injEq] at hrest
  have hdigit := hl.line_digits.2 c (hline ▸ List.mem_cons_self)
  rw [← hrest.1] at hdigit
  exact absurd hdigit (by decide)

/-! ## Numbers -/

theorem exists_count?_iff {ds : List Char} (h : ds ≠ [] ∧ ∀ c ∈ ds, isDecimal c = true) :
    (∃ n, count? ds = some n) ↔ ds.length ≤ maxDigits := by
  obtain ⟨n, hn⟩ := exists_number? h.1 h.2
  unfold count?
  by_cases hlong : maxDigits < ds.length
  · rw [if_pos hlong]
    simp only [reduceCtorEq, exists_false, false_iff]
    omega
  · rw [if_neg hlong, hn]
    exact ⟨fun _ => by omega, fun _ => ⟨_, rfl⟩⟩

/-! ## Reading an error output -/

/-- The lines of an error output that are not blank, without the white space around them. -/
def reportLines (output : String) : List (List Char) :=
  ((splitLines output.toList).map trim).filter (!·.isEmpty)

/-- No line of an error output has a line or column number of more digits than are read. -/
def ShortNumerals (output : String) : Prop :=
  ∀ s ∈ reportLines output, ∀ file line column text,
    located? s = some (file, line, column, text) →
      line.length ≤ maxDigits ∧ column.length ≤ maxDigits

theorem exists_ofLine?_iff {s : List Char} :
    (∃ d, ofLine? s = some d) ↔ ∀ file line column text,
      located? s = some (file, line, column, text) →
        line.length ≤ maxDigits ∧ column.length ≤ maxDigits := by
  unfold ofLine?
  cases h : located? s with
  | none =>
    refine ⟨fun _ file line column text he => (nomatch he), fun _ => ?_⟩
    cases inFile? s with
    | none => exact ⟨_, rfl⟩
    | some found => exact ⟨_, rfl⟩
  | some found =>
    obtain ⟨file, line, column, text⟩ := found
    have hshape := located?_eq_some_iff.1 h
    have hline := hshape.line_digits
    have hcolumn := hshape.column_digits
    constructor
    · rintro ⟨d, hd⟩ _ _ _ _ he
      cases he
      obtain ⟨l, hl, hd⟩ := Option.bind_eq_some_iff.1 hd
      obtain ⟨c, hc, -⟩ := Option.bind_eq_some_iff.1 hd
      exact ⟨(exists_count?_iff hline).1 ⟨l, hl⟩, (exists_count?_iff hcolumn).1 ⟨c, hc⟩⟩
    · intro hshort
      obtain ⟨hl, hc⟩ := hshort file line column text rfl
      obtain ⟨l, hl⟩ := (exists_count?_iff hline).2 hl
      obtain ⟨c, hc⟩ := (exists_count?_iff hcolumn).2 hc
      dsimp only
      rw [hl, hc]
      exact ⟨_, rfl⟩

/-- The error outputs that can be read are those whose numbers are short enough. -/
theorem exists_parse_iff {output : String} :
    (∃ ds, parse output = some ds) ↔ ShortNumerals output := by
  rw [show parse output = (reportLines output).mapM ofLine? from rfl, exists_mapM_iff]
  exact forall₂_congr fun s _ => exists_ofLine?_iff

/-! ## Blame -/

/-- Errors are blamed, and where there is none everything is. -/
theorem blamed_eq (ds : List Diagnostic) :
    blamed ds = if ∃ d ∈ ds, d.severity = .error then ds.filter fun d => d.severity = .error
      else ds := by
  unfold blamed
  have hfilter : (ds.filter fun d => d.severity == .error) =
      ds.filter fun d => d.severity = .error := rfl
  dsimp only
  rw [hfilter]
  by_cases h : ∃ d ∈ ds, d.severity = .error
  · obtain ⟨d, hd, hs⟩ := h
    have hne : (ds.filter fun d => d.severity = .error) ≠ [] :=
      List.ne_nil_of_mem (List.mem_filter.2 ⟨hd, by simpa using hs⟩)
    rw [List.isEmpty_eq_false_iff.2 hne, if_neg Bool.false_ne_true, if_pos ⟨d, hd, hs⟩]
  · have hnil : (ds.filter fun d => d.severity = .error) = [] :=
      List.filter_eq_nil_iff.2 fun d hd hs => h ⟨d, hd, by simpa using hs⟩
    rw [List.isEmpty_iff.2 hnil, if_pos rfl, if_neg h]

theorem firstLocation_eq_some_iff {ds : List Diagnostic} {loc : Location} :
    firstLocation ds = some loc ↔ ∃ before d after, ds = before ++ d :: after ∧
      (∀ x ∈ before, x.location.file = none) ∧ d.location.file.isSome ∧ d.location = loc := by
  unfold firstLocation
  rw [Option.map_eq_some_iff]
  simp only [List.find?_eq_some_iff_append]
  constructor
  · rintro ⟨d, ⟨hd, before, after, hds, hbefore⟩, hloc⟩
    exact ⟨before, d, after, hds, fun x hx => by simpa using hbefore x hx, hd, hloc⟩
  · rintro ⟨before, d, after, hds, hbefore, hd, hloc⟩
    exact ⟨d, ⟨hd, before, after, hds, fun x hx => by simpa using hbefore x hx⟩, hloc⟩

theorem firstLocation_eq_none_iff {ds : List Diagnostic} :
    firstLocation ds = none ↔ ∀ d ∈ ds, d.location.file = none := by
  unfold firstLocation
  rw [Option.map_eq_none_iff, List.find?_eq_none]
  simp

end Diagnostic

end ProtoCheck
