import ProtoCheck.Proofs.Schema.Comments
import Mathlib.Data.List.TakeWhile

/-!
# Schemas with comments

A source is made of lines with imports, lines with line comments, block comments, and other lines in
which no comment begins and the word of an import does not occur. Cutting the comments out leaves
every other line as it is, and then each line is read on its own: an import is found, and any other
line is passed over, whatever text the comments hold.

* `Item`, `Item.text` : the parts of such a source;
* `stripComments_items` : what is left of them without comments;
* `importsFrom_other` : a line without the word of an import is passed over;
* `scanImports_items` : the imports that are found are those of the source.
-/

namespace ProtoCheck.Schema

open Text

/-! ## Sources -/

/-- An import on lines of its own: white space, the word of an import, white space, perhaps another
word with white space, a path between double quotes, white space and a semicolon. -/
structure ImportLine where
  lead : Blanks
  gap : Blanks
  gap_ne_nil : gap.chars ≠ []
  qualifier : List Char
  qualified : Qualifier qualifier
  path : ImportPath
  trail : Blanks

/-- The text of a line comment behind its mark. -/
structure LineComment where
  chars : List Char
  noFeed : '\n' ∉ chars

/-- The text of a block comment between its marks. -/
structure BlockComment where
  chars : List Char
  unclosed : ¬ ['*', '/'] <:+: chars

/-- A line in which no comment begins and the word of an import does not occur. -/
structure OtherLine where
  chars : List Char
  noFeed : '\n' ∉ chars
  noSlash : '/' ∉ chars
  noImport : ¬ "import".toList <:+: chars

/-- A part of a source. All parts but block comments and white space end with a line feed, so that
every part begins where a line does, or behind block comments and white space that do. -/
inductive Item where
  | imports (i : ImportLine)
  | line (t : LineComment)
  | block (t : BlockComment)
  | other (t : OtherLine)
  | space (w : Blanks)

def ImportLine.text (i : ImportLine) : List Char :=
  i.lead.chars ++ ("import".toList ++ (i.gap.chars ++
    (i.qualifier ++ '"' :: (i.path.chars ++ '"' :: (i.trail.chars ++ [';', '\n'])))))

/-- The item as it is written. -/
def Item.text : Item → List Char
  | imports i => i.text
  | line t => '/' :: '/' :: (t.chars ++ ['\n'])
  | block t => '/' :: '*' :: (t.chars ++ ['*', '/'])
  | other t => t.chars ++ ['\n']
  | space w => w.chars

/-- The path that an item imports, if it does. -/
def Item.path? : Item → Option String
  | imports i => some (String.ofList i.path.chars)
  | line _ | block _ | other _ | space _ => none

/-! ## Without comments -/

/-- What is left of an item when comments are cut out. -/
def Item.kept : Item → List Char
  | imports i => i.text
  | line _ => ['\n']
  | block _ => []
  | other t => t.chars ++ ['\n']
  | space w => w.chars

theorem Qualifier.slash_notMem {q : List Char} (h : Qualifier q) : '/' ∉ q := by
  have hblank : ∀ {w : List Char}, (∀ c ∈ w, isBlank c = true) → '/' ∉ w :=
    fun hw hm => absurd (hw _ hm) (by decide)
  cases h with
  | plain => exact List.not_mem_nil
  | exported hw _ => exact List.not_mem_append (by decide) (hblank hw)
  | weak hw _ => exact List.not_mem_append (by decide) (hblank hw)

/-- No comment begins in an import: the only slashes stand in its path. -/
theorem ImportLine.noComment (i : ImportLine) : NoComment i.text := by
  have hfront :
      '/' ∉ i.lead.chars ++ ("import".toList ++ (i.gap.chars ++ (i.qualifier ++ ['"']))) :=
    List.not_mem_append (i.lead.notMem (by decide)) <| List.not_mem_append (by decide) <|
      List.not_mem_append (i.gap.notMem (by decide)) <|
        List.not_mem_append i.qualified.slash_notMem (by decide)
  have hback : '/' ∉ '"' :: (i.trail.chars ++ [';', '\n']) :=
    List.not_mem_cons_of_ne_of_not_mem (by decide) <|
      List.not_mem_append (i.trail.notMem (by decide)) (by decide)
  have hpath : NoComment (i.path.chars ++ '"' :: (i.trail.chars ++ [';', '\n'])) := by
    refine i.path.noComment.append (noComment_of_slash_notMem hback) fun _ => ?_
    rw [List.head?_cons]
    decide
  have h := (noComment_of_slash_notMem hfront).append hpath fun hm =>
    absurd (List.mem_of_mem_getLast? hm) hfront
  simpa only [ImportLine.text, List.append_assoc, List.cons_append, List.nil_append] using h

theorem ImportLine.getLast?_text (i : ImportLine) : i.text.getLast? = some '\n' := by
  have h : i.text = i.lead.chars ++ ("import".toList ++ (i.gap.chars ++ (i.qualifier ++
      '"' :: (i.path.chars ++ '"' :: (i.trail.chars ++ [';']))))) ++ ['\n'] := by
    simp only [ImportLine.text, List.append_assoc, List.cons_append, List.nil_append]
  rw [h, List.getLast?_concat]

theorem Item.stripComments_append (x : Item) (s : List Char) :
    stripComments (x.text ++ s) = x.kept ++ stripComments s := by
  cases x with
  | imports i =>
    refine stripComments_append_of_noComment i.noComment ?_ s
    rw [i.getLast?_text]
    decide
  | line t =>
    have hfeed : ∀ c ∈ t.chars, (c != '\n') = true := by
      intro c hc
      rw [bne_iff_ne]
      rintro rfl
      exact t.noFeed hc
    show stripComments ('/' :: '/' :: (t.chars ++ ['\n'] ++ s)) = '\n' :: stripComments s
    rw [stripComments_line, List.append_assoc, List.dropWhile_append_of_pos hfeed,
      List.singleton_append, List.dropWhile_cons_of_neg (by decide),
      stripComments_cons fun h => absurd h (by decide)]
  | block t =>
    show stripComments ('/' :: '*' :: (t.chars ++ ['*', '/'] ++ s)) = stripComments s
    rw [List.append_assoc]
    exact stripComments_block (afterBlock?_closed t.unclosed s)
  | other t =>
    exact Schema.stripComments_append (List.not_mem_append t.noSlash (by decide)) s
  | space w => exact Schema.stripComments_append (w.notMem (by decide)) s

theorem stripComments_items (l : List Item) :
    stripComments (l.flatMap Item.text) = l.flatMap Item.kept := by
  induction l with
  | nil => rw [List.flatMap_nil, stripComments, List.flatMap_nil]
  | cons x l ih => rw [List.flatMap_cons, x.stripComments_append, ih, List.flatMap_cons]

/-! ## Line by line -/

theorem ImportLine.importAt?_text (i : ImportLine) (s : List Char) :
    importAt? (i.text ++ s) = some (i.path.chars, '\n' :: s) := by
  have h := importAt?_statement i.lead.blank i.gap.blank i.gap_ne_nil i.qualified i.path.ne_nil
    i.path.noQuote i.trail.blank ('\n' :: s)
  rw [← h, ImportLine.text]
  simp only [List.append_assoc, List.cons_append, List.nil_append]

/-- No import begins in what is left of a line in which its word does not occur, unless that is
white space. -/
theorem importAt?_other {u : List Char} (hi : ¬ "import".toList <:+: u)
    (hu : ∃ c ∈ u, isBlank c = false) (s : List Char) : importAt? (u ++ '\n' :: s) = none := by
  obtain ⟨c, hc, hblank⟩ := hu
  have hdrop : (u ++ '\n' :: s).dropWhile isBlank = u.dropWhile isBlank ++ '\n' :: s := by
    rw [List.dropWhile_append, if_neg]
    rw [List.isEmpty_iff, List.dropWhile_eq_nil_iff]
    exact fun hall => Bool.false_ne_true (hblank.symm.trans (hall c hc))
  have hword : after? "import".toList (u.dropWhile isBlank ++ '\n' :: s) = none := by
    rw [Option.eq_none_iff_forall_ne_some]
    intro r hr
    have hprefix : "import".toList <+: u.dropWhile isBlank ++ '\n' :: s :=
      ⟨r, (after?_eq_some_iff.1 hr).symm⟩
    have hfront := prefix_of_notMem hprefix (by decide)
    exact hi (hfront.isInfix.trans (List.dropWhile_suffix isBlank).isInfix)
  unfold importAt?
  rw [hdrop, wordBlank?, hword]
  rfl

/-- A line without the word of an import is passed over. -/
theorem importsFrom_other {u : List Char} (hfeed : '\n' ∉ u) (hi : ¬ "import".toList <:+: u)
    (s : List Char) : ∀ lineStart, importsFrom lineStart (u ++ '\n' :: s) = importsFrom true s := by
  induction u with
  | nil =>
    intro lineStart
    cases lineStart with
    | true => exact importsFrom_cons_blank rfl s
    | false => exact importsFrom_cons (by decide) s
  | cons c u ih =>
    rw [List.mem_cons, not_or] at hfeed
    have hrest : ∀ lineStart, importsFrom lineStart (u ++ '\n' :: s) = importsFrom true s :=
      ih hfeed.2 fun hu => hi (hu.trans (List.suffix_cons c u).isInfix)
    have hmiddle : importsFrom false (c :: u ++ '\n' :: s) = importsFrom true s := by
      by_cases hsemi : c = ';'
      · rw [hsemi, List.cons_append, importsFrom_semicolon, hrest]
      · rw [List.cons_append, importsFrom_cons hsemi, hrest]
    intro lineStart
    cases lineStart with
    | false => exact hmiddle
    | true =>
      by_cases hblank : ∃ d ∈ c :: u, isBlank d = false
      · rw [importsFrom_unfound (importAt?_other hi hblank s), hmiddle]
      · -- white space, which the search for the next import begins with
        have hall : ∀ d ∈ c :: u ++ ['\n'], isBlank d = true := by
          intro d hd
          rcases List.mem_append.1 hd with hd | hd
          · exact Bool.not_eq_false _ ▸ fun hf => hblank ⟨d, hd, hf⟩
          · exact List.mem_singleton.1 hd ▸ rfl
        have happend : c :: u ++ '\n' :: s = c :: u ++ ['\n'] ++ s := by simp
        rw [happend, importsFrom_blank_append hall]

/-- An import is found, and any other part of a source is passed over. -/
theorem Item.importsFrom_kept (x : Item) (s : List Char) :
    importsFrom true (x.kept ++ s) =
      (x.path?.map String.toList).toList ++ importsFrom true s := by
  cases x with
  | imports i =>
    show importsFrom true (i.text ++ s) =
      (String.ofList i.path.chars).toList :: importsFrom true s
    rw [importsFrom_found (i.importAt?_text s), importsFrom_cons (by decide), String.toList_ofList]
    rfl
  | line t => exact importsFrom_cons_blank rfl s
  | block t => rfl
  | other t =>
    show importsFrom true (t.chars ++ ['\n'] ++ s) = importsFrom true s
    rw [List.append_assoc]
    exact importsFrom_other t.noFeed t.noImport s true
  | space w => exact importsFrom_blank_append w.blank s

theorem importsFrom_kept (l : List Item) :
    importsFrom true (l.flatMap Item.kept) = (l.filterMap Item.path?).map String.toList := by
  induction l with
  | nil => rw [List.flatMap_nil, importsFrom, List.filterMap_nil, List.map_nil]
  | cons x l ih =>
    rw [List.flatMap_cons, x.importsFrom_kept, ih, List.filterMap_cons]
    cases x.path? with
    | none => rfl
    | some path => rfl

/-- The imports that are found are those of the source, whatever its comments hold. -/
theorem scanImports_items (l : List Item) :
    scanImports (l.flatMap Item.text) = l.filterMap Item.path? := by
  rw [scanImports, stripComments_items, importsFrom_kept, List.map_map]
  exact (List.map_congr_left fun path _ => String.ofList_toList).trans (List.map_id _)

end ProtoCheck.Schema
