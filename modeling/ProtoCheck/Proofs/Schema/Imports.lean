import ProtoCheck.Proofs.Text.Blank
import ProtoCheck.Schema.Imports
import Mathlib.Data.List.Chain

/-!
# Import statements in a schema

An import is found behind a line start or behind a semicolon, and the semicolon at its own end is
used up. So of two imports on one line, the second is not found when the first one is.

* `NoComment`, `stripComments_of_noComment` : a text without comment marks is left alone;
* `importAt?_statement` : a statement at the front of a text is read;
* `importsFrom_skip`, `importsFrom_semicolon`, `importsFrom_blank_append` : what holds neither a
  line feed nor a semicolon is passed over, behind either of them a statement can begin, and white
  space there changes nothing;
* `two_mul_length_importsFrom_le` : each statement that is found takes two quotes;
* `ImportStatement`, `source`, `scanImports_source_iff` : which statements of a source are found.
-/

namespace ProtoCheck.Schema

open Text

/-! ## Texts without comments -/

/-- A text in which no comment begins. -/
def NoComment (s : List Char) : Prop := ¬ ['/', '/'] <:+: s ∧ ¬ ['/', '*'] <:+: s

theorem NoComment.tail {c : Char} {s : List Char} (h : NoComment (c :: s)) : NoComment s :=
  ⟨fun hi => h.1 (hi.trans (List.infix_cons_iff.2 (.inr List.infix_rfl))),
    fun hi => h.2 (hi.trans (List.infix_cons_iff.2 (.inr List.infix_rfl)))⟩

theorem stripComments_of_noComment {s : List Char} (h : NoComment s) : stripComments s = s := by
  fun_induction stripComments s with
  | case1 rest _ => exact absurd ⟨[], rest, rfl⟩ h.1
  | case2 rest _ _ _ => exact absurd ⟨[], rest, rfl⟩ h.2
  | case3 rest _ _ => exact absurd ⟨[], rest, rfl⟩ h.2
  | case4 c rest _ _ ih => rw [ih h.tail]
  | case5 => rfl

theorem noComment_iff_isChain {s : List Char} :
    NoComment s ↔ s.IsChain fun a b => a = '/' → b ≠ '/' ∧ b ≠ '*' := by
  rw [List.isChain_iff_forall_rel_of_append_cons_cons]
  constructor
  · rintro h a b l r rfl rfl
    refine ⟨?_, ?_⟩
    · rintro rfl
      exact h.1 ⟨l, r, by simp⟩
    · rintro rfl
      exact h.2 ⟨l, r, by simp⟩
  · intro h
    refine ⟨?_, ?_⟩
    · rintro ⟨l, r, rfl⟩
      exact (h (List.append_assoc l ['/', '/'] r) rfl).1 rfl
    · rintro ⟨l, r, rfl⟩
      exact (h (List.append_assoc l ['/', '*'] r) rfl).2 rfl

theorem NoComment.append {a b : List Char} (ha : NoComment a) (hb : NoComment b)
    (h : '/' ∈ a.getLast? → '/' ∉ b.head? ∧ '*' ∉ b.head?) : NoComment (a ++ b) := by
  rw [noComment_iff_isChain] at ha hb ⊢
  refine List.isChain_append.2 ⟨ha, hb, ?_⟩
  rintro x hx y hy rfl
  refine ⟨?_, ?_⟩
  · rintro rfl
    exact (h hx).1 hy
  · rintro rfl
    exact (h hx).2 hy

theorem noComment_of_slash_notMem {s : List Char} (h : '/' ∉ s) : NoComment s :=
  ⟨fun hi => h (hi.subset (by simp)), fun hi => h (hi.subset (by simp))⟩

/-! ## A statement at the front -/

theorem isBlank_of_mem_space : ∀ c ∈ [' '], isBlank c = true :=
  List.forall_mem_singleton.2 rfl

theorem blank?_append {w s : List Char} (hw : ∀ c ∈ w, isBlank c = true) (hne : w ≠ [])
    (hs : ∀ c ∈ s.head?, isBlank c = false) : blank? (w ++ s) = some s := by
  obtain ⟨c, w, rfl⟩ := List.exists_cons_of_ne_nil hne
  rw [List.forall_mem_cons] at hw
  rw [List.cons_append, blank?, if_pos hw.1, dropWhile_blank_append hw.2 hs]

theorem wordBlank?_append {word w s : List Char} (hw : ∀ c ∈ w, isBlank c = true) (hne : w ≠ [])
    (hs : ∀ c ∈ s.head?, isBlank c = false) : wordBlank? word (word ++ (w ++ s)) = some s := by
  rw [wordBlank?, after?_append, Option.bind_some, blank?_append hw hne hs]

theorem wordBlank?_eq_none {word s : List Char} {c d : Char} (hd : word.head? = some d)
    (hc : s.head? = some c) (h : d ≠ c) : wordBlank? word s = none := by
  obtain ⟨rest, rfl⟩ := List.head?_eq_some_iff.1 hd
  obtain ⟨more, rfl⟩ := List.head?_eq_some_iff.1 hc
  rw [wordBlank?, after?, if_neg (by simpa using h), Option.bind_none]

/-- The quoted path of a statement and what follows it. -/
theorem quoted_path {path : List Char} (hp : '"' ∉ path) (rest : List Char) :
    (path ++ '"' :: rest).takeWhile (· != '"') = path ∧
      (path ++ '"' :: rest).dropWhile (· != '"') = '"' :: rest := by
  have hall : ∀ c ∈ path, (c != '"') = true := by
    intro c hc
    rw [bne_iff_ne]
    rintro rfl
    exact hp hc
  rw [List.takeWhile_append_of_pos hall, List.dropWhile_append_of_pos hall]
  simp

/-- What stands between the word of an import and its path: nothing, or a word and white space. -/
inductive Qualifier : List Char → Prop where
  | plain : Qualifier []
  | exported {w : List Char} (hw : ∀ c ∈ w, isBlank c = true) (hne : w ≠ []) :
    Qualifier ("public".toList ++ w)
  | weak {w : List Char} (hw : ∀ c ∈ w, isBlank c = true) (hne : w ≠ []) :
    Qualifier ("weak".toList ++ w)

theorem Qualifier.passed {q : List Char} (hq : Qualifier q) {c : Char} (hc : isBlank c = false)
    (hp : 'p' ≠ c) (hw : 'w' ≠ c) (s : List Char) :
    ((wordBlank? "public".toList (q ++ c :: s)).orElse fun _ =>
      wordBlank? "weak".toList (q ++ c :: s)).getD (q ++ c :: s) = c :: s := by
  have hhead : ∀ d ∈ (c :: s).head?, isBlank d = false := by
    intro d hd
    cases hd
    exact hc
  cases hq with
  | plain =>
    rw [List.nil_append, wordBlank?_eq_none (d := 'p') rfl rfl hp,
      wordBlank?_eq_none (d := 'w') rfl rfl hw]
    rfl
  | exported hw hne =>
    rw [List.append_assoc, wordBlank?_append hw hne hhead]
    rfl
  | weak hw hne =>
    have hpublic : "public".toList.head? = some 'p' := rfl
    rw [List.append_assoc, wordBlank?_eq_none hpublic rfl (by decide),
      wordBlank?_append hw hne hhead]
    rfl

/-- A statement at the front of a text is read, whatever white space stands between its parts. -/
theorem importAt?_statement {w w' q path w'' : List Char} (hw : ∀ c ∈ w, isBlank c = true)
    (hw' : ∀ c ∈ w', isBlank c = true) (hne : w' ≠ []) (hq : Qualifier q) (hp : path ≠ [])
    (hquote : '"' ∉ path) (hw'' : ∀ c ∈ w'', isBlank c = true) (rest : List Char) :
    importAt? (w ++ ("import".toList ++
      (w' ++ (q ++ '"' :: (path ++ '"' :: (w'' ++ ';' :: rest)))))) = some (path, rest) := by
  have hi : ∀ c ∈ ("import".toList ++
      (w' ++ (q ++ '"' :: (path ++ '"' :: (w'' ++ ';' :: rest))))).head?, isBlank c = false := by
    intro c hc
    cases hc
    decide
  have hqh : ∀ c ∈ (q ++ '"' :: (path ++ '"' :: (w'' ++ ';' :: rest))).head?,
      isBlank c = false := by
    intro c hc
    cases hq <;> cases hc <;> decide
  have hs : ∀ c ∈ (';' :: rest).head?, isBlank c = false := by
    intro c hc
    cases hc
    decide
  obtain ⟨htake, hdrop⟩ := quoted_path hquote (w'' ++ ';' :: rest)
  unfold importAt?
  rw [dropWhile_blank_append hw hi, wordBlank?_append hw' hne hqh]
  simp only [Option.bind_eq_bind, Option.bind_some]
  rw [hq.passed rfl (by decide) (by decide), after?_singleton, Option.bind_some, htake, hdrop,
    after?_singleton, Option.bind_some, dropWhile_blank_append hw'' hs, after?_singleton,
    Option.bind_some, List.isEmpty_eq_false_iff.2 hp]
  rfl

/-! ## What a statement takes -/

/-- Reading a statement leaves two quotes fewer. -/
theorem count_quote_of_importAt? {s path r : List Char} (h : importAt? s = some (path, r)) :
    r.count '"' + 2 ≤ s.count '"' := by
  obtain ⟨u, v, rfl⟩ := importAt?_decompose h
  have hne : ';' ≠ '"' := by decide
  simp only [List.count_append, List.count_cons_self, List.count_cons_of_ne hne]
  omega

/-! ## Scanning -/

theorem importsFrom_found {s path r : List Char} (h : importAt? s = some (path, r)) :
    importsFrom true s = path :: importsFrom false r := by
  cases s with
  | nil => cases h
  | cons c rest =>
    rw [importsFrom]
    split
    · rename_i path' r' h'
      rw [if_pos rfl, h] at h'
      cases h'
      rfl
    · rename_i h'
      rw [if_pos rfl, h] at h'
      cases h'

theorem importsFrom_cons {c : Char} (hc : c ≠ ';') (s : List Char) :
    importsFrom false (c :: s) = importsFrom (c == '\n') s := by
  rw [importsFrom]
  split
  · rename_i h
    cases h
  · split
    · rename_i h
      rw [if_neg (by simpa using hc)] at h
      cases h
    · rfl

/-- What holds neither a line feed nor a semicolon is passed over. -/
theorem importsFrom_skip {u : List Char} (hu : ∀ c ∈ u, c ≠ ';' ∧ c ≠ '\n') (s : List Char) :
    importsFrom false (u ++ s) = importsFrom false s := by
  induction u with
  | nil => rfl
  | cons c u ih =>
    rw [List.forall_mem_cons] at hu
    rw [List.cons_append, importsFrom_cons hu.1.1, beq_eq_false_iff_ne.2 hu.1.2, ih hu.2]

/-- Each statement that is found takes two quotes. -/
theorem two_mul_length_importsFrom_le (lineStart : Bool) (s : List Char) :
    2 * (importsFrom lineStart s).length ≤ s.count '"' := by
  fun_induction importsFrom lineStart s with
  | case1 => exact Nat.zero_le _
  | case2 b c rest path after h ih =>
    split at h
    · have := count_quote_of_importAt? h
      rw [List.length_cons]
      omega
    · cases h
  | case3 b c rest _ path after h ih =>
    split at h
    · have hle := count_quote_of_importAt? h
      have hcons := List.count_le_count_cons (a := '"') (b := c) (l := rest)
      rw [List.length_cons]
      omega
    · cases h
  | case4 b c rest _ _ ih =>
    exact Nat.le_trans ih List.count_le_count_cons

theorem importsFrom_unfound {s : List Char} (h : importAt? s = none) :
    importsFrom true s = importsFrom false s := by
  cases s with
  | nil => rw [importsFrom, importsFrom]
  | cons c rest =>
    rw [importsFrom, importsFrom]
    split
    · rename_i h'
      rw [if_pos rfl, h] at h'
      cases h'
    · rfl

/-- No import is found in a text without double quotes. -/
theorem importsFrom_of_notMem {b : Bool} {s : List Char} (h : '"' ∉ s) : importsFrom b s = [] := by
  have hle := two_mul_length_importsFrom_le b s
  rw [List.count_eq_zero.2 h] at hle
  exact List.eq_nil_of_length_eq_zero (by omega)

theorem importAt?_cons_blank {c : Char} (h : isBlank c = true) (s : List Char) :
    importAt? (c :: s) = importAt? s := by
  unfold importAt?
  rw [List.dropWhile_cons_of_pos h]

/-- A statement can begin behind a semicolon as it can where a line begins. -/
theorem importsFrom_semicolon (s : List Char) :
    importsFrom false (';' :: s) = importsFrom true s := by
  cases h : importAt? s with
  | none =>
    rw [importsFrom_unfound h, importsFrom]
    split
    · rename_i hf
      cases hf
    · split
      · rename_i hf
        rw [if_pos (beq_self_eq_true ';'), h] at hf
        cases hf
      · rfl
  | some found =>
    rw [importsFrom_found h, importsFrom]
    split
    · rename_i hf
      cases hf
    · split
      · rename_i hf
        rw [if_pos (beq_self_eq_true ';'), h] at hf
        cases hf
        rfl
      · rename_i hf
        rw [if_pos (beq_self_eq_true ';'), h] at hf
        cases hf

/-- White space where a line begins changes nothing. -/
theorem importsFrom_cons_blank {c : Char} (hc : isBlank c = true) (s : List Char) :
    importsFrom true (c :: s) = importsFrom true s := by
  have hat := importAt?_cons_blank hc s
  cases h : importAt? s with
  | none =>
    have hsemi : c ≠ ';' := by
      rintro rfl
      cases hc
    rw [importsFrom_unfound (hat.trans h), importsFrom_cons hsemi]
    cases c == '\n' with
    | true => rfl
    | false => rw [importsFrom_unfound h]
  | some found => rw [importsFrom_found (hat.trans h), importsFrom_found h]

theorem importsFrom_blank_append {w : List Char} (hw : ∀ c ∈ w, isBlank c = true) (s : List Char) :
    importsFrom true (w ++ s) = importsFrom true s := by
  induction w with
  | nil => rfl
  | cons c w ih =>
    rw [List.forall_mem_cons] at hw
    rw [List.cons_append, importsFrom_cons_blank hw.1, ih hw.2]

/-! ## Sources of import statements -/

/-- White space. -/
structure Blanks where
  chars : List Char
  blank : ∀ c ∈ chars, isBlank c = true

/-- A path that an import statement can name. -/
structure ImportPath where
  chars : List Char
  ne_nil : chars ≠ []
  noQuote : '"' ∉ chars
  noComment : NoComment chars

/-- The word in front of the path of an import. -/
inductive ImportKind where
  | plain
  | exported
  | weak
  deriving DecidableEq, Repr

/-- The word with the space behind it. -/
def ImportKind.text : ImportKind → List Char
  | .plain => []
  | .exported => "public".toList ++ [' ']
  | .weak => "weak".toList ++ [' ']

structure ImportStatement where
  kind : ImportKind
  path : ImportPath

/-- A statement up to the quote that opens its path. -/
def ImportKind.opening (k : ImportKind) : List Char :=
  "import".toList ++ ([' '] ++ (k.text ++ ['"']))

/-- The statement as it is written. -/
def ImportStatement.text (i : ImportStatement) : List Char :=
  i.kind.opening ++ (i.path.chars ++ ['"', ';'])

/-- Statements, each with the white space in front of it. -/
def source (l : List (Blanks × ImportStatement)) : List Char :=
  l.flatMap fun x => x.1.chars ++ x.2.text

theorem ImportKind.opening_eq (k : ImportKind) :
    k.opening = "import".toList ++ ([' '] ++ (k.text ++ ['"'])) := rfl

theorem ImportKind.qualifier (k : ImportKind) : Qualifier k.text := by
  cases k with
  | plain => exact .plain
  | exported => exact .exported isBlank_of_mem_space (List.cons_ne_nil _ _)
  | weak => exact .weak isBlank_of_mem_space (List.cons_ne_nil _ _)

theorem source_cons (w : Blanks) (i : ImportStatement) (l : List (Blanks × ImportStatement)) :
    source ((w, i) :: l) = w.chars ++ (i.text ++ source l) := by
  rw [source, List.flatMap_cons, List.append_assoc]
  rfl

theorem Blanks.notMem (w : Blanks) {c : Char} (hc : isBlank c = false) : c ∉ w.chars := by
  intro h
  rw [w.blank c h] at hc
  cases hc

theorem ImportStatement.getLast?_text (i : ImportStatement) : i.text.getLast? = some ';' := by
  rw [ImportStatement.text, List.getLast?_append, List.getLast?_append]
  rfl

theorem ImportStatement.noComment (i : ImportStatement) : NoComment i.text := by
  have hopening : '/' ∉ i.kind.opening := by
    cases i.kind <;> decide
  have hlast : i.kind.opening.getLast? = some '"' := by
    cases i.kind <;> decide
  have hpath : NoComment (i.path.chars ++ ['"', ';']) :=
    i.path.noComment.append (noComment_of_slash_notMem (by decide)) fun _ => by decide
  refine (noComment_of_slash_notMem hopening).append hpath fun h => ?_
  rw [hlast] at h
  cases h

theorem noComment_source (l : List (Blanks × ImportStatement)) : NoComment (source l) := by
  induction l with
  | nil => exact noComment_of_slash_notMem List.not_mem_nil
  | cons x l ih =>
    obtain ⟨w, i⟩ := x
    have hw : '/' ∉ w.chars := w.notMem (by decide)
    rw [source_cons]
    refine (noComment_of_slash_notMem hw).append (i.noComment.append ih fun h => ?_) fun h => ?_
    · rw [i.getLast?_text] at h
      cases h
    · exact absurd (List.mem_of_mem_getLast? h) hw

theorem ImportStatement.count_quote_text (i : ImportStatement) : i.text.count '"' = 2 := by
  have ho : i.kind.opening.count '"' = 1 := by
    cases i.kind <;> decide
  have hp : i.path.chars.count '"' = 0 := List.count_eq_zero.2 i.path.noQuote
  rw [ImportStatement.text, List.count_append, List.count_append, ho, hp]
  rfl

/-- A source has two quotes for each of its statements. -/
theorem count_quote_source (l : List (Blanks × ImportStatement)) :
    (source l).count '"' = 2 * l.length := by
  induction l with
  | nil => rfl
  | cons x l ih =>
    obtain ⟨w, i⟩ := x
    have hw : w.chars.count '"' = 0 := List.count_eq_zero.2 (w.notMem (by decide))
    rw [source_cons, List.count_append, List.count_append, hw, i.count_quote_text, ih,
      List.length_cons]
    omega

/-! ## Which statements are found -/

/-- A statement behind white space, as `importAt?` reads it. -/
theorem importAt?_text (w : Blanks) (i : ImportStatement) (rest : List Char) :
    importAt? (w.chars ++ (i.text ++ rest)) = some (i.path.chars, rest) := by
  have hnone : ∀ c ∈ [], isBlank c = true := fun c hc => absurd hc List.not_mem_nil
  have h := importAt?_statement w.blank isBlank_of_mem_space (List.cons_ne_nil _ _)
    i.kind.qualifier i.path.ne_nil i.path.noQuote hnone rest
  rw [← h, ImportStatement.text, ImportKind.opening_eq]
  simp only [List.append_assoc, List.cons_append, List.nil_append]

/-- Behind white space with a line feed a statement is found. -/
theorem importsFrom_newline {w : Blanks} (h : '\n' ∈ w.chars) (i : ImportStatement)
    (rest : List Char) :
    importsFrom false (w.chars ++ (i.text ++ rest)) = i.path.chars :: importsFrom false rest := by
  obtain ⟨u, v, hw, hu⟩ := List.eq_append_cons_of_mem h
  have hskip : ∀ c ∈ u, c ≠ ';' ∧ c ≠ '\n' := by
    intro c hc
    have hb := w.blank c (by rw [hw]; exact List.mem_append_left _ hc)
    refine ⟨?_, ?_⟩
    · rintro rfl
      exact absurd hb (by decide)
    · rintro rfl
      exact hu hc
  have hv : ∀ c ∈ v, isBlank c = true := by
    intro c hc
    exact w.blank c (by rw [hw]; exact List.mem_append_right _ (List.mem_cons_of_mem _ hc))
  rw [hw, List.append_assoc, importsFrom_skip hskip, List.cons_append,
    importsFrom_cons (by decide), beq_self_eq_true]
  exact importsFrom_found (importAt?_text ⟨v, hv⟩ i rest)

/-- Behind other white space a statement is passed over up to its path, and what is left has too
few quotes for all that follow. -/
theorem length_importsFrom_sameLine {w : Blanks} (h : '\n' ∉ w.chars) (i : ImportStatement)
    (l : List (Blanks × ImportStatement)) :
    (importsFrom false (w.chars ++ (i.text ++ source l))).length ≤ l.length := by
  have hw : ∀ c ∈ w.chars, c ≠ ';' ∧ c ≠ '\n' := by
    intro c hc
    refine ⟨?_, ?_⟩
    · rintro rfl
      exact w.notMem (by decide) hc
    · rintro rfl
      exact h hc
  have ho : ∀ c ∈ i.kind.opening, c ≠ ';' ∧ c ≠ '\n' := by
    have hsemi : ';' ∉ i.kind.opening := by cases i.kind <;> decide
    have hfeed : '\n' ∉ i.kind.opening := by cases i.kind <;> decide
    exact fun c hc => ⟨fun he => hsemi (he ▸ hc), fun he => hfeed (he ▸ hc)⟩
  have hp : i.path.chars.count '"' = 0 := List.count_eq_zero.2 i.path.noQuote
  have hle := two_mul_length_importsFrom_le false (i.path.chars ++ (['"', ';'] ++ source l))
  rw [List.count_append, List.count_append, hp, count_quote_source,
    show ['"', ';'].count '"' = 1 from rfl] at hle
  rw [importsFrom_skip hw, ImportStatement.text, List.append_assoc, List.append_assoc,
    importsFrom_skip ho]
  omega

theorem importsFrom_source_iff (l : List (Blanks × ImportStatement)) :
    importsFrom false (source l) = l.map (fun x => x.2.path.chars) ↔
      ∀ x ∈ l, '\n' ∈ x.1.chars := by
  induction l with
  | nil => simp [source, importsFrom]
  | cons x l ih =>
    obtain ⟨w, i⟩ := x
    rw [List.forall_mem_cons, source_cons, List.map_cons]
    by_cases h : '\n' ∈ w.chars
    · rw [importsFrom_newline h, ← ih]
      simp [h]
    · refine ⟨fun he => ?_, fun hall => absurd hall.1 h⟩
      have hlen := length_importsFrom_sameLine h i l
      rw [he, List.length_cons, List.length_map] at hlen
      omega

/-- **Import statements that are all found**: those of a source in which the white space between
any two of them holds a line feed, and of no other source. -/
theorem scanImports_source_iff (l : List (Blanks × ImportStatement)) :
    scanImports (source l) = l.map (fun x => String.ofList x.2.path.chars) ↔
      ∀ x ∈ l.tail, '\n' ∈ x.1.chars := by
  have hmap : l.map (fun x => String.ofList x.2.path.chars) =
      (l.map fun x => x.2.path.chars).map String.ofList := by
    rw [List.map_map]
    rfl
  rw [scanImports, stripComments_of_noComment (noComment_source l), hmap,
    (List.map_injective_iff.2 fun _ _ => String.ofList_injective).eq_iff]
  cases l with
  | nil => simp [source, importsFrom]
  | cons x l =>
    obtain ⟨w, i⟩ := x
    rw [source_cons, importsFrom_found (importAt?_text w i (source l)), List.map_cons,
      List.tail_cons, ← importsFrom_source_iff l]
    simp

/-- Two imports with a space between them. -/
def sharedLine : List (Blanks × ImportStatement) :=
  [(⟨[], fun _ hc => absurd hc List.not_mem_nil⟩, ⟨.plain, "a.proto".toList, by decide, by decide,
      noComment_of_slash_notMem (by decide)⟩),
    (⟨[' '], isBlank_of_mem_space⟩, ⟨.plain, "b.proto".toList, by decide, by decide,
      noComment_of_slash_notMem (by decide)⟩)]

/-- The second of two imports on one line is not found. -/
theorem scanImports_sharedLine :
    source sharedLine = "import \"a.proto\"; import \"b.proto\";".toList ∧
      scanImports (source sharedLine) = ["a.proto"] := by
  decide +kernel

end ProtoCheck.Schema
