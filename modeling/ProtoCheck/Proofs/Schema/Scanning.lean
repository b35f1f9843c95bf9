import ProtoCheck.Proofs.Schema.Literals

/-!
# Imports beside literals

From `//` in a literal on a line is lost, and so is what lies between the start mark of a block
comment and the next end mark, literals in between included. What is found is known where block
comments take no import, and where there are none.

* `foundPaths` : the paths of the imports that can be found;
* `Sheltered`, `importsFrom_of_sheltered` : block comments begin and end between imports;
* `Unblocked`, `importsFrom_of_unblocked` : there are no block comments;
* `scanImports_onLines` : what is found in either case.
-/

namespace ProtoCheck.Schema

open Text

/-! ## Comments between imports -/

/-- Imports in double quotes have no line comment in them, and no block comment that begins in front
of one of them or in it ends in it or behind it. -/
structure Sheltered (l : List Statement) : Prop where
  uncut : ∀ x ∈ l, x.Candidate → ¬ ['/', '/'] <:+: x.literal.chars
  apart : ∀ before x after, l = before ++ x :: after → x.Candidate →
    ∀ y ∈ before ++ [x], y.Opens → ∀ z ∈ x :: after, ¬ z.Closes

theorem Sheltered.tail {x : Statement} {l : List Statement} (h : Sheltered (x :: l)) :
    Sheltered l where
  uncut y hy := h.uncut y (List.mem_cons_of_mem x hy)
  apart before y after hl hp z hz := by
    rw [hl] at h
    exact h.apart (x :: before) y after rfl hp z (List.mem_cons_of_mem x hz)

theorem Sheltered.of_append {before l : List Statement} (h : Sheltered (before ++ l)) :
    Sheltered l := by
  induction before with
  | nil => exact h
  | cons x before ih => exact ih h.tail

/-- What a block comment takes that begins in the first literal holds no import in double quotes. -/
theorem Sheltered.not_candidate {x y : Statement} {gone l' : List Statement}
    (h : Sheltered (x :: (gone ++ y :: l'))) (hx : x.Opens) (hy : y.Closes) :
    ∀ z ∈ gone ++ [y], ¬ z.Candidate := by
  intro z hz hp
  have hmem : ∃ before after, gone ++ y :: l' = before ++ z :: after ∧ y ∈ z :: after := by
    rcases List.mem_append.1 hz with hz | hz
    · obtain ⟨g, g', rfl⟩ := List.append_of_mem hz
      exact ⟨g, g' ++ y :: l', by simp, by simp⟩
    · rw [List.mem_singleton.1 hz]
      exact ⟨gone, l', rfl, List.mem_cons_self⟩
  obtain ⟨before, after, hl, hy'⟩ := hmem
  exact h.apart (x :: before) z after (by rw [hl]; rfl) hp x List.mem_cons_self hx y hy' hy

/-- Scanning goes on with the lines behind those, without imports in double quotes, that a block
comment takes. -/
def Resumes (l : List Statement) (n : Nat) (s : List Char) : Prop :=
  ∃ gone l', l = gone ++ l' ∧ (∀ y ∈ gone, ¬ y.Candidate) ∧
    importsFrom false s = importsFrom false (stripComments (below l' n))

theorem resumes_of_eq {l : List Statement} {n : Nat} {s : List Char}
    (h : importsFrom false s = importsFrom false (stripComments (below l n))) : Resumes l n s :=
  ⟨[], l, rfl, fun _ hy => absurd hy List.not_mem_nil, h⟩

theorem Resumes.append {gone l : List Statement} {n : Nat} {s : List Char} (h : Resumes l n s)
    (hg : ∀ y ∈ gone, ¬ y.Candidate) : Resumes (gone ++ l) n s := by
  obtain ⟨gone', l', rfl, hgone, hs⟩ := h
  refine ⟨gone ++ gone', l', (List.append_assoc _ _ _).symm, ?_, hs⟩
  exact fun y hy => (List.mem_append.1 hy).elim (hg y) (hgone y)

/-- Behind the opening quote of a statement that is not found, or behind a comment that ends in it,
scanning goes on with the lines below. -/
theorem resumes_stripComments {x : Statement} {l : List Statement} {n : Nat} (c : List Char)
    (hc : c <:+ x.literal.chars) (h : Sheltered (x :: l))
    (hquiet : ∀ y ∈ x :: l, ¬ y.Candidate → y.Quiet) (hx : ¬ x.Candidate) :
    Resumes l n (stripComments (c ++ x.quote :: ';' :: below l n)) := by
  match c, hc with
  | [], _ => exact resumes_of_eq (importsFrom_quote x l n)
  | a :: c, hc =>
    by_cases hline : ['/', '/'] <+: a :: c
    · rw [stripComments_front (fun hm => x.literal.notMem (by decide) (hc.mem hm))
        x.quote_ne.2.2.2 hline, dropWhile_below]
      exact resumes_of_eq rfl
    · by_cases hblock : ∃ v r, a :: c = '/' :: '*' :: v ∧
          afterBlock? (v ++ x.quote :: ';' :: below l n) = some r
      · obtain ⟨v, r, hv, hr⟩ := hblock
        have hopens : x.Opens := by
          obtain ⟨u, hu⟩ := hc
          exact ⟨u, v, by rw [← hu, hv]; simp⟩
        rw [hv] at hc ⊢
        rw [List.cons_append, List.cons_append, stripComments_block hr]
        rcases afterBlock?_cases hr with ⟨c', hc', rfl⟩ | ⟨gone, y, l', c', rfl, hy, rfl⟩
        -- the comment ends in the same literal
        · obtain ⟨u, rfl⟩ := exists_of_afterBlock? hc'
          have hlen : c'.length < (a :: c).length := by
            rw [hv]
            simp
            omega
          have hsuffix : c' <:+ '/' :: '*' :: (u ++ '*' :: '/' :: c') :=
            ⟨'/' :: '*' :: (u ++ ['*', '/']), by simp⟩
          exact resumes_stripComments c' (hsuffix.trans hc) h hquiet hx
        -- it ends in a later one, and takes the lines up to there
        · have hgone := h.not_candidate hopens (Statement.closes_of_afterBlock? hy)
          obtain ⟨u, hu⟩ := exists_of_afterBlock? hy
          have hsuffix : c' <:+ y.literal.chars := ⟨u ++ ['*', '/'], by rw [hu]; simp⟩
          have hrest : Resumes l' n (stripComments (c' ++ y.quote :: ';' :: below l' n)) :=
            resumes_stripComments c' hsuffix h.tail.of_append
              (fun z hz => hquiet z (List.mem_cons_of_mem x (List.mem_append_right gone hz)))
              (hgone y (List.mem_append_right _ (List.mem_singleton_self y)))
          have happend := hrest.append hgone
          rwa [List.append_assoc] at happend
      · have hopen : ∀ v, a :: c = '/' :: '*' :: v →
            afterBlock? (v ++ x.quote :: ';' :: below l n) = none := by
          intro v hv
          by_contra hne
          obtain ⟨r, hr⟩ := Option.ne_none_iff_exists'.1 hne
          exact hblock ⟨v, r, hv, hr⟩
        obtain ⟨gone, l', hl, hgone, hs⟩ :=
          resumes_stripComments (n := n) c ((List.suffix_cons a c).trans hc) h hquiet hx
        refine ⟨gone, l', hl, hgone, ?_⟩
        rw [List.cons_append, stripComments_step x.quote_ne.1 x.quote_ne.2.1 hline hopen,
          (hquiet x List.mem_cons_self hx).importsFrom_cons hc, hs]
termination_by (l.length, c.length)

/-! ## Imports that are found -/

theorem Statement.Found.importAt? {x : Statement} (hx : x.Found) (s : List Char) :
    importAt? (x.head ++ x.quote :: (x.literal.chars ++ x.quote :: ';' :: s)) =
      some (x.literal.chars, s) := by
  obtain ⟨⟨hpath, hquote⟩, hne, -⟩ := hx
  cases x with
  | sets name value => cases hpath
  | imports kind path =>
    have hq : (Statement.imports kind path).quote = '"' := congrArg Quote.char hquote
    have hmem : '"' ∉ path.chars := path.notMem (by decide)
    have hne : path.chars ≠ [] := hne
    obtain ⟨htake, hdrop⟩ := quoted_path hmem (';' :: s)
    rw [hq, importAt?_head_import kind path (by decide) (by decide) (by decide), after?_singleton,
      Option.bind_some]
    show (after? ['"'] ((path.chars ++ '"' :: ';' :: s).dropWhile (· != '"'))).bind _ = _
    rw [hdrop, after?_singleton, Option.bind_some, List.dropWhile_cons_of_neg (by decide),
      after?_singleton, Option.bind_some]
    show (if ((path.chars ++ '"' :: ';' :: s).takeWhile (· != '"')).isEmpty then none
      else some ((path.chars ++ '"' :: ';' :: s).takeWhile (· != '"'), s)) = _
    rw [htake, List.isEmpty_eq_false_iff.2 hne]
    rfl

section Line
variable {x : Statement} {l : List Statement} {n : Nat}
  (h : x.Opens → ∀ y ∈ x :: l, ¬ y.Closes)
include h

theorem stripComments_intact_below (hline : ¬ ['/', '/'] <:+: x.literal.chars) :
    stripComments (x.literal.chars ++ x.quote :: ';' :: below l n) =
      x.literal.chars ++ x.quote :: ';' :: stripComments (below l n) := by
  rw [stripComments_intact x.quote_ne.1 x.quote_ne.2.1
    (fun u v hv => afterBlock?_eq_none_of_not_closes h hv) hline, stripComments_semicolon]

theorem stripComments_cut_below (hline : ['/', '/'] <:+: x.literal.chars) :
    ∃ c, c <+: x.literal.chars ∧ stripComments (x.literal.chars ++ x.quote :: ';' :: below l n) =
      c ++ stripComments (below l n) := by
  obtain ⟨c, hc, heq⟩ := stripComments_cut x.quote_ne.1 x.quote_ne.2.1
    (fun u v hv => afterBlock?_eq_none_of_not_closes h hv)
    (x.literal.notMem (by decide)) x.quote_ne.2.2.2 hline
  rw [dropWhile_below] at heq
  exact ⟨c, hc, heq⟩

/-- An import is found when it can be, and no block comment begins in it. -/
theorem Statement.Found.importsFrom_below (hx : x.Found) :
    importsFrom false (stripComments (below (x :: l) n)) =
      x.literal.chars :: importsFrom false (stripComments (below l n)) := by
  rw [stripComments_below_cons, stripComments_intact_below h hx.2.2,
    importsFrom_cons (by decide), beq_self_eq_true, importsFrom_found (hx.importAt? _)]

end Line

theorem Statement.Candidate.path?_eq {x : Statement} (h : x.Candidate) :
    x.path? = some x.literal.chars := by
  cases x with
  | imports kind path => rfl
  | sets name value => cases h.1

/-- The paths of the imports that can be found. -/
def foundPaths (l : List Statement) : List (List Char) :=
  (l.filter Statement.Found).filterMap Statement.path?

theorem foundPaths_cons_of_found {x : Statement} (hx : x.Found) (l : List Statement) :
    foundPaths (x :: l) = x.literal.chars :: foundPaths l := by
  rw [foundPaths, List.filter_cons_of_pos (by simpa using hx),
    List.filterMap_cons_some hx.1.path?_eq, foundPaths]

theorem foundPaths_cons_of_not_found {x : Statement} (hx : ¬ x.Found) (l : List Statement) :
    foundPaths (x :: l) = foundPaths l := by
  rw [foundPaths, List.filter_cons_of_neg (by simpa using hx), foundPaths]

theorem foundPaths_append_of_not_candidate {gone : List Statement}
    (h : ∀ y ∈ gone, ¬ y.Candidate) (l : List Statement) :
    foundPaths (gone ++ l) = foundPaths l := by
  have hnil : gone.filter Statement.Found = [] :=
    List.filter_eq_nil_iff.2 fun y hy hf => h y hy (of_decide_eq_true hf).1
  rw [foundPaths, List.filter_append, hnil, List.nil_append, foundPaths]

theorem importsFrom_below_nil (n : Nat) :
    importsFrom false (stripComments (below [] n)) = [] := by
  rw [stripComments_below_nil]
  exact importsFrom_of_notMem fun h => absurd (List.eq_of_mem_replicate h) (by decide)

/-- The first double quote of a text does not close the path of an import. -/
def Unended (s : List Char) : Prop :=
  ∀ t, s.dropWhile (· != '"') = '"' :: t → after? [';'] (t.dropWhile isBlank) = none

/-- No import has a path that is empty or not closed. -/
theorem importAt?_candidate {x : Statement} (hx : x.Candidate) {t : List Char}
    (ht : t.takeWhile (· != '"') = [] ∨ Unended t) : importAt? (x.head ++ x.quote :: t) = none := by
  obtain ⟨hpath, hquote⟩ := hx
  cases x with
  | sets name value => cases hpath
  | imports kind path =>
    have hq : (Statement.imports kind path).quote = '"' := congrArg Quote.char hquote
    rw [hq, importAt?_head_import kind path (by decide) (by decide) (by decide), after?_singleton,
      Option.bind_some]
    cases ha : after? ['"'] (t.dropWhile (· != '"')) with
    | none => rfl
    | some r =>
      rw [Option.bind_some]
      rcases ht with hnil | hunended
      · rw [hnil]
        exact Option.bind_fun_none _
      · rw [hunended r (after?_eq_some_iff.1 ha)]
        rfl

/-- An import of no path is not found. -/
theorem importAt?_candidate_empty {x : Statement} (hx : x.Candidate) (s : List Char) :
    importAt? (x.head ++ x.quote :: x.quote :: s) = none := by
  have hq : x.quote = '"' := congrArg Quote.char hx.2
  refine importAt?_candidate hx (.inl ?_)
  rw [hq]
  exact List.takeWhile_cons_of_neg (by decide)

/-- When block comments begin and end between imports in double quotes, those are found that have a
path. -/
theorem importsFrom_of_sheltered {n : Nat} (l : List Statement) (h : Sheltered l)
    (hquiet : ∀ x ∈ l, ¬ x.Candidate → x.Quiet) :
    importsFrom false (stripComments (below l n)) = foundPaths l := by
  match l with
  | [] => exact importsFrom_below_nil n
  | x :: l =>
    have hrest : ∀ y ∈ l, ¬ y.Candidate → y.Quiet :=
      fun y hy => hquiet y (List.mem_cons_of_mem x hy)
    by_cases hx : x.Candidate
    · have hopen : x.Opens → ∀ y ∈ x :: l, ¬ y.Closes :=
        h.apart [] x l rfl hx x (List.mem_singleton_self x)
      have hline := h.uncut x List.mem_cons_self hx
      by_cases hnil : x.literal.chars = []
      · have hno : ¬ x.Found := fun hf => hf.2.1 hnil
        rw [stripComments_below_cons, hnil, List.nil_append, importsFrom_passed,
          importsFrom_quote, importsFrom_of_sheltered l h.tail hrest,
          foundPaths_cons_of_not_found hno]
        rw [stripComments_cons fun h => absurd h x.quote_ne.1]
        exact importAt?_candidate_empty hx _
      · have hfound : x.Found := ⟨hx, hnil, hline⟩
        rw [hfound.importsFrom_below hopen, importsFrom_of_sheltered l h.tail hrest,
          foundPaths_cons_of_found hfound]
    · obtain ⟨gone, l', rfl, hgone, hs⟩ :=
        resumes_stripComments (n := n) x.literal.chars List.suffix_rfl h hquiet hx
      have hrest' : ∀ y ∈ l', ¬ y.Candidate → y.Quiet :=
        fun y hy => hrest y (List.mem_append_right gone hy)
      have hno : ¬ x.Found := fun hf => hx hf.1
      rw [stripComments_below_cons, importsFrom_passed (importAt?_of_not_candidate hx _), hs,
        importsFrom_of_sheltered l' h.tail.of_append hrest', foundPaths_cons_of_not_found hno,
        foundPaths_append_of_not_candidate hgone]
termination_by l.length

/-! ## Sources without block comments -/

/-- No block comment begins in a literal and ends in it or behind it, and no literal begins with a
semicolon. -/
structure Unblocked (l : List Statement) : Prop where
  apart : l.Pairwise fun x y => x.Opens → ¬ y.Closes
  own : ∀ x ∈ l, x.Opens → ¬ x.Closes
  start : ∀ x ∈ l, ';' ∉ (x.literal.chars.dropWhile isBlank).head?

theorem Unblocked.tail {x : Statement} {l : List Statement} (h : Unblocked (x :: l)) :
    Unblocked l where
  apart := (List.pairwise_cons.1 h.apart).2
  own y hy := h.own y (List.mem_cons_of_mem x hy)
  start y hy := h.start y (List.mem_cons_of_mem x hy)

theorem Unblocked.not_closes {x : Statement} {l : List Statement} (h : Unblocked (x :: l))
    (hx : x.Opens) : ∀ y ∈ x :: l, ¬ y.Closes :=
  List.forall_mem_cons.2 ⟨h.own x List.mem_cons_self hx,
    fun y hy => (List.pairwise_cons.1 h.apart).1 y hy hx⟩

/-- What is left of a literal and of the lines behind it: all of it, or a part without an end. -/
theorem Unblocked.stripComments_eq {x : Statement} {l : List Statement} {n : Nat}
    (h : Unblocked (x :: l)) :
    ¬ ['/', '/'] <:+: x.literal.chars ∧
        stripComments (x.literal.chars ++ x.quote :: ';' :: below l n) =
          x.literal.chars ++ x.quote :: ';' :: stripComments (below l n) ∨
      ['/', '/'] <:+: x.literal.chars ∧ ∃ c, c <+: x.literal.chars ∧
        stripComments (x.literal.chars ++ x.quote :: ';' :: below l n) =
          c ++ stripComments (below l n) := by
  by_cases hline : ['/', '/'] <:+: x.literal.chars
  · exact .inr ⟨hline, stripComments_cut_below h.not_closes hline⟩
  · exact .inl ⟨hline, stripComments_intact_below h.not_closes hline⟩

/-- A quiet literal is passed over with the end of its line. -/
theorem Unblocked.importsFrom_eq {x : Statement} {l : List Statement} {n : Nat}
    (h : Unblocked (x :: l)) (hx : x.Quiet) {c : List Char} (hc : c <:+ x.literal.chars) :
    importsFrom false (stripComments (c ++ x.quote :: ';' :: below l n)) =
      importsFrom false (stripComments (below l n)) := by
  induction c with
  | nil => exact importsFrom_quote x l n
  | cons a c ih =>
    by_cases hline : ['/', '/'] <+: a :: c
    · rw [stripComments_front (fun hm => x.literal.notMem (by decide) (hc.mem hm))
        x.quote_ne.2.2.2 hline, dropWhile_below]
    · have hopen : ∀ v, a :: c = '/' :: '*' :: v →
          afterBlock? (v ++ x.quote :: ';' :: below l n) = none := by
        intro v hv
        obtain ⟨u, hu⟩ := hc
        rw [hv] at hu
        exact afterBlock?_eq_none_of_not_closes h.not_closes hu.symm
      rw [List.cons_append, stripComments_step x.quote_ne.1 x.quote_ne.2.1 hline hopen,
        hx.importsFrom_cons hc, ih ((List.suffix_cons a c).trans hc)]

/-! ### Paths that are not closed -/

theorem notMem_head?_dropWhile {u s : List Char} (hu : ';' ∉ (u.dropWhile isBlank).head?)
    (hs : ';' ∉ (s.dropWhile isBlank).head?) : ';' ∉ ((u ++ s).dropWhile isBlank).head? := by
  induction u with
  | nil => exact hs
  | cons a u ih =>
    by_cases ha : isBlank a = true
    · rw [List.dropWhile_cons_of_pos ha] at hu
      rw [List.cons_append, List.dropWhile_cons_of_pos ha]
      exact ih hu
    · rw [List.dropWhile_cons_of_neg ha] at hu
      rw [List.cons_append, List.dropWhile_cons_of_neg ha]
      exact hu

theorem notMem_head?_of_front {c c' : List Char} (h : ';' ∉ (c.dropWhile isBlank).head?)
    (hc : c' <+: c) : ';' ∉ (c'.dropWhile isBlank).head? := by
  obtain ⟨t, rfl⟩ := hc
  induction c' with
  | nil => exact fun h => nomatch h
  | cons a c' ih =>
    by_cases ha : isBlank a = true
    · rw [List.cons_append, List.dropWhile_cons_of_pos ha] at h
      rw [List.dropWhile_cons_of_pos ha]
      exact ih h
    · rw [List.cons_append, List.dropWhile_cons_of_neg ha] at h
      rw [List.dropWhile_cons_of_neg ha]
      exact h

/-- No semicolon stands first on a line. -/
theorem notMem_head?_below (l : List Statement) (n : Nat) :
    ';' ∉ ((stripComments (below l n)).dropWhile isBlank).head? := by
  cases l with
  | nil =>
    have hblank : (List.replicate n '\n').dropWhile isBlank = [] :=
      List.dropWhile_eq_nil_iff.2 fun c hc => List.eq_of_mem_replicate hc ▸ rfl
    rw [stripComments_below_nil, hblank]
    exact fun h => nomatch h
  | cons x l =>
    rw [stripComments_below_cons, List.dropWhile_cons_of_pos rfl]
    cases x with
    | imports kind path => exact fun h => absurd (Option.some.inj h) (by decide)
    | sets name value => exact fun h => absurd (Option.some.inj h) (by decide)

theorem after?_semicolon_eq_none {s : List Char} (h : ';' ∉ s.head?) : after? [';'] s = none := by
  cases ha : after? [';'] s with
  | none => rfl
  | some r =>
    rw [after?_eq_some_iff.1 ha] at h
    exact absurd rfl h

theorem Unended.append {u s : List Char} (h : Unended s) (hu : '"' ∉ u) : Unended (u ++ s) := by
  intro t ht
  refine h t ?_
  rw [← ht, List.dropWhile_append_of_pos]
  intro c hc
  rw [bne_iff_ne]
  rintro rfl
  exact hu hc

theorem unended_below {l : List Statement} {n : Nat} (h : Unblocked l) :
    Unended (stripComments (below l n)) := by
  induction l with
  | nil =>
    intro t ht
    have hmem : '"' ∈ (stripComments (below [] n)).dropWhile (· != '"') :=
      ht ▸ List.mem_cons_self
    rw [stripComments_below_nil] at hmem
    exact absurd (List.eq_of_mem_replicate ((List.dropWhile_suffix _).mem hmem)) (by decide)
  | cons x l ih =>
    have hchars : '"' ∉ x.literal.chars := x.literal.notMem (by decide)
    have hstart := h.start x List.mem_cons_self
    have hhead : '"' ∉ '\n' :: x.head := by
      rw [List.mem_cons, not_or]
      exact ⟨by decide, x.notMem_head (by decide)⟩
    rw [stripComments_below_cons]
    refine Unended.append (u := '\n' :: x.head) ?_ hhead
    cases hq : x.literal.quote with
    | single =>
      have hquote : x.quote = '\'' := congrArg Quote.char hq
      have hsingle : '"' ∉ [x.quote] := by
        rw [hquote]
        decide
      refine Unended.append (u := [x.quote]) ?_ hsingle
      rcases h.stripComments_eq (n := n) with ⟨-, heq⟩ | ⟨-, c, hc, heq⟩
      · rw [heq]
        refine Unended.append ?_ hchars
        refine Unended.append (u := [x.quote, ';']) (ih h.tail) ?_
        rw [hquote]
        decide
      · rw [heq]
        exact (ih h.tail).append fun hm => hchars (hc.mem hm)
    -- the quote opens a literal, and no semicolon stands first in it or on a line
    | double =>
      have hquote : x.quote = '"' := congrArg Quote.char hq
      intro t ht
      rw [hquote, List.dropWhile_cons_of_neg (by decide)] at ht
      rw [← List.tail_eq_of_cons_eq ht, ← hquote]
      apply after?_semicolon_eq_none
      rcases h.stripComments_eq (n := n) with ⟨-, heq⟩ | ⟨-, c, hc, heq⟩
      · rw [heq]
        refine notMem_head?_dropWhile hstart ?_
        rw [hquote]
        exact fun h => absurd (Option.some.inj h) (by decide)
      · rw [heq]
        exact notMem_head?_dropWhile (notMem_head?_of_front hstart hc) (notMem_head?_below l n)

/-- A statement that is not found begins nothing that is. -/
theorem Unblocked.importAt?_eq_none {x : Statement} {l : List Statement} {n : Nat}
    (h : Unblocked (x :: l)) (hx : ¬ x.Found) :
    importAt? (x.head ++ x.quote ::
      stripComments (x.literal.chars ++ x.quote :: ';' :: below l n)) = none := by
  by_cases hc : x.Candidate
  · rcases h.stripComments_eq (n := n) with ⟨hline, heq⟩ | ⟨-, c, hpre, heq⟩
    · have hnil : x.literal.chars = [] := by
        by_contra hne
        exact hx ⟨hc, hne, hline⟩
      rw [heq, hnil]
      exact importAt?_candidate_empty hc _
    · rw [heq]
      exact importAt?_candidate hc (.inr ((unended_below h.tail).append fun hm =>
        x.literal.notMem (by decide) (hpre.mem hm)))
  · exact importAt?_of_not_candidate hc _

/-- Without block comments the imports that can be found are. -/
theorem importsFrom_of_unblocked {l : List Statement} {n : Nat} (h : Unblocked l)
    (hquiet : ∀ x ∈ l, ¬ x.Found → x.Quiet) :
    importsFrom false (stripComments (below l n)) = foundPaths l := by
  induction l with
  | nil => exact importsFrom_below_nil n
  | cons x l ih =>
    rw [List.forall_mem_cons] at hquiet
    by_cases hx : x.Found
    · rw [hx.importsFrom_below h.not_closes, ih h.tail hquiet.2, foundPaths_cons_of_found hx]
    · rw [stripComments_below_cons, importsFrom_passed (h.importAt?_eq_none hx),
        h.importsFrom_eq (hquiet.1 hx) List.suffix_rfl, ih h.tail hquiet.2,
        foundPaths_cons_of_not_found hx]

/-! ## What is found -/

theorem scanImports_eq (l : List Statement) (n : Nat) : scanImports (onLines l n) =
    (importsFrom false (stripComments (below l n))).map String.ofList := by
  unfold scanImports
  congr 1
  cases l with
  | nil =>
    have honly : onLines [] n = below [] n := rfl
    rw [honly, importsFrom_below_nil, stripComments_below_nil]
    exact importsFrom_of_notMem fun h => absurd (List.eq_of_mem_replicate h) (by decide)
  | cons x l =>
    rw [← cons_onLines, stripComments_cons fun h => absurd h (by decide),
      importsFrom_cons (by decide), beq_self_eq_true]

/-- The paths that can be found are all that are imported when every import can be found. -/
theorem foundPaths_eq_iff {l : List Statement} :
    foundPaths l = l.filterMap Statement.path? ↔ ∀ x ∈ l, x.path?.isSome → x.Found := by
  induction l with
  | nil => exact ⟨fun _ x hx => absurd hx List.not_mem_nil, fun _ => rfl⟩
  | cons x l ih =>
    rw [List.forall_mem_cons, ← ih]
    by_cases hx : x.Found
    · rw [foundPaths_cons_of_found hx, List.filterMap_cons_some hx.1.path?_eq, List.cons_inj_right]
      exact ⟨fun h => ⟨fun _ => hx, h⟩, And.right⟩
    · rw [foundPaths_cons_of_not_found hx]
      cases hp : x.path? with
      | none =>
        rw [List.filterMap_cons_none hp]
        exact ⟨fun h => ⟨fun hs => (nomatch hs), h⟩, And.right⟩
      | some path =>
        -- a path is missing, and there are no others in its place
        have hle : (foundPaths l).length ≤ (l.filterMap Statement.path?).length :=
          (List.filter_sublist.filterMap Statement.path?).length_le
        rw [List.filterMap_cons_some hp]
        refine ⟨fun h => ?_, fun h => absurd (h.1 rfl) hx⟩
        rw [h, List.length_cons] at hle
        omega

/-- **Imports beside literals.** Let statements stand one per line, with quiet literals. When block
comments begin and end between imports in double quotes, and no line comment begins in one of these,
or when there are no block comments at all, exactly those imports are found, in order, whose paths
are in double quotes, not empty, and without the mark of a line comment. So all of them are when
each is such an import. -/
theorem scanImports_onLines (l : List Statement) (n : Nat)
    (hquiet : ∀ x ∈ l, ¬ x.Found → x.Quiet) (h : Sheltered l ∨ Unblocked l) :
    scanImports (onLines l n) = (foundPaths l).map String.ofList ∧
      (scanImports (onLines l n) = (l.filterMap Statement.path?).map String.ofList ↔
        ∀ x ∈ l, x.path?.isSome → x.Found) := by
  have hfound : scanImports (onLines l n) = (foundPaths l).map String.ofList := by
    rw [scanImports_eq]
    congr 1
    rcases h with h | h
    · exact importsFrom_of_sheltered l h fun x hx hc => hquiet x hx fun hf => hc hf.1
    · exact importsFrom_of_unblocked h hquiet
  refine ⟨hfound, ?_⟩
  rw [hfound, (List.map_injective_iff.2 fun _ _ => String.ofList_injective).eq_iff,
    foundPaths_eq_iff]

/-- An option with the start marks of both comments in its value, and an import behind it. -/
def marked : List Statement :=
  [.sets ⟨"go_package".toList, by decide⟩ ⟨.double, "https://x/*".toList, by decide⟩,
    .imports .plain ⟨.double, "b.proto".toList, by decide⟩]

/-- A block comment that does not end takes no import. -/
theorem scanImports_marked : scanImports (onLines marked 1) = ["b.proto"] := by
  have hsemicolon : ∀ x ∈ marked, ';' ∉ x.literal.chars := by decide
  have hcloses : ∀ x ∈ marked, ¬ x.Closes := by decide
  have h : Sheltered marked := by
    refine ⟨by decide, ?_⟩
    intro before x after hl _ _ _ _ z hz
    exact hcloses z (hl ▸ List.mem_append_right _ hz)
  exact (scanImports_onLines marked 1
    (fun x hx _ => Statement.quiet_of_notMem (hsemicolon x hx)) (.inl h)).1

/-- An import between two options with the marks of a block comment in their values. -/
def blocked : List Statement :=
  [.sets ⟨"a".toList, by decide⟩ ⟨.double, "/*".toList, by decide⟩,
    .imports .plain ⟨.double, "b.proto".toList, by decide⟩,
    .sets ⟨"c".toList, by decide⟩ ⟨.double, "*/".toList, by decide⟩]

/-- An import in single quotes. -/
def singled : List Statement := [.imports .plain ⟨.single, "a.proto".toList, by decide⟩]

/-- Neither import is found. -/
theorem scanImports_blocked :
    onLines blocked 0 = "option a = \"/*\";\nimport \"b.proto\";\noption c = \"*/\";".toList ∧
      blocked.filterMap Statement.path? = ["b.proto".toList] ∧
      scanImports (onLines blocked 0) = [] ∧
      onLines singled 0 = "import 'a.proto';".toList ∧
      singled.filterMap Statement.path? = ["a.proto".toList] ∧
      scanImports (onLines singled 0) = [] := by
  decide +kernel

end ProtoCheck.Schema
