import ProtoCheck.Proofs.Schema.Comments
import Mathlib.Data.List.Infix
import Mathlib.Data.List.TakeWhile

/-!
# Literals in a schema

Imports and options stand on lines of their own, with a literal in each of them. A path is found in
double quotes only, and comment marks in literals count.

* `Literal`, `Statement`, `onLines` : sources of such lines;
* `Statement.Found` : an import that is found where nothing else is in its way;
* `Statement.Quiet` : a literal that is passed over, whatever semicolons it holds;
* `importAt?_head_import`, `importAt?_of_not_candidate` : what the front of a line comes to;
* `afterBlock?_cases` : where a block comment ends that begins in a literal.
-/

namespace ProtoCheck.Schema

open Text

/-! ## Sources of statements with literals -/

inductive Quote where
  | single
  | double
  deriving DecidableEq, Repr

def Quote.char : Quote → Char
  | .single => '\''
  | .double => '"'

/-- Anything but quotes, backslashes and line feeds. -/
def isPlain (c : Char) : Bool := c != '"' && c != '\'' && c != '\\' && c != '\n'

/-- A string literal without escapes. -/
structure Literal where
  quote : Quote
  chars : List Char
  all_plain : chars.all isPlain = true

/-- The characters of option names, those of extensions included. -/
def isNameChar (c : Char) : Bool :=
  c.isAlphanum || c == '_' || c == '.' || c == '(' || c == ')'

structure OptionName where
  chars : List Char
  all_name : chars.all isNameChar = true

/-- An import of a path, or an option with a string as its value. -/
inductive Statement where
  | imports (kind : ImportKind) (path : Literal)
  | sets (name : OptionName) (value : Literal)

namespace Statement

def literal : Statement → Literal
  | imports _ path => path
  | sets _ value => value

/-- The path that is imported, if there is one. -/
def path? : Statement → Option (List Char)
  | imports _ path => some path.chars
  | sets _ _ => none

/-- The statement up to its literal. -/
def head : Statement → List Char
  | imports kind _ => "import".toList ++ ([' '] ++ kind.text)
  | sets name _ => "option".toList ++ ([' '] ++ (name.chars ++ " = ".toList))

def quote (x : Statement) : Char := x.literal.quote.char

def text (x : Statement) : List Char := x.head ++ x.quote :: (x.literal.chars ++ [x.quote, ';'])

/-- The literal holds the start mark of a block comment. -/
def Opens (x : Statement) : Prop := ['/', '*'] <:+: x.literal.chars

/-- The literal holds the end mark of a block comment. -/
def Closes (x : Statement) : Prop := ['*', '/'] <:+: x.literal.chars

/-- An import of a path in double quotes. -/
def Candidate (x : Statement) : Prop := x.path?.isSome ∧ x.literal.quote = .double

/-- An import of a path in double quotes, which is not empty and not cut by a line comment. -/
def Found (x : Statement) : Prop :=
  x.Candidate ∧ x.literal.chars ≠ [] ∧ ¬ ['/', '/'] <:+: x.literal.chars

/-- Behind a semicolon in the literal neither the word of an import begins nor a comment. -/
def Quiet (x : Statement) : Prop :=
  ∀ v, ';' :: v <:+ x.literal.chars →
    'i' ∉ (v.dropWhile isBlank).head? ∧ '/' ∉ (v.dropWhile isBlank).head?

instance : DecidablePred Opens := fun x => inferInstanceAs (Decidable (_ <:+: x.literal.chars))

instance : DecidablePred Closes := fun x => inferInstanceAs (Decidable (_ <:+: x.literal.chars))

instance : DecidablePred Candidate := fun _ => inferInstanceAs (Decidable (_ ∧ _))

instance : DecidablePred Found := fun _ => inferInstanceAs (Decidable (_ ∧ _ ∧ _))

theorem quiet_of_notMem {x : Statement} (h : ';' ∉ x.literal.chars) : x.Quiet :=
  fun _ hv => absurd (hv.mem List.mem_cons_self) h

end Statement

/-- Statements one per line, and some line feeds at the end. -/
def onLines (l : List Statement) (n : Nat) : List Char :=
  ['\n'].intercalate (l.map Statement.text) ++ List.replicate n '\n'

/-- The statements, each behind a line feed, and the line feeds at the end. -/
def below (l : List Statement) (n : Nat) : List Char :=
  l.flatMap (fun x => '\n' :: x.text) ++ List.replicate n '\n'

theorem below_cons (x : Statement) (l : List Statement) (n : Nat) : below (x :: l) n =
    '\n' :: (x.head ++ x.quote :: (x.literal.chars ++ x.quote :: ';' :: below l n)) := by
  simp [below, Statement.text]

theorem cons_onLines (x : Statement) (l : List Statement) (n : Nat) :
    '\n' :: onLines (x :: l) n = below (x :: l) n := by
  have h : ∀ (l : List Statement) (x : Statement),
      '\n' :: ['\n'].intercalate ((x :: l).map Statement.text) =
        (x :: l).flatMap fun x => '\n' :: x.text := by
    intro l
    induction l with
    | nil =>
      intro x
      simp
    | cons y l ih =>
      intro x
      rw [List.map_cons, List.map_cons, List.intercalate_cons_cons, List.flatMap_cons, ← ih y,
        List.map_cons]
      simp
  rw [onLines, below, ← h l x, List.cons_append]

theorem below_nil_or (l : List Statement) (n : Nat) :
    below l n = [] ∨ ∃ s, below l n = '\n' :: s := by
  cases l with
  | nil =>
    cases n with
    | zero => exact .inl rfl
    | succ n => exact .inr ⟨_, rfl⟩
  | cons x l => exact .inr ⟨_, below_cons x l n⟩

/-! ## Parts of a line -/

theorem Quote.char_ne (q : Quote) :
    q.char ≠ '/' ∧ q.char ≠ '*' ∧ q.char ≠ ';' ∧ q.char ≠ '\n' := by
  cases q <;> decide

theorem Statement.quote_ne (x : Statement) :
    x.quote ≠ '/' ∧ x.quote ≠ '*' ∧ x.quote ≠ ';' ∧ x.quote ≠ '\n' := x.literal.quote.char_ne

theorem Literal.notMem (x : Literal) {c : Char} (hc : isPlain c = false) : c ∉ x.chars := by
  intro h
  rw [List.all_eq_true.1 x.all_plain c h] at hc
  cases hc

theorem OptionName.notMem (name : OptionName) {c : Char} (hc : isNameChar c = false) :
    c ∉ name.chars := by
  intro h
  rw [List.all_eq_true.1 name.all_name c h] at hc
  cases hc

/-- The characters in front of a literal. -/
def isHeadChar (c : Char) : Bool := isNameChar c || c == ' ' || c == '='

theorem Statement.all_head (x : Statement) : x.head.all isHeadChar = true := by
  cases x with
  | imports kind path =>
    show ("import".toList ++ ([' '] ++ kind.text)).all isHeadChar = true
    cases kind <;> decide
  | sets name value =>
    have hname : name.chars.all isHeadChar = true := by
      rw [List.all_eq_true]
      intro c hc
      rw [isHeadChar, List.all_eq_true.1 name.all_name c hc, Bool.true_or, Bool.true_or]
    show ("option".toList ++ ([' '] ++ (name.chars ++ " = ".toList))).all isHeadChar = true
    rw [List.all_append, List.all_append, List.all_append, hname]
    decide

theorem Statement.notMem_head (x : Statement) {c : Char} (hc : isHeadChar c = false) :
    c ∉ x.head := by
  intro h
  rw [List.all_eq_true.1 x.all_head c h] at hc
  cases hc

/-! ## Scanning lines -/

/-- A line that begins with no import that is found is passed over up to its literal. -/
theorem importsFrom_passed {x : Statement} {s : List Char}
    (h : importAt? (x.head ++ x.quote :: s) = none) :
    importsFrom false ('\n' :: (x.head ++ x.quote :: s)) = importsFrom false s := by
  have hskip : ∀ c ∈ x.head ++ [x.quote], c ≠ ';' ∧ c ≠ '\n' := by
    intro c hc
    rcases List.mem_append.1 hc with hc | hc
    · exact ⟨fun he => x.notMem_head (by decide) (he ▸ hc),
        fun he => x.notMem_head (by decide) (he ▸ hc)⟩
    · rw [List.mem_singleton.1 hc]
      exact x.quote_ne.2.2
  rw [importsFrom_cons (by decide), beq_self_eq_true, importsFrom_unfound h]
  have happend : x.head ++ x.quote :: s = x.head ++ [x.quote] ++ s := by simp
  rw [happend, importsFrom_skip hskip]

/-- No import begins where its word does not. -/
theorem importAt?_eq_none {s : List Char} (h : 'i' ∉ (s.dropWhile isBlank).head?) :
    importAt? s = none := by
  unfold importAt?
  cases hs : s.dropWhile isBlank with
  | nil => rfl
  | cons c rest =>
    rw [hs] at h
    have hne : 'i' ≠ c := fun he => h (congrArg some he.symm)
    rw [wordBlank?_eq_none (d := 'i') rfl rfl hne]
    rfl

theorem importAt?_head_option (name : OptionName) (value : Literal) (s : List Char) :
    importAt? ((Statement.sets name value).head ++ s) = none := by
  refine importAt?_eq_none ?_
  show 'i' ∉ (('o' :: ("ption".toList ++ ([' '] ++ (name.chars ++ " = ".toList)) ++ s)).dropWhile
    isBlank).head?
  rw [List.dropWhile_cons_of_neg (by decide)]
  exact fun h => absurd (Option.some.inj h) (by decide)

/-- What an import comes to behind its opening quote. -/
theorem importAt?_head_import (kind : ImportKind) (path : Literal) {c : Char}
    (hc : isBlank c = false) (hp : 'p' ≠ c) (hw : 'w' ≠ c) (s : List Char) :
    importAt? ((Statement.imports kind path).head ++ c :: s) =
      (after? ['"'] (c :: s)).bind fun t =>
        (after? ['"'] (t.dropWhile (· != '"'))).bind fun r =>
          (after? [';'] (r.dropWhile isBlank)).bind fun r =>
            if (t.takeWhile (· != '"')).isEmpty then none
            else some (t.takeWhile (· != '"'), r) := by
  have hhead : ∀ d ∈ (kind.text ++ c :: s).head?, isBlank d = false := by
    intro d hd
    cases kind
    · cases hd
      exact hc
    · cases hd
      decide
    · cases hd
      decide
  show importAt? ("import".toList ++ ([' '] ++ kind.text) ++ c :: s) = _
  rw [List.append_assoc, List.append_assoc]
  unfold importAt?
  rw [show "import".toList ++ ([' '] ++ (kind.text ++ c :: s)) =
    'i' :: ("mport".toList ++ ([' '] ++ (kind.text ++ c :: s))) from rfl,
    List.dropWhile_cons_of_neg (by decide),
    show 'i' :: ("mport".toList ++ ([' '] ++ (kind.text ++ c :: s))) =
      "import".toList ++ ([' '] ++ (kind.text ++ c :: s)) from rfl,
    wordBlank?_append isBlank_of_mem_space (List.cons_ne_nil _ _) hhead]
  simp only [Option.bind_eq_bind, Option.bind_some]
  rw [kind.qualifier.passed hc hp hw]
  rfl

/-- An option, or an import in single quotes, is not found. -/
theorem importAt?_of_not_candidate {x : Statement} (hx : ¬ x.Candidate) (s : List Char) :
    importAt? (x.head ++ x.quote :: s) = none := by
  cases x with
  | sets name value => exact importAt?_head_option name value _
  | imports kind path =>
    cases hq : path.quote with
    | double => exact absurd ⟨rfl, hq⟩ hx
    | single =>
      have hquote : (Statement.imports kind path).quote = '\'' := congrArg Quote.char hq
      rw [hquote, importAt?_head_import kind path (by decide) (by decide) (by decide)]
      rfl

/-! ## Comments between literals -/

theorem stripComments_below_cons (x : Statement) (l : List Statement) (n : Nat) :
    stripComments (below (x :: l) n) = '\n' :: (x.head ++ x.quote ::
      stripComments (x.literal.chars ++ x.quote :: ';' :: below l n)) := by
  rw [below_cons, stripComments_cons fun h => absurd h (by decide),
    stripComments_append (x.notMem_head (by decide)),
    stripComments_cons fun h => absurd h x.quote_ne.1]

theorem stripComments_below_nil (n : Nat) : stripComments (below [] n) = List.replicate n '\n' := by
  have h : '/' ∉ List.replicate n '\n' :=
    fun h => absurd (List.eq_of_mem_replicate h) (by decide)
  have happend := stripComments_append h []
  rwa [List.append_nil, stripComments, List.append_nil] at happend

theorem stripComments_semicolon (s : List Char) :
    stripComments (';' :: s) = ';' :: stripComments s :=
  stripComments_cons fun h => absurd h (by decide)

theorem importsFrom_semicolon_below (l : List Statement) (n : Nat) :
    importsFrom false (';' :: stripComments (below l n)) =
      importsFrom false (stripComments (below l n)) := by
  rcases below_nil_or l n with h | ⟨s, h⟩
  · rw [h, stripComments, importsFrom_of_notMem (by decide), importsFrom_of_notMem (by decide)]
  · rw [h, stripComments_cons fun h => absurd h (by decide), importsFrom_semicolon,
      importsFrom_cons_blank rfl, importsFrom_cons (by decide), beq_self_eq_true]

/-- A block comment that begins in front of some lines ends in a literal of one of them. -/
theorem exists_of_afterBlock?_below {l : List Statement} {n : Nat} {r : List Char}
    (h : afterBlock? (below l n) = some r) :
    ∃ gone y l' c', l = gone ++ y :: l' ∧ afterBlock? y.literal.chars = some c' ∧
      r = c' ++ y.quote :: ';' :: below l' n := by
  induction l with
  | nil =>
    have hstar : '*' ∉ below [] n := fun h => absurd (List.eq_of_mem_replicate h) (by decide)
    have hnone := afterBlock?_append hstar []
    rw [List.append_nil, h] at hnone
    exact nomatch hnone
  | cons y l ih =>
    rw [below_cons, afterBlock?_cons fun h => absurd h (by decide),
      afterBlock?_append (y.notMem_head (by decide)),
      afterBlock?_cons fun h => absurd h y.quote_ne.2.1,
      afterBlock?_literal y.quote_ne.1 y.quote_ne.2.1] at h
    cases hy : afterBlock? y.literal.chars with
    | some c' =>
      rw [hy] at h
      exact ⟨[], y, l, c', rfl, hy, (Option.some.inj h).symm⟩
    | none =>
      rw [hy, Option.elim_none, afterBlock?_cons fun h => absurd h (by decide)] at h
      obtain ⟨gone, z, l', c', rfl, hz, hr⟩ := ih h
      exact ⟨y :: gone, z, l', c', rfl, hz, hr⟩

/-- A block comment that begins in a literal ends in it or in a later one. -/
theorem afterBlock?_cases {c r : List Char} {x : Statement} {l : List Statement} {n : Nat}
    (h : afterBlock? (c ++ x.quote :: ';' :: below l n) = some r) :
    (∃ c', afterBlock? c = some c' ∧ r = c' ++ x.quote :: ';' :: below l n) ∨
      ∃ gone y l' c', l = gone ++ y :: l' ∧ afterBlock? y.literal.chars = some c' ∧
        r = c' ++ y.quote :: ';' :: below l' n := by
  rw [afterBlock?_literal x.quote_ne.1 x.quote_ne.2.1] at h
  cases hc : afterBlock? c with
  | some c' =>
    rw [hc] at h
    exact .inl ⟨c', rfl, (Option.some.inj h).symm⟩
  | none =>
    rw [hc, Option.elim_none, afterBlock?_cons fun h => absurd h (by decide)] at h
    exact .inr (exists_of_afterBlock?_below h)

theorem Statement.closes_of_afterBlock? {x : Statement} {c' : List Char}
    (h : afterBlock? x.literal.chars = some c') : x.Closes := by
  obtain ⟨u, hu⟩ := exists_of_afterBlock? h
  exact ⟨u, c', by rw [hu]; simp⟩

/-- No block comment begins in a literal when none ends in it or behind it. -/
theorem afterBlock?_eq_none_of_not_closes {x : Statement} {l : List Statement} {n : Nat}
    (h : x.Opens → ∀ y ∈ x :: l, ¬ y.Closes) {u v : List Char}
    (hv : x.literal.chars = u ++ '/' :: '*' :: v) :
    afterBlock? (v ++ x.quote :: ';' :: below l n) = none := by
  have hopens : x.Opens := ⟨u, v, by rw [hv]; simp⟩
  cases hr : afterBlock? (v ++ x.quote :: ';' :: below l n) with
  | none => rfl
  | some r =>
    rcases afterBlock?_cases hr with ⟨c', hc', -⟩ | ⟨gone, y, l', c', rfl, hy, -⟩
    · obtain ⟨w, rfl⟩ := exists_of_afterBlock? hc'
      refine absurd ?_ (h hopens x List.mem_cons_self)
      exact ⟨u ++ '/' :: '*' :: w, c', by rw [hv]; simp⟩
    · refine absurd (Statement.closes_of_afterBlock? hy) (h hopens y ?_)
      exact List.mem_cons_of_mem _ (List.mem_append_right _ List.mem_cons_self)

/-! ## Quiet literals -/

theorem dropWhile_below (l : List Statement) (n : Nat) :
    (';' :: below l n).dropWhile (· != '\n') = below l n := by
  rw [List.dropWhile_cons_of_pos (by decide)]
  rcases below_nil_or l n with h | ⟨s, h⟩
  · rw [h, List.dropWhile_nil]
  · rw [h, List.dropWhile_cons_of_neg (by decide)]

/-- Where no comment begins behind white space, neither does the word of an import if it did not
before comments were cut out. -/
theorem notMem_head?_stripComments {x : Statement} {v s : List Char}
    (hi : 'i' ∉ (v.dropWhile isBlank).head?) (hslash : '/' ∉ (v.dropWhile isBlank).head?) :
    'i' ∉ ((stripComments (v ++ x.quote :: s)).dropWhile isBlank).head? := by
  induction v with
  | nil =>
    have hquote : isBlank x.quote = false ∧ x.quote ≠ 'i' := by
      unfold Statement.quote
      cases x.literal.quote <;> decide
    rw [List.nil_append, stripComments_cons fun h => absurd h x.quote_ne.1,
      List.dropWhile_cons_of_neg (by rw [hquote.1]; exact Bool.false_ne_true)]
    exact fun h => hquote.2 (Option.some.inj h)
  | cons a v ih =>
    by_cases ha : isBlank a = true
    · have hne : a ≠ '/' := by
        rintro rfl
        exact absurd ha (by decide)
      rw [List.dropWhile_cons_of_pos ha] at hi hslash
      rw [List.cons_append, stripComments_cons fun h => absurd h hne,
        List.dropWhile_cons_of_pos ha]
      exact ih hi hslash
    · rw [List.dropWhile_cons_of_neg ha] at hi hslash
      have hne : a ≠ '/' := fun h => hslash (congrArg some h)
      rw [List.cons_append, stripComments_cons fun h => absurd h hne,
        List.dropWhile_cons_of_neg ha]
      exact hi

theorem importsFrom_semicolon_of_none {s : List Char} (h : importAt? s = none) :
    importsFrom false (';' :: s) = importsFrom false s := by
  rw [importsFrom_semicolon, importsFrom_unfound h]

/-- A character of a quiet literal that begins no comment is passed over. -/
theorem Statement.Quiet.importsFrom_cons {x : Statement} (hx : x.Quiet) {a : Char} {c : List Char}
    (hc : a :: c <:+ x.literal.chars) (s : List Char) :
    importsFrom false (a :: stripComments (c ++ x.quote :: s)) =
      importsFrom false (stripComments (c ++ x.quote :: s)) := by
  have hfeed : a ≠ '\n' := by
    rintro rfl
    exact x.literal.notMem (by decide) (hc.mem List.mem_cons_self)
  by_cases ha : a = ';'
  · rw [ha] at hc ⊢
    obtain ⟨hi, hslash⟩ := hx c hc
    exact importsFrom_semicolon_of_none
      (importAt?_eq_none (notMem_head?_stripComments hi hslash))
  · rw [Schema.importsFrom_cons ha, beq_eq_false_iff_ne.2 hfeed]

/-- The end of a literal and of its line is passed over. -/
theorem importsFrom_quote (x : Statement) (l : List Statement) (n : Nat) :
    importsFrom false (stripComments (x.quote :: ';' :: below l n)) =
      importsFrom false (stripComments (below l n)) := by
  rw [stripComments_cons fun h => absurd h x.quote_ne.1, stripComments_semicolon,
    importsFrom_cons x.quote_ne.2.2.1, beq_eq_false_iff_ne.2 x.quote_ne.2.2.2,
    importsFrom_semicolon_below]

end ProtoCheck.Schema
