import ProtoCheck.Text.Blank

/-!
# The imports of a schema

Imports are found in the source text: comments are cut out wherever their marks stand, and what is
left is searched for import statements behind a line start or a semicolon.

* `stripComments` : the text without comments;
* `importAt?` : an import statement at the front of a text (`importAt?_decompose`);
* `scanImports` : the imported paths in order.
-/

namespace ProtoCheck.Schema

open Text

/-! ## Comments -/

/-- What follows the first end mark of a block comment. -/
def afterBlock? : List Char → Option (List Char)
  | '*' :: '/' :: rest => some rest
  | _ :: rest => afterBlock? rest
  | [] => none

theorem afterBlock?_length {s r : List Char} (h : afterBlock? s = some r) :
    r.length < s.length := by
  fun_induction afterBlock? s with
  | case1 rest => simp only [Option.some.injEq] at h; subst h; simp only [List.length_cons]; omega
  | case2 c rest _ ih => exact Nat.lt_succ_of_lt (ih h)
  | case3 => simp at h

/-- The text without comments: from `//` to the end of the line, and from a slash with a star to
the next star with a slash, where there is one. -/
def stripComments : List Char → List Char
  | '/' :: '/' :: rest => stripComments (rest.dropWhile (· != '\n'))
  | '/' :: '*' :: rest =>
    match _h : afterBlock? rest with
    | some after => stripComments after
    | none => '/' :: stripComments ('*' :: rest)
  | c :: rest => c :: stripComments rest
  | [] => []
termination_by s => s.length
decreasing_by
  · have := (List.dropWhile_suffix (l := rest) (· != '\n')).length_le
    simp; omega
  · have := afterBlock?_length _h
    simp; omega
  all_goals simp

/-! ## Statements -/

/-- What follows white space, of which there is some. -/
def blank? (s : List Char) : Option (List Char) :=
  match s with
  | c :: rest => if isBlank c then some (rest.dropWhile isBlank) else none
  | [] => none

/-- What follows a word and white space. -/
def wordBlank? (word s : List Char) : Option (List Char) := (after? word s).bind blank?

/-- The path of an import statement at the front of a text, and what follows the statement. -/
def importAt? (s : List Char) : Option (List Char × List Char) := do
  let s ← wordBlank? "import".toList (s.dropWhile isBlank)
  let s := ((wordBlank? "public".toList s).orElse fun _ => wordBlank? "weak".toList s).getD s
  let s ← after? ['"'] s
  let path := s.takeWhile (· != '"')
  let s ← after? ['"'] (s.dropWhile (· != '"'))
  let s ← after? [';'] (s.dropWhile isBlank)
  if path.isEmpty then none else return (path, s)

theorem blank?_suffix {s r : List Char} (h : blank? s = some r) : r <:+ s := by
  cases s with
  | nil => cases h
  | cons c rest =>
    rw [blank?] at h
    split at h
    · cases h
      exact (List.dropWhile_suffix _).trans (List.suffix_cons c rest)
    · cases h

theorem wordBlank?_suffix {word s r : List Char} (h : wordBlank? word s = some r) : r <:+ s := by
  obtain ⟨m, hm, hr⟩ := Option.bind_eq_some_iff.1 h
  exact (blank?_suffix hr).trans ⟨word, (after?_eq_some_iff.1 hm).symm⟩

theorem qualifier_suffix (s : List Char) :
    ((wordBlank? "public".toList s).orElse fun _ => wordBlank? "weak".toList s).getD s <:+ s := by
  cases hp : wordBlank? "public".toList s with
  | some r => exact wordBlank?_suffix hp
  | none =>
    cases hw : wordBlank? "weak".toList s with
    | some r => exact wordBlank?_suffix hw
    | none => exact List.suffix_rfl

/-- A statement ends in its path between quotes and a semicolon. -/
theorem importAt?_decompose {s path r : List Char} (h : importAt? s = some (path, r)) :
    ∃ u v, s = u ++ '"' :: (path ++ '"' :: (v ++ ';' :: r)) := by
  simp only [importAt?, Option.bind_eq_bind, Option.bind_eq_some_iff] at h
  obtain ⟨s₁, h₁, s₂, h₂, s₃, h₃, s₄, h₄, h₅⟩ := h
  split at h₅
  · cases h₅
  cases h₅
  -- everything in front of the opening quote
  obtain ⟨u, hu⟩ := (qualifier_suffix s₁).trans
    ((wordBlank?_suffix h₁).trans (List.dropWhile_suffix _))
  have e₃ := after?_eq_some_iff.1 h₃
  refine ⟨u, s₃.takeWhile isBlank, ?_⟩
  calc s = u ++ '"' :: s₂ := by rw [← hu, after?_eq_some_iff.1 h₂]; rfl
    _ = u ++ '"' :: (s₂.takeWhile (· != '"') ++ s₂.dropWhile (· != '"')) := by
      rw [List.takeWhile_append_dropWhile]
    _ = u ++ '"' :: (s₂.takeWhile (· != '"') ++ '"' :: s₃) := by rw [e₃]; rfl
    _ = u ++ '"' :: (s₂.takeWhile (· != '"') ++
        '"' :: (s₃.takeWhile isBlank ++ s₃.dropWhile isBlank)) := by
      rw [List.takeWhile_append_dropWhile (l := s₃)]
    _ = u ++ '"' :: (s₂.takeWhile (· != '"') ++ '"' :: (s₃.takeWhile isBlank ++ ';' :: r)) := by
      rw [after?_eq_some_iff.1 h₄]; rfl

theorem importAt?_length {s path r : List Char} (h : importAt? s = some (path, r)) :
    r.length < s.length := by
  obtain ⟨u, v, rfl⟩ := importAt?_decompose h
  simp only [List.length_append, List.length_cons]
  omega

/-- The imported paths of a text without comments. A statement begins behind a line start, which
`lineStart` says the front of the text is, or behind a semicolon. -/
def importsFrom (lineStart : Bool) : List Char → List (List Char)
  | [] => []
  | c :: rest =>
    match _h : (if lineStart then importAt? (c :: rest) else none) with
    | some (path, after) => path :: importsFrom false after
    | none =>
      match _h' : (if c == ';' then importAt? rest else none) with
      | some (path, after) => path :: importsFrom false after
      | none => importsFrom (c == '\n') rest
termination_by s => s.length
decreasing_by
  · split at _h
    · exact importAt?_length _h
    · simp at _h
  · split at _h'
    · have := importAt?_length _h'; simp; omega
    · simp at _h'
  · simp

/-- The paths that a schema source imports, in order. -/
def scanImports (source : List Char) : List String :=
  (importsFrom true (stripComments source)).map String.ofList

end ProtoCheck.Schema
