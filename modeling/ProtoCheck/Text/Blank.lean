/-!
# White space and the pieces between separators

* `isBlank` : the characters that count as white space;
* `pieces` : the pieces of a list between separators, as many as separators and one more
  (`pieces_ne_nil`);
* `lines`, `words`, `trim` : text cut at line feeds, at white space, and at its two ends;
* `after?` : what follows a start of a text (`after?_eq_some_iff`).
-/

namespace ProtoCheck.Text

/-- White space: the controls from tab to carriage return, the four separators below the space,
the space, next line, no-break space, and the space separators of Unicode. -/
def isBlank (c : Char) : Bool :=
  let n := c.toNat
  (9 ≤ n && n ≤ 13) || (28 ≤ n && n ≤ 32) || n == 0x85 || n == 0xA0 || n == 0x1680 ||
    (0x2000 ≤ n && n ≤ 0x200A) || n == 0x2028 || n == 0x2029 || n == 0x202F || n == 0x205F ||
    n == 0x3000

/-! ## Pieces -/

/-- The pieces between the elements that `sep` picks out; `sep` picks none inside a piece. -/
def pieces {α : Type} (sep : α → Bool) : List α → List (List α)
  | [] => [[]]
  | a :: rest =>
    if sep a then [] :: pieces sep rest
    else
      match pieces sep rest with
      | [] => [[a]]
      | first :: more => (a :: first) :: more

theorem pieces_ne_nil {α : Type} (sep : α → Bool) (s : List α) : pieces sep s ≠ [] := by
  cases s with
  | nil => simp [pieces]
  | cons a rest =>
    unfold pieces
    split
    · simp
    · split <;> simp

/-- The lines of a text, cut at line feeds only; a final line feed leaves an empty last line. -/
def lines (s : List Char) : List (List Char) := pieces (· == '\n') s

/-- The runs of a text that hold no white space. -/
def words (s : List Char) : List (List Char) := (pieces isBlank s).filter (!·.isEmpty)

/-! ## Trimming -/

/-- The text without the white space at its end. -/
def trimEnd (s : List Char) : List Char := (s.reverse.dropWhile isBlank).reverse

/-- The text without the white space at its two ends. -/
def trim (s : List Char) : List Char := trimEnd (s.dropWhile isBlank)

/-- The text of `s` without the white space at its two ends. -/
def trimmed (s : String) : String := String.ofList (trim s.toList)

/-! ## Starts and replacements -/

/-- What follows `start` in `s`, when `s` begins with it. -/
def after? : (start s : List Char) → Option (List Char)
  | [], s => some s
  | _ :: _, [] => none
  | a :: start, b :: s => if a == b then after? start s else none

theorem after?_eq_some_iff {p s r : List Char} : after? p s = some r ↔ s = p ++ r := by
  constructor
  · intro h
    fun_induction after? p s with
    | case1 s => cases h; rfl
    | case2 => cases h
    | case3 a p b s hab ih => rw [eq_of_beq hab, ih h, List.cons_append]
    | case4 => cases h
  · rintro rfl
    induction p with
    | nil => rw [List.nil_append, after?]
    | cons a p ih => rw [List.cons_append, after?, if_pos (beq_self_eq_true a), ih]

/-- The ASCII lower case of a character; other characters stay. -/
def lower (s : List Char) : List Char := s.map Char.toLower

/-- `s` with each character that `table` knows replaced by its text. -/
def escapeWith (table : Char → Option String) (s : String) : String :=
  String.ofList (s.toList.flatMap fun c => ((table c).map String.toList).getD [c])

end ProtoCheck.Text
