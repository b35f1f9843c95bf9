import ProtoCheck.Proofs.Text.Blank
import ProtoCheck.Text.Breaks

/-!
# Lines that are put together

Texts without line boundaries that are joined with line feeds are the lines of the whole, unless
one of them is empty and the last. A text that neither begins nor ends with white space is left by
trimming.

* `pieces_intercalate`, `splitLines_intercalate` : the lines of joined texts;
* `pieces_flatMap_end` : the lines of texts that each end one;
* `trim_of_edges` : a text without white space at its ends.
-/

namespace ProtoCheck.Text

theorem unifyBreaks_of_notMem {s : List Char} (h : '\r' ∉ s) : unifyBreaks s = s := by
  fun_induction unifyBreaks s with
  | case1 => exact absurd List.mem_cons_self h
  | case2 => exact absurd List.mem_cons_self h
  | case3 c rest _ _ ih =>
    rw [List.mem_cons, not_or] at h
    rw [ih h.2]
  | case4 => rfl

theorem notMem_intercalate {α : Type} {a : α} {between : List α} {l : List (List α)}
    (hb : a ∉ between) (hl : ∀ s ∈ l, a ∉ s) : a ∉ between.intercalate l := by
  induction l with
  | nil => exact List.not_mem_nil
  | cons s l ih =>
    rw [List.forall_mem_cons] at hl
    cases l with
    | nil => rw [List.intercalate_singleton]; exact hl.1
    | cons t l =>
      rw [List.intercalate_cons_cons]
      exact List.not_mem_append (List.not_mem_append hl.1 hb) (ih hl.2)

/-- Texts without separators are the pieces of the text that they are joined to. -/
theorem pieces_intercalate {α : Type} {sep : α → Bool} {a : α} (ha : sep a = true)
    {l : List (List α)} (hne : l ≠ []) (hl : ∀ s ∈ l, ∀ b ∈ s, sep b = false) :
    pieces sep ([a].intercalate l) = l := by
  induction l with
  | nil => exact absurd rfl hne
  | cons s l ih =>
    rw [List.forall_mem_cons] at hl
    cases l with
    | nil => rw [List.intercalate_singleton, pieces_of_forall hl.1]
    | cons t l =>
      rw [List.intercalate_cons_cons, List.append_assoc, List.singleton_append,
        pieces_append_cons hl.1 ha, ih (List.cons_ne_nil t l) hl.2]

/-- Texts without separators, each with one behind it, are the pieces of the text that they make,
and an empty piece follows. -/
theorem pieces_flatMap_end {α : Type} {sep : α → Bool} {a : α} (ha : sep a = true)
    {l : List (List α)} (hl : ∀ s ∈ l, ∀ b ∈ s, sep b = false) :
    pieces sep (l.flatMap (· ++ [a])) = l ++ [[]] := by
  induction l with
  | nil => rfl
  | cons s l ih =>
    rw [List.forall_mem_cons] at hl
    rw [List.flatMap_cons, List.append_assoc, List.singleton_append, pieces_append_cons hl.1 ha,
      ih hl.2, List.cons_append]

/-- Texts without line boundaries, none of them empty, are the lines of the text that they are
joined to. -/
theorem splitLines_intercalate {l : List (List Char)} (hne : ∀ s ∈ l, s ≠ [])
    (hl : ∀ s ∈ l, ∀ c ∈ s, isBreak c = false) : splitLines (['\n'].intercalate l) = l := by
  by_cases hnil : l = []
  · rw [hnil]
    rfl
  · have hreturn : '\r' ∉ ['\n'].intercalate l :=
      notMem_intercalate (by decide) fun s hs hmem => absurd (hl s hs _ hmem) (by decide)
    have hlast : l.getLast? ≠ some [] := fun he => hne [] (List.mem_of_getLast? he) rfl
    unfold splitLines
    rw [unifyBreaks_of_notMem hreturn, pieces_intercalate (by decide) hnil hl]
    exact if_neg fun he => hlast (eq_of_beq he)

theorem dropWhile_of_head? {α : Type} {p : α → Bool} {s : List α}
    (h : ∀ a ∈ s.head?, p a = false) : s.dropWhile p = s := by
  cases s with
  | nil => rfl
  | cons a s =>
    rw [List.dropWhile_cons_of_neg]
    exact Bool.eq_false_iff.1 (h a rfl)

/-- A text without white space at its ends is left by trimming. -/
theorem trim_of_edges {s : List Char} (hfirst : ∀ c ∈ s.head?, isBlank c = false)
    (hlast : ∀ c ∈ s.getLast?, isBlank c = false) : trim s = s := by
  rw [← List.head?_reverse] at hlast
  rw [trim, dropWhile_of_head? hfirst, trimEnd, dropWhile_of_head? hlast, List.reverse_reverse]

end ProtoCheck.Text
