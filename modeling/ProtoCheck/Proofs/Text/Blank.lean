import ProtoCheck.Text.Blank
import Mathlib.Data.List.Induction

/-!
# Words and trimming

* `sep_of_mem_pieces`, `pieces_append` : pieces hold no separator, and a separator ends the pieces
  in front of it (`pieces_append_cons` : the first piece, `pieces_append_sep` : the last but one);
* `words_trim` : trimming a text takes none of its words away;
* `dropWhile_blank_append` : white space in front of a text that begins with none;
* `after?_append` : what follows a start is the rest of the text;
* `prefix_of_notMem`, `infix_append_cons_iff` : parts of a text in which a sign does not occur.
-/

namespace ProtoCheck.Text

/-- A separator ends the pieces in front of it. -/
theorem pieces_append {α : Type} {sep : α → Bool} {a : α} (h : sep a = true) (u s : List α) :
    pieces sep (u ++ a :: s) = pieces sep u ++ pieces sep s := by
  induction u with
  | nil => simp [pieces, h]
  | cons b rest ih =>
    rw [List.cons_append, pieces, pieces, ih]
    by_cases hb : sep b = true
    · rw [if_pos hb, if_pos hb, List.cons_append]
    · obtain ⟨first, more, hp⟩ := List.exists_cons_of_ne_nil (pieces_ne_nil sep rest)
      rw [if_neg hb, if_neg hb, hp]
      rfl

theorem pieces_append_sep {α : Type} {sep : α → Bool} {a : α} (h : sep a = true) (s : List α) :
    pieces sep (s ++ [a]) = pieces sep s ++ [[]] :=
  pieces_append h s []

theorem sep_of_mem_pieces {α : Type} {sep : α → Bool} {s p : List α} (hp : p ∈ pieces sep s) :
    ∀ a ∈ p, sep a = false := by
  induction s generalizing p with
  | nil =>
    rw [pieces, List.mem_singleton] at hp
    subst hp
    exact fun a ha => absurd ha List.not_mem_nil
  | cons b rest ih =>
    obtain ⟨first, more, he⟩ := List.exists_cons_of_ne_nil (pieces_ne_nil sep rest)
    rw [pieces] at hp
    by_cases hb : sep b = true
    · rw [if_pos hb] at hp
      rcases List.mem_cons.1 hp with rfl | hp
      · exact fun a ha => absurd ha List.not_mem_nil
      · exact ih hp
    · rw [if_neg hb, he] at hp
      rcases List.mem_cons.1 hp with rfl | hp
      · have hfirst := ih (p := first) (by rw [he]; exact List.mem_cons_self)
        exact List.forall_mem_cons.2 ⟨by simpa using hb, hfirst⟩
      · exact ih (by rw [he]; exact List.mem_cons_of_mem _ hp)

theorem pieces_of_forall {α : Type} {sep : α → Bool} {u : List α} (hu : ∀ a ∈ u, sep a = false) :
    pieces sep u = [u] := by
  induction u with
  | nil => rfl
  | cons a u ih =>
    rw [List.forall_mem_cons] at hu
    rw [pieces, if_neg (by rw [hu.1]; exact Bool.false_ne_true), ih hu.2]

theorem pieces_append_cons {α : Type} {sep : α → Bool} {u : List α} {a : α}
    (hu : ∀ b ∈ u, sep b = false) (ha : sep a = true) (s : List α) :
    pieces sep (u ++ a :: s) = u :: pieces sep s := by
  rw [pieces_append ha, pieces_of_forall hu, List.singleton_append]

theorem beq_false_of_notMem {α : Type} [BEq α] [LawfulBEq α] {a : α} {s : List α} (h : a ∉ s) :
    ∀ b ∈ s, (b == a) = false := by
  intro b hb
  refine beq_eq_false_iff_ne.2 ?_
  rintro rfl
  exact h hb

theorem pieces_of_notMem {α : Type} [BEq α] [LawfulBEq α] {a : α} {u : List α} (h : a ∉ u) :
    pieces (· == a) u = [u] := pieces_of_forall (beq_false_of_notMem h)

theorem pieces_append_of_notMem {α : Type} [BEq α] [LawfulBEq α] {a : α} {u : List α} (h : a ∉ u)
    (s : List α) : pieces (· == a) (u ++ a :: s) = u :: pieces (· == a) s :=
  pieces_append_cons (beq_false_of_notMem h) (beq_self_eq_true a) s

theorem prefix_of_pieces {α : Type} [BEq α] [LawfulBEq α] {a : α} {s first : List α}
    {more : List (List α)} (h : pieces (· == a) s = first :: more) : first <+: s := by
  by_cases ha : a ∈ s
  · obtain ⟨u, t, rfl, hu⟩ := List.eq_append_cons_of_mem ha
    rw [pieces_append_of_notMem hu] at h
    rw [← (List.cons.inj h).1]
    exact List.prefix_append u _
  · rw [pieces_of_notMem ha] at h
    exact (List.cons.inj h).1 ▸ List.prefix_rfl

/-- What is no separator stands in a text when it stands in one of the pieces, and only then. -/
theorem mem_iff_mem_pieces {α : Type} (sep : α → Bool) {a : α} (h : sep a = false) (s : List α) :
    a ∈ s ↔ ∃ p ∈ pieces sep s, a ∈ p := by
  induction s with
  | nil => simp [pieces]
  | cons b rest ih =>
    rw [pieces, List.mem_cons, ih]
    obtain ⟨first, more, he⟩ := List.exists_cons_of_ne_nil (pieces_ne_nil sep rest)
    rw [he]
    split
    · rename_i hb
      have hne : a ≠ b := by
        rintro rfl
        exact Bool.false_ne_true (h.symm.trans hb)
      simp [hne]
    · simp [or_assoc]

theorem words_cons_blank {c : Char} (h : isBlank c = true) (s : List Char) :
    words (c :: s) = words s := by
  rw [words, pieces, if_pos h]
  rfl

theorem words_append_blank {c : Char} (h : isBlank c = true) (s : List Char) :
    words (s ++ [c]) = words s := by
  rw [words, pieces_append_sep h, List.filter_append]
  exact List.append_nil _

theorem words_dropWhile_blank (s : List Char) : words (s.dropWhile isBlank) = words s := by
  induction s with
  | nil => rfl
  | cons c rest ih =>
    by_cases h : isBlank c = true
    · rw [List.dropWhile_cons_of_pos h, ih, words_cons_blank h]
    · rw [List.dropWhile_cons_of_neg h]

theorem words_trimEnd (s : List Char) : words (trimEnd s) = words s := by
  induction s using List.reverseRecOn with
  | nil => rfl
  | append_singleton rest c ih =>
    unfold trimEnd at ih ⊢
    rw [List.reverse_append, List.reverse_singleton, List.singleton_append]
    by_cases h : isBlank c = true
    · rw [List.dropWhile_cons_of_pos h, ih, words_append_blank h]
    · rw [List.dropWhile_cons_of_neg h, List.reverse_cons, List.reverse_reverse]

theorem words_trim (s : List Char) : words (trim s) = words s := by
  rw [trim, words_trimEnd, words_dropWhile_blank]

/-! ## Starts of texts -/

theorem dropWhile_blank_append {w s : List Char} (hw : ∀ c ∈ w, isBlank c = true)
    (hs : ∀ c ∈ s.head?, isBlank c = false) : (w ++ s).dropWhile isBlank = s := by
  rw [List.dropWhile_append_of_pos hw]
  cases s with
  | nil => rfl
  | cons c rest =>
    rw [List.dropWhile_cons_of_neg]
    rw [hs c rfl]
    exact Bool.false_ne_true

theorem after?_append (p s : List Char) : after? p (p ++ s) = some s := after?_eq_some_iff.2 rfl

theorem after?_singleton (c : Char) (s : List Char) : after? [c] (c :: s) = some s :=
  after?_append [c] s

/-! ## Parts of texts -/

/-- A beginning without a sign ends in front of it. -/
theorem prefix_of_notMem {α : Type} {s u t : List α} {a : α} (h : s <+: u ++ a :: t) (ha : a ∉ s) :
    s <+: u := by
  have hu : u ++ [a] <+: u ++ a :: t := ⟨t, by simp⟩
  rcases List.prefix_or_prefix_of_prefix h hu with hs | hs
  · rcases List.prefix_concat_iff.1 hs with rfl | hs
    · exact absurd (List.mem_append_right u List.mem_cons_self) ha
    · exact hs
  · exact absurd (hs.subset (List.mem_append_right u List.mem_cons_self)) ha

/-- What does not hold a sign is found in front of it or behind it. -/
theorem infix_append_cons_iff {α : Type} {p a b : List α} {c : α} (h : c ∉ p) (hne : p ≠ []) :
    p <:+: a ++ c :: b ↔ p <:+: a ∨ p <:+: b := by
  constructor
  · rintro ⟨s, t, he⟩
    rcases List.append_eq_append_iff.1 he with ⟨x, ha, -⟩ | ⟨x, hs, hx⟩
    · exact .inl ⟨s, x, ha.symm⟩
    · rcases List.append_eq_append_iff.1 hs with ⟨y, ha, hp⟩ | ⟨y, -, hp⟩
      · -- what follows `y` begins with the sign, which is not in `p`
        cases x with
        | nil => exact .inl ⟨s, [], by rw [hp, ha]; simp⟩
        | cons d x =>
          obtain ⟨rfl, -⟩ := List.cons.inj hx
          exact absurd (hp ▸ List.mem_append_right y List.mem_cons_self) h
      · rw [hp] at hx
        cases y with
        | nil =>
          obtain ⟨d, p, rfl⟩ := List.exists_cons_of_ne_nil hne
          obtain ⟨rfl, -⟩ := List.cons.inj hx
          exact absurd List.mem_cons_self h
        | cons d y => exact .inr ⟨y, t, (List.cons.inj hx).2.symm⟩
  · rintro (hinf | hinf)
    · exact hinf.trans (List.prefix_append a _).isInfix
    · exact hinf.trans ((List.suffix_cons c b).isInfix.trans (List.suffix_append a _).isInfix)

end ProtoCheck.Text
