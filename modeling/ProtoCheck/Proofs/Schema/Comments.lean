import ProtoCheck.Proofs.Schema.Imports

/-!
# Comments of a schema

Comments are cut out by their marks alone, so that a mark in a literal begins or ends one as well.

* `afterBlock?_cons`, `afterBlock?_append`, `afterBlock?_literal`, `afterBlock?_closed` : where a
  block comment ends;
* `stripComments_cons`, `stripComments_append_of_noComment`, `stripComments_line`,
  `stripComments_block`, `stripComments_unclosed` : cutting comments out, mark by mark;
* `stripComments_front`, `stripComments_intact`, `stripComments_cut` : what is left of a literal in
  which no block comment begins.
-/

namespace ProtoCheck.Schema

/-! ## Ends of block comments -/

theorem afterBlock?_cons {a : Char} {s : List Char} (h : a = '*' → '/' ∉ s.head?) :
    afterBlock? (a :: s) = afterBlock? s := by
  rw [afterBlock?]
  rintro rest rfl rfl
  exact h rfl rfl

theorem afterBlock?_append {u : List Char} (h : '*' ∉ u) (s : List Char) :
    afterBlock? (u ++ s) = afterBlock? s := by
  induction u with
  | nil => rfl
  | cons a u ih =>
    rw [List.mem_cons, not_or] at h
    rw [List.cons_append, afterBlock?_cons fun ha => absurd ha.symm h.1, ih h.2]

/-- A block comment ends in a text, or behind it when something other than an end mark follows. -/
theorem afterBlock?_literal {q : Char} (hq : q ≠ '/') (hq' : q ≠ '*') (c s : List Char) :
    afterBlock? (c ++ q :: s) =
      (afterBlock? c).elim (afterBlock? s) fun r => some (r ++ q :: s) := by
  fun_induction afterBlock? c with
  | case1 rest => rfl
  | case2 a rest h ih =>
    rw [List.cons_append, afterBlock?_cons, ih]
    rintro rfl hhead
    cases rest with
    | nil => exact hq (Option.some.inj hhead)
    | cons b rest =>
      obtain rfl := Option.some.inj hhead
      exact h rest rfl rfl
  | case3 => exact afterBlock?_cons fun he => absurd he hq'

/-- A block comment ends at the first end mark. -/
theorem afterBlock?_closed {c : List Char} (h : ¬ ['*', '/'] <:+: c) (s : List Char) :
    afterBlock? (c ++ '*' :: '/' :: s) = some s := by
  induction c with
  | nil => rw [List.nil_append, afterBlock?]
  | cons a c ih =>
    rw [List.infix_cons_iff, not_or] at h
    rw [List.cons_append, afterBlock?_cons, ih h.2]
    rintro rfl hhead
    cases c with
    | nil => exact nomatch hhead
    | cons b c =>
      obtain rfl := Option.some.inj hhead
      exact h.1 ⟨c, rfl⟩

theorem exists_of_afterBlock? {s r : List Char} (h : afterBlock? s = some r) :
    ∃ u, s = u ++ '*' :: '/' :: r := by
  fun_induction afterBlock? s with
  | case1 rest =>
    cases h
    exact ⟨[], rfl⟩
  | case2 a rest _ ih =>
    obtain ⟨u, rfl⟩ := ih h
    exact ⟨a :: u, rfl⟩
  | case3 => cases h

/-! ## Marks -/

theorem stripComments_cons {a : Char} {s : List Char}
    (h : a = '/' → '/' ∉ s.head? ∧ '*' ∉ s.head?) :
    stripComments (a :: s) = a :: stripComments s := by
  rw [stripComments]
  · rintro rest rfl rfl
    exact (h rfl).1 rfl
  · rintro rest rfl rfl
    exact (h rfl).2 rfl

/-- A text in which no comment begins, and behind which none can begin either, is left. -/
theorem stripComments_append_of_noComment {u : List Char} (h : NoComment u)
    (hlast : '/' ∉ u.getLast?) (s : List Char) :
    stripComments (u ++ s) = u ++ stripComments s := by
  induction u with
  | nil => rfl
  | cons a u ih =>
    have hhead : a = '/' → '/' ∉ (u ++ s).head? ∧ '*' ∉ (u ++ s).head? := by
      rintro rfl
      cases u with
      | nil => exact absurd rfl hlast
      | cons b u =>
        refine ⟨fun hb => h.1 ?_, fun hb => h.2 ?_⟩
        · obtain rfl := Option.some.inj hb
          exact ⟨[], u, rfl⟩
        · obtain rfl := Option.some.inj hb
          exact ⟨[], u, rfl⟩
    have hrest : '/' ∉ u.getLast? := by
      cases u with
      | nil => exact Option.not_mem_none _
      | cons b u => rwa [List.getLast?_cons_cons] at hlast
    rw [List.cons_append, stripComments_cons hhead, ih h.tail hrest, List.cons_append]

theorem stripComments_append {u : List Char} (h : '/' ∉ u) (s : List Char) :
    stripComments (u ++ s) = u ++ stripComments s :=
  stripComments_append_of_noComment (noComment_of_slash_notMem h)
    (fun hm => h (List.mem_of_mem_getLast? hm)) s

theorem stripComments_line (s : List Char) :
    stripComments ('/' :: '/' :: s) = stripComments (s.dropWhile (· != '\n')) := by
  rw [stripComments]

theorem stripComments_block {s r : List Char} (h : afterBlock? s = some r) :
    stripComments ('/' :: '*' :: s) = stripComments r := by
  generalize ht : '/' :: '*' :: s = t
  fun_cases stripComments t with
  | case1 => cases ht
  | case2 rest after h' =>
    cases ht
    rw [Option.some.inj (h.symm.trans h')]
  | case3 rest h' =>
    cases ht
    cases h.symm.trans h'
  | case4 a rest _ hno =>
    cases ht
    exact absurd rfl (hno s rfl)
  | case5 => cases ht

/-- Without an end mark a block comment does not begin. -/
theorem stripComments_unclosed {s : List Char} (h : afterBlock? s = none) :
    stripComments ('/' :: '*' :: s) = '/' :: stripComments ('*' :: s) := by
  generalize ht : '/' :: '*' :: s = t
  fun_cases stripComments t with
  | case1 => cases ht
  | case2 rest after h' =>
    cases ht
    cases h.symm.trans h'
  | case3 =>
    cases ht
    rfl
  | case4 a rest _ hno =>
    cases ht
    exact absurd rfl (hno s rfl)
  | case5 => cases ht

/-! ## Literals -/

/-- A line comment takes the rest of a literal and what follows it on the line. -/
theorem stripComments_front {q : Char} {c s : List Char} (hfeed : '\n' ∉ c) (hqf : q ≠ '\n')
    (hline : ['/', '/'] <+: c) :
    stripComments (c ++ q :: s) = stripComments (s.dropWhile (· != '\n')) := by
  obtain ⟨c', rfl⟩ := hline
  have hdrop : ∀ b ∈ c' ++ [q], (b != '\n') = true := by
    intro b hb
    rw [bne_iff_ne]
    rintro rfl
    rcases List.mem_append.1 hb with hb | hb
    · exact hfeed (List.mem_append_right _ hb)
    · exact hqf (List.mem_singleton.1 hb).symm
  have htext : ['/', '/'] ++ c' ++ q :: s = '/' :: '/' :: (c' ++ [q] ++ s) := by simp
  rw [htext, stripComments_line, List.dropWhile_append_of_pos hdrop]

section Literal
variable {q : Char} (hq : q ≠ '/') (hq' : q ≠ '*') {s : List Char}
include hq hq'

/-- A character of a literal that begins no comment is left. -/
theorem stripComments_step {a : Char} {c : List Char} (hline : ¬ ['/', '/'] <+: a :: c)
    (hopen : ∀ v, a :: c = '/' :: '*' :: v → afterBlock? (v ++ q :: s) = none) :
    stripComments (a :: (c ++ q :: s)) = a :: stripComments (c ++ q :: s) := by
  cases c with
  | nil =>
    refine stripComments_cons fun _ => ⟨fun h => hq ?_, fun h => hq' ?_⟩
    · exact Option.some.inj h
    · exact Option.some.inj h
  | cons b c =>
    by_cases hmark : a = '/' ∧ b = '*'
    · obtain ⟨rfl, rfl⟩ := hmark
      exact stripComments_unclosed (hopen c rfl)
    · refine stripComments_cons fun ha => ⟨fun h => hline ?_, fun h => hmark ⟨ha, ?_⟩⟩
      · obtain rfl := Option.some.inj h
        rw [ha]
        exact ⟨c, rfl⟩
      · exact Option.some.inj h

variable {c : List Char}
  (hopen : ∀ u v, c = u ++ '/' :: '*' :: v → afterBlock? (v ++ q :: s) = none)
include hopen

/-- A literal in which no comment begins is left as it is. -/
theorem stripComments_intact (hline : ¬ ['/', '/'] <:+: c) :
    stripComments (c ++ q :: s) = c ++ q :: stripComments s := by
  induction c with
  | nil => exact stripComments_cons fun h => absurd h hq
  | cons a c ih =>
    rw [List.infix_cons_iff, not_or] at hline
    rw [List.cons_append, stripComments_step hq hq' hline.1 fun v => hopen [] v,
      ih (fun u v h => hopen (a :: u) v (congrArg (a :: ·) h)) hline.2, List.cons_append]

/-- A literal in which a line comment begins is cut there, and the rest of the line goes too. -/
theorem stripComments_cut (hfeed : '\n' ∉ c) (hqf : q ≠ '\n') (hline : ['/', '/'] <:+: c) :
    ∃ c₁, c₁ <+: c ∧
      stripComments (c ++ q :: s) = c₁ ++ stripComments (s.dropWhile (· != '\n')) := by
  induction c with
  | nil => exact absurd (List.infix_nil.1 hline) (List.cons_ne_nil _ _)
  | cons a c ih =>
    by_cases hfront : ['/', '/'] <+: a :: c
    · exact ⟨[], List.nil_prefix, stripComments_front hfeed hqf hfront⟩
    · have htail := (List.infix_cons_iff.1 hline).resolve_left hfront
      obtain ⟨c₁, hpre, heq⟩ := ih (fun u v h => hopen (a :: u) v (congrArg (a :: ·) h))
        (fun h => hfeed (List.mem_cons_of_mem a h)) htail
      refine ⟨a :: c₁, List.cons_prefix_cons.2 ⟨rfl, hpre⟩, ?_⟩
      rw [List.cons_append, stripComments_step hq hq' hfront fun v => hopen [] v, heq,
        List.cons_append]

end Literal

end ProtoCheck.Schema
