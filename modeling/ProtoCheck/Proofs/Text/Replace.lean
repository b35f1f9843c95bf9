import ProtoCheck.Proofs.Text.Blank

/-!
# Parts of a text replaced

A text is searched from left to right, and the search goes on behind what has been found. In a text
where a percent sign begins a code and stands nowhere else, replacing a code finds the codes that
were written, and nothing that codes form with their neighbours.

* `replaceAll` : a text with one part in place of another;
* `replaceAll_append`, `replaceAll_cons` : what is found, and what is passed over;
* `replaceAll_singleton` : replacing a character;
* `Coded`, `Coded.replace`, `replaceAll_flatMap` : replacing a code in a text with codes.
-/

namespace ProtoCheck.Text

/-- A text with `new` in place of each `old` in it. Its first `inside` characters belong to an `old`
that has been replaced already. -/
def replaceFrom (old new : List Char) : (inside : Nat) → List Char → List Char
  | _, [] => []
  | inside + 1, _ :: rest => replaceFrom old new inside rest
  | 0, c :: rest =>
    if old.isPrefixOf (c :: rest) then new ++ replaceFrom old new (old.length - 1) rest
    else c :: replaceFrom old new 0 rest

/-- A text with `new` in place of each `old` in it; `old` is not empty. -/
def replaceAll (old new s : List Char) : List Char := replaceFrom old new 0 s

section Replace
variable {old new : List Char}

theorem replaceFrom_append (u s : List Char) :
    replaceFrom old new u.length (u ++ s) = replaceAll old new s := by
  induction u with
  | nil => rfl
  | cons a u ih => rw [List.length_cons, List.cons_append, replaceFrom, ih]

theorem replaceAll_append (h : old ≠ []) (s : List Char) :
    replaceAll old new (old ++ s) = new ++ replaceAll old new s := by
  obtain ⟨a, u, rfl⟩ := List.exists_cons_of_ne_nil h
  have hpre : (a :: u).isPrefixOf (a :: u ++ s) = true :=
    List.isPrefixOf_iff_prefix.2 (List.prefix_append _ s)
  rw [List.cons_append] at hpre ⊢
  rw [← replaceFrom_append u s, replaceAll, replaceFrom, if_pos hpre]
  rfl

theorem replaceAll_cons {a : Char} {s : List Char} (h : ¬ old <+: a :: s) :
    replaceAll old new (a :: s) = a :: replaceAll old new s := by
  have hpre : ¬ old.isPrefixOf (a :: s) = true := mt List.isPrefixOf_iff_prefix.1 h
  rw [replaceAll, replaceFrom, if_neg hpre]
  rfl

/-- A character with which `old` does not begin is passed over. -/
theorem replaceAll_cons_of_ne {a b : Char} (h : a ≠ b) (u s : List Char) :
    replaceAll (b :: u) new (a :: s) = a :: replaceAll (b :: u) new s := by
  apply replaceAll_cons
  intro hpre
  exact h (List.cons_prefix_cons.1 hpre).1.symm

end Replace

theorem replaceAll_singleton (c : Char) (new s : List Char) :
    replaceAll [c] new s = s.flatMap fun d => if d = c then new else [d] := by
  induction s with
  | nil => rfl
  | cons d s ih =>
    rw [List.flatMap_cons, ← ih]
    split
    · rename_i hd
      rw [hd]
      exact replaceAll_append (List.cons_ne_nil c []) s
    · rename_i hd
      exact replaceAll_cons_of_ne hd [] s

/-! ## Codes -/

/-- How characters are written in a text with codes: one is a percent sign and two characters behind
it, neither of them a percent sign, and what is no code is a character other than that. -/
def Coded (f : Char → List Char) : Prop :=
  ∀ c, (∃ d, f c = [d] ∧ d ≠ '%') ∨ ∃ a b, f c = ['%', a, b] ∧ a ≠ '%' ∧ b ≠ '%'

/-- A code that stands for a character other than the percent sign gives way to it. -/
theorem Coded.replace {f : Char → List Char} (hf : Coded f) (code : List Char) {d : Char}
    (hd : d ≠ '%') : Coded fun c => if f c = code then [d] else f c := by
  intro c
  dsimp only
  split
  · exact .inl ⟨d, rfl, hd⟩
  · exact hf c

/-- A code is found where it is written and nowhere else. -/
theorem replaceAll_flatMap {f : Char → List Char} (hf : Coded f) (a b d : Char) (s : List Char) :
    replaceAll ['%', a, b] [d] (s.flatMap f) =
      s.flatMap fun c => if f c = ['%', a, b] then [d] else f c := by
  induction s with
  | nil => rfl
  | cons c s ih =>
    rw [List.flatMap_cons, List.flatMap_cons, ← ih]
    rcases hf c with ⟨x, hc, hx⟩ | ⟨x, y, hc, hx, hy⟩
    · rw [hc, if_neg (by simp)]
      exact replaceAll_cons_of_ne hx _ _
    · rw [hc]
      split
      · rename_i hcode
        rw [hcode]
        exact replaceAll_append (List.cons_ne_nil _ _) _
      · rename_i hcode
        have hmiss : ¬ ['%', a, b] <+: '%' :: x :: y :: s.flatMap f := by
          intro hpre
          obtain ⟨rfl, rfl⟩ : a = x ∧ b = y := by simpa [List.cons_prefix_cons] using hpre
          exact hcode rfl
        show replaceAll ['%', a, b] [d] ('%' :: x :: y :: s.flatMap f) = _
        rw [replaceAll_cons hmiss, replaceAll_cons_of_ne hx, replaceAll_cons_of_ne hy]
        rfl

end ProtoCheck.Text
