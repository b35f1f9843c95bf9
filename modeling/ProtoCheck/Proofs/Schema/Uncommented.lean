import Mathlib.Data.List.TakeWhile
import ProtoCheck.Proofs.Schema.Comments

/-!
# What is left without comments

Cutting a comment out joins what stands around it. In front of a comment the last character that is
left is never a slash: with the slash that begins the comment it would begin one itself. So nothing
new is formed where texts are joined, and a block comment that is left does not end.

* `CommentAt` : a comment at the front of a text, with what follows it;
* `comment_induction` : a text read from left to right, character by character and comment by
  comment;
* `Scan`, `scan_stripComments` : cutting comments out on the way, which leaves `stripComments`;
* `Scan.slash_notMem_getLast?` : what is left in front of a comment;
* `Uncommented`, `uncommented_stripComments` : a text that holds no comment, as one is after the
  cut;
* `stripComments_leaves_none` : all of this.
-/

namespace ProtoCheck.Schema

open Text

/-! ## Comments -/

/-- A text begins with a comment, and `rest` follows it: behind two slashes the rest of the line,
behind a slash with a star everything up to the first star with a slash. -/
inductive CommentAt : List Char → List Char → Prop
  | line {c rest : List Char} (h : '\n' ∉ c) (hend : ∀ a ∈ rest.head?, a = '\n') :
      CommentAt ('/' :: '/' :: (c ++ rest)) rest
  | block {c rest : List Char} (h : ¬ ['*', '/'] <:+: c) :
      CommentAt ('/' :: '*' :: (c ++ '*' :: '/' :: rest)) rest

/-- What follows the end mark of a block comment follows the first one. -/
theorem exists_first_of_afterBlock? {s r : List Char} (h : afterBlock? s = some r) :
    ∃ c, s = c ++ '*' :: '/' :: r ∧ ¬ ['*', '/'] <:+: c := by
  fun_induction afterBlock? s with
  | case1 rest =>
    cases h
    exact ⟨[], rfl, by simp⟩
  | case2 a rest hne ih =>
    obtain ⟨c, rfl, hc⟩ := ih h
    refine ⟨a :: c, rfl, fun hinf => ?_⟩
    rcases List.infix_cons_iff.1 hinf with ⟨more, hmore⟩ | hinf
    · obtain ⟨rfl, rfl⟩ := List.cons.inj hmore
      exact hne _ rfl rfl
    · exact hc hinf
  | case3 => cases h

theorem exists_afterBlock? {s : List Char} (h : ['*', '/'] <:+: s) :
    ∃ r, afterBlock? s = some r := by
  fun_induction afterBlock? s with
  | case1 rest => exact ⟨rest, rfl⟩
  | case2 a rest hne ih =>
    rcases List.infix_cons_iff.1 h with ⟨more, hmore⟩ | hinf
    · obtain ⟨rfl, rfl⟩ := List.cons.inj hmore
      exact absurd rfl (hne _ rfl)
    · exact ih hinf
  | case3 => exact absurd (List.infix_nil.1 h) (List.cons_ne_nil _ _)

theorem commentAt_line (s : List Char) :
    CommentAt ('/' :: '/' :: s) (s.dropWhile (· != '\n')) := by
  have hline : '\n' ∉ s.takeWhile (· != '\n') := by
    intro h
    simpa using List.mem_takeWhile_imp h
  have hend : ∀ a ∈ (s.dropWhile (· != '\n')).head?, a = '\n' := by
    intro a ha
    have hne := List.head?_dropWhile_not (· != '\n') s
    rw [ha] at hne
    simpa using hne
  have h := CommentAt.line hline hend
  rwa [List.takeWhile_append_dropWhile] at h

theorem commentAt_block {s r : List Char} (h : afterBlock? s = some r) :
    CommentAt ('/' :: '*' :: s) r := by
  obtain ⟨c, rfl, hc⟩ := exists_first_of_afterBlock? h
  exact .block hc

theorem CommentAt.head?_eq {s r : List Char} (h : CommentAt s r) : s.head? = some '/' := by
  cases h <;> rfl

/-- A comment at the front of a text is cut out. -/
theorem CommentAt.stripComments_eq {s r : List Char} (h : CommentAt s r) :
    stripComments s = stripComments r := by
  cases h with
  | @line c _ hc hend =>
    have hpos : ∀ a ∈ c, (a != '\n') = true := by
      intro a ha
      rw [bne, beq_false_of_notMem hc a ha]
      rfl
    have hdrop : r.dropWhile (· != '\n') = r := by
      cases r with
      | nil => rfl
      | cons a r => rw [hend a rfl, List.dropWhile_cons_of_neg (by decide)]
    rw [stripComments_line, List.dropWhile_append_of_pos hpos, hdrop]
  | block hc => exact stripComments_block (afterBlock?_closed hc r)

/-- Without an end mark no block comment begins. -/
theorem not_commentAt_unclosed {s : List Char} (h : afterBlock? s = none) (r : List Char) :
    ¬ CommentAt ('/' :: '*' :: s) r := by
  rintro (_ | hc)
  rw [afterBlock?_closed hc] at h
  cases h

/-- A text is read from left to right: a comment at its front as a whole, and else a character. -/
theorem comment_induction {motive : List Char → Prop} (nil : motive [])
    (cut : ∀ s r, CommentAt s r → motive r → motive s)
    (keep : ∀ a s, (∀ r, ¬ CommentAt (a :: s) r) → motive s → motive (a :: s))
    (s : List Char) : motive s := by
  fun_induction stripComments s with
  | case1 rest ih => exact cut _ _ (commentAt_line rest) ih
  | case2 rest after hafter ih => exact cut _ _ (commentAt_block hafter) ih
  | case3 rest hunclosed ih => exact keep _ _ (not_commentAt_unclosed hunclosed) ih
  | case4 a rest hline hblock ih =>
    refine keep a rest (fun r h => ?_) ih
    cases h with
    | line => exact hline _ rfl rfl
    | block => exact hblock _ rfl rfl
  | case5 => exact nil

/-- A character with which no comment begins is left. -/
theorem stripComments_of_not_commentAt {a : Char} {s : List Char}
    (h : ∀ r, ¬ CommentAt (a :: s) r) : stripComments (a :: s) = a :: stripComments s := by
  by_cases hmark : a = '/' ∧ '*' ∈ s.head?
  · obtain ⟨rfl, hstar⟩ := hmark
    obtain ⟨s, rfl⟩ := List.head?_eq_some_iff.1 hstar
    cases hafter : afterBlock? s with
    | none => exact stripComments_unclosed hafter
    | some r => exact absurd (commentAt_block hafter) (h r)
  · refine stripComments_cons fun ha => ⟨fun hslash => ?_, fun hstar => hmark ⟨ha, hstar⟩⟩
    obtain ⟨s, rfl⟩ := List.head?_eq_some_iff.1 hslash
    subst ha
    exact h _ (commentAt_line s)

/-! ## Cutting from left to right -/

/-- A text is read from left to right: `kept` is left of what has been read, and `rest` is still to
be read. A comment is cut out as soon as one begins. -/
inductive Scan (s : List Char) : (kept rest : List Char) → Prop
  | start : Scan s [] s
  | keep {kept rest : List Char} {a : Char} (h : Scan s kept (a :: rest))
      (hnone : ∀ r, ¬ CommentAt (a :: rest) r) : Scan s (kept ++ [a]) rest
  | cut {kept x rest : List Char} (h : Scan s kept x) (hcut : CommentAt x rest) : Scan s kept rest

namespace Scan
variable {s kept rest : List Char}

theorem stripComments_eq (h : Scan s kept rest) : stripComments s = kept ++ stripComments rest := by
  induction h with
  | start => rfl
  | keep _ hnone ih => rw [ih, stripComments_of_not_commentAt hnone, ← List.append_cons]
  | cut _ hcut ih => rw [ih, hcut.stripComments_eq]

/-- Every text is read to its end. -/
theorem finish (h : Scan s kept rest) : Scan s (kept ++ stripComments rest) [] := by
  induction rest using comment_induction generalizing kept with
  | nil =>
    rw [stripComments, List.append_nil]
    exact h
  | cut x rest hcut ih =>
    rw [hcut.stripComments_eq]
    exact ih (h.cut hcut)
  | keep a rest hnone ih =>
    rw [stripComments_of_not_commentAt hnone, List.append_cons]
    exact ih (h.keep hnone)

/-- A slash that is left is followed by no slash, also when comments between them are cut out. -/
theorem slash_notMem_head? (h : Scan s kept rest) (hlast : '/' ∈ kept.getLast?) :
    '/' ∉ rest.head? := by
  induction h with
  | start => cases hlast
  | @keep kept rest a _ hnone ih =>
    intro hhead
    obtain ⟨rest, rfl⟩ := List.head?_eq_some_iff.1 hhead
    obtain rfl : a = '/' := by simpa using hlast
    exact hnone _ (commentAt_line rest)
  | cut _ hcut ih => exact absurd hcut.head?_eq (ih hlast)

/-- What is left in front of a comment does not end with a slash. -/
theorem slash_notMem_getLast? (h : Scan s kept rest) {r : List Char} (hcut : CommentAt rest r) :
    '/' ∉ kept.getLast? :=
  fun hlast => h.slash_notMem_head? hlast hcut.head?_eq

end Scan

theorem scan_stripComments (s : List Char) : Scan s (stripComments s) [] := Scan.start.finish

/-! ## Texts without comments -/

/-- A text that holds no comment: no two slashes, and behind a slash with a star no star with a
slash. -/
structure Uncommented (s : List Char) : Prop where
  line : ¬ ['/', '/'] <:+: s
  block : ∀ u v, s = u ++ '/' :: '*' :: v → ¬ ['*', '/'] <:+: v

namespace Uncommented
variable {a : Char} {s : List Char}

theorem nil : Uncommented [] where
  line := by simp
  block u v h := by simp at h

theorem tail (h : Uncommented (a :: s)) : Uncommented s where
  line hinf := h.line (List.infix_cons hinf)
  block u v hs := h.block (a :: u) v (congrArg (a :: ·) hs)

theorem of_append {u v : List Char} (h : Uncommented (u ++ v)) : Uncommented u where
  line hinf := h.line (hinf.trans (List.prefix_append u v).isInfix)
  block x y hu hinf :=
    h.block x (y ++ v) (by simp [hu]) (hinf.trans (List.prefix_append y v).isInfix)

theorem cons (h : Uncommented s)
    (hslash : a = '/' → '/' ∉ s.head? ∧ ∀ v, s = '*' :: v → ¬ ['*', '/'] <:+: v) :
    Uncommented (a :: s) where
  line hinf := by
    rcases List.infix_cons_iff.1 hinf with ⟨more, hmore⟩ | hinf
    · obtain ⟨rfl, rfl⟩ := List.cons.inj hmore
      exact (hslash rfl).1 rfl
    · exact h.line hinf
  block u v hs := by
    cases u with
    | nil =>
      obtain ⟨rfl, rfl⟩ := List.cons.inj hs
      exact (hslash rfl).2 v rfl
    | cons b u => exact h.block u v (List.cons.inj hs).2

/-- No comment begins in a text that holds none. -/
theorem not_commentAt (h : Uncommented s) (r : List Char) : ¬ CommentAt s r := by
  intro hcut
  cases hcut with
  | line => exact h.line ⟨[], _, rfl⟩
  | @block c => exact h.block [] _ rfl ⟨c, r, by simp⟩

/-- A text that holds no comment is left as it is. -/
theorem stripComments_eq (h : Uncommented s) : stripComments s = s := by
  induction s with
  | nil => rw [stripComments]
  | cons a s ih => rw [stripComments_of_not_commentAt h.not_commentAt, ih h.tail]

end Uncommented

/-- A text that does not begin with a slash keeps its first character. -/
theorem head?_stripComments {s : List Char} (h : '/' ∉ s.head?) :
    (stripComments s).head? = s.head? := by
  cases s with
  | nil => rw [stripComments]
  | cons a s =>
    rw [stripComments_cons fun ha => absurd (congrArg some ha) h]
    rfl

/-- Where no end mark stands, none is formed: what a line comment is cut from goes on with a line
feed. -/
theorem not_infix_stripComments {s : List Char} (h : ¬ ['*', '/'] <:+: s) :
    ¬ ['*', '/'] <:+: stripComments s := by
  induction s using comment_induction with
  | nil => rwa [stripComments]
  | cut s r hcut ih =>
    rw [hcut.stripComments_eq]
    cases hcut with
    | @line c => exact ih fun hinf => h (hinf.trans ⟨'/' :: '/' :: c, [], by simp⟩)
    | @block c => exact absurd ⟨'/' :: '*' :: c, r, by simp⟩ h
  | keep a s hnone ih =>
    rw [stripComments_of_not_commentAt hnone]
    intro hinf
    rcases List.infix_cons_iff.1 hinf with ⟨more, hmore⟩ | hinf
    · obtain rfl := (List.cons.inj hmore).1
      have hslash : '/' ∉ s.head? := by
        intro hhead
        obtain ⟨s, rfl⟩ := List.head?_eq_some_iff.1 hhead
        exact h ⟨[], s, rfl⟩
      apply hslash
      rw [← head?_stripComments hslash, ← (List.cons.inj hmore).2]
      rfl
    · exact ih (fun hs => h (List.infix_cons hs)) hinf

/-- **A text without its comments holds none.** -/
theorem uncommented_stripComments (s : List Char) : Uncommented (stripComments s) := by
  induction s using comment_induction with
  | nil =>
    rw [stripComments]
    exact .nil
  | cut s r hcut ih =>
    rw [hcut.stripComments_eq]
    exact ih
  | keep a s hnone ih =>
    rw [stripComments_of_not_commentAt hnone]
    refine ih.cons fun ha => ?_
    subst ha
    have hslash : '/' ∉ s.head? := by
      intro hhead
      obtain ⟨s, rfl⟩ := List.head?_eq_some_iff.1 hhead
      exact hnone _ (commentAt_line s)
    have hhead := head?_stripComments hslash
    refine ⟨by rwa [hhead], fun v hv => ?_⟩
    -- the star stands behind the slash in the text, and no end mark behind both
    rw [hv] at hhead
    obtain ⟨s, rfl⟩ := List.head?_eq_some_iff.1 hhead.symm
    rw [stripComments_cons fun ha => absurd ha (by decide)] at hv
    obtain rfl := (List.cons.inj hv).2
    apply not_infix_stripComments
    intro hinf
    obtain ⟨r, hr⟩ := exists_afterBlock? hinf
    exact hnone r (commentAt_block hr)

/-- **Cutting comments out leaves no comment behind.** The text that is left is what a reading from
left to right keeps, and it holds no two slashes and no slash with a star that a star with a slash
follows. So a second cut changes nothing and hides no import. Wherever a comment is cut out, what is
left in front of it and what is left behind it are joined as they are, and no comment begins with
the end of the one and the beginning of the other. -/
theorem stripComments_leaves_none (s : List Char) :
    Scan s (stripComments s) [] ∧
    ¬ ['/', '/'] <:+: stripComments s ∧
    (∀ u v, stripComments s = u ++ '/' :: '*' :: v → ¬ ['*', '/'] <:+: v) ∧
    stripComments (stripComments s) = stripComments s ∧
    scanImports (stripComments s) = scanImports s ∧
    ∀ kept x rest, Scan s kept x → CommentAt x rest →
      stripComments s = kept ++ stripComments rest ∧ '/' ∉ kept.getLast? ∧
      stripComments (kept ++ stripComments rest) = stripComments kept ++ stripComments rest := by
  have hnone := uncommented_stripComments s
  have htwice := hnone.stripComments_eq
  refine ⟨scan_stripComments s, hnone.line, hnone.block, htwice, ?_, ?_⟩
  · unfold scanImports
    rw [htwice]
  · intro kept x rest hscan hcut
    have heq := (hscan.cut hcut).stripComments_eq
    refine ⟨heq, hscan.slash_notMem_getLast? hcut, ?_⟩
    have hkept : Uncommented kept := Uncommented.of_append (heq ▸ hnone)
    rw [← heq, htwice, hkept.stripComments_eq, heq]

end ProtoCheck.Schema
