import ProtoCheck.Proofs.Path.Join
import Mathlib.Logic.Relation

/-!
# What a name stands for

The components between the slashes of a name are simplified step by step, in any order: an empty
one and `.` are left out, `..` goes away with the name in front of it, and right behind a root it
goes away alone. Resolving takes the components from the left and stacks them. No step changes what
comes out of that, and it consists of such steps itself, so that all ways of simplifying end in the
resolved components.

* `Step`, `IsNormal` : a step, and components that allow none;
* `resolvedParts_of_step`, `reduces_resolvedParts`, `isNormal_resolvedParts` : what resolving makes
  of components is kept by a step, reached by steps and allows none (`reduces_iff`);
* `Denotes`, `denotes_iff` : the path that a text stands for is the resolved one;
* `normalised_eq_iff`, `normalised_normalised` : names have the same normal form when they stand for
  the same path, and a normal form is its own.
-/

namespace ProtoCheck

namespace Path

/-! ## Steps -/

/-- A component that leads down: not the empty one, `.` or `..`. -/
def LeadsDown (part : List Char) : Prop := part ≠ [] ∧ part ≠ ['.'] ∧ part ≠ up

/-- One step of simplifying the components behind a root. -/
inductive Step (root : Root) : List (List Char) → List (List Char) → Prop where
  /-- The empty component and `.` are left out. -/
  | leaveOut {part : List Char} (front back : List (List Char)) (h : part = [] ∨ part = ['.']) :
      Step root (front ++ part :: back) (front ++ back)
  /-- `..` goes away with the component in front of it. -/
  | cancel {part : List Char} (front back : List (List Char)) (h : LeadsDown part) :
      Step root (front ++ part :: up :: back) (front ++ back)
  /-- Right behind a root it goes away alone. -/
  | atRoot (back : List (List Char)) (h : root ≠ .relative) : Step root (up :: back) back

/-- Components that cannot be simplified. -/
def IsNormal (root : Root) (parts : List (List Char)) : Prop := ∀ parts', ¬ Step root parts parts'

/-- What resolving makes of components. -/
def resolvedParts (root : Root) (parts : List (List Char)) : List (List Char) :=
  ((parts.filter isNamed).foldl (push root) []).reverse

theorem resolve_eq (s : List Char) : resolve s =
    ⟨Root.ofChars s, resolvedParts (Root.ofChars s) (Text.pieces (· == '/') s)⟩ := rfl

theorem isNamed_up : isNamed up = true := rfl

section Steps
variable {root : Root} {parts parts' above : List (List Char)} {part : List Char}

theorem Step.length_lt (h : Step root parts parts') : parts'.length < parts.length := by
  cases h with
  | leaveOut => simp
  | cancel =>
    simp only [List.length_append, List.length_cons]
    omega
  | atRoot => simp

theorem length_le_of_reduces (h : Relation.ReflTransGen (Step root) parts parts') :
    parts'.length ≤ parts.length := by
  induction h with
  | refl => exact Nat.le_refl _
  | tail _ hstep ih => exact Nat.le_trans (Nat.le_of_lt hstep.length_lt) ih

/-! ## Resolving and the steps -/

/-- `..` takes back what the component in front of it did to the stack. -/
theorem push_push_up (h : part ≠ up) : push root (push root above part) up = above := by
  rw [push_of_ne h, push_up_cons h]

theorem push_nil_up (h : root ≠ .relative) : push root [] up = [] := by
  simp [push, h]

/-- No step changes what is resolved. -/
theorem resolvedParts_of_step (h : Step root parts parts') :
    resolvedParts root parts = resolvedParts root parts' := by
  unfold resolvedParts
  cases h with
  | @leaveOut part front back h =>
    have hpart : ¬ isNamed part = true := by
      rw [isNamed_iff]
      exact fun hn => h.elim hn.1 hn.2
    rw [List.filter_append, List.filter_cons_of_neg hpart, List.filter_append]
  | @cancel part front back h =>
    have hpart : isNamed part = true := isNamed_iff.2 ⟨h.1, h.2.1⟩
    rw [List.filter_append, List.filter_cons_of_pos hpart, List.filter_cons_of_pos isNamed_up,
      List.foldl_append, List.foldl_cons, List.foldl_cons, push_push_up h.2.2, List.filter_append,
      List.foldl_append]
  | atRoot _ h =>
    rw [List.filter_cons_of_pos isNamed_up, List.foldl_cons, push_nil_up h]

theorem resolvedParts_of_reduces (h : Relation.ReflTransGen (Step root) parts parts') :
    resolvedParts root parts = resolvedParts root parts' := by
  induction h with
  | refl => rfl
  | tail _ hstep ih => rw [ih, resolvedParts_of_step hstep]

/-- Stacking a component takes at most one step. The stack holds the components that were read,
last ones first. -/
theorem reduces_push (ha : ∀ p ∈ above, isNamed p = true) (part : List Char)
    (rest : List (List Char)) :
    Relation.ReflTransGen (Step root) (above.reverse ++ part :: rest)
      ((push root above part).reverse ++ rest) := by
  by_cases hp : part = up
  · subst hp
    cases above with
    | nil =>
      by_cases hr : root = .relative
      · rw [hr]
        exact .refl
      · rw [push_nil_up hr]
        exact .single (.atRoot rest hr)
    | cons last below =>
      by_cases hlast : last = up
      · rw [hlast]
        simpa [push] using .refl
      · rw [push_up_cons hlast, List.reverse_cons, List.append_assoc, List.singleton_append]
        have hnamed := isNamed_iff.1 (ha last List.mem_cons_self)
        exact .single (.cancel below.reverse rest ⟨hnamed.1, hnamed.2, hlast⟩)
  · rw [push_of_ne hp, List.reverse_cons, List.append_assoc, List.singleton_append]

theorem reduces_foldl_push (parts : List (List Char)) (ha : ∀ p ∈ above, isNamed p = true) :
    Relation.ReflTransGen (Step root) (above.reverse ++ parts)
      ((parts.filter isNamed).foldl (push root) above).reverse := by
  induction parts generalizing above with
  | nil =>
    rw [List.append_nil]
    exact .refl
  | cons part parts ih =>
    by_cases hpart : isNamed part = true
    · have hpush : ∀ p ∈ push root above part, isNamed p = true := fun p hp =>
        (mem_push hp).elim (fun e => e ▸ hpart) (ha p)
      rw [List.filter_cons_of_pos hpart, List.foldl_cons]
      exact (reduces_push ha part parts).trans (ih hpush)
    · have hleft : part = [] ∨ part = ['.'] := by
        rwa [isNamed_iff, not_and_or, not_not, not_not] at hpart
      rw [List.filter_cons_of_neg hpart]
      exact .head (.leaveOut above.reverse parts hleft) (ih ha)

/-- Resolving takes steps. -/
theorem reduces_resolvedParts (parts : List (List Char)) :
    Relation.ReflTransGen (Step root) parts (resolvedParts root parts) :=
  reduces_foldl_push parts fun _ hp => absurd hp List.not_mem_nil

theorem resolvedParts_resolvedParts (parts : List (List Char)) :
    resolvedParts root (resolvedParts root parts) = resolvedParts root parts :=
  (resolvedParts_of_reduces (reduces_resolvedParts parts)).symm

/-- It takes them as long as there are any: a further one would leave something shorter, and the
same would come out of resolving that. -/
theorem isNormal_resolvedParts (parts : List (List Char)) :
    IsNormal root (resolvedParts root parts) := by
  intro next hstep
  have hsame : resolvedParts root next = resolvedParts root parts := by
    rw [← resolvedParts_of_step hstep, resolvedParts_resolvedParts]
  have hle : (resolvedParts root next).length ≤ next.length :=
    length_le_of_reduces (reduces_resolvedParts next)
  rw [hsame] at hle
  exact absurd hstep.length_lt (Nat.not_lt.2 hle)

/-- What the steps end in is what resolving makes of the components. -/
theorem reduces_iff :
    Relation.ReflTransGen (Step root) parts parts' ∧ IsNormal root parts' ↔
      resolvedParts root parts = parts' := by
  constructor
  · rintro ⟨hreduces, hnormal⟩
    rw [resolvedParts_of_reduces hreduces]
    rcases (reduces_resolvedParts parts').cases_head with heq | ⟨next, hstep, -⟩
    · exact heq.symm
    · exact absurd hstep (hnormal next)
  · rintro rfl
    exact ⟨reduces_resolvedParts parts, isNormal_resolvedParts parts⟩

end Steps

/-! ## The path of a text -/

/-- The numbers of slashes in front that make a root: one, or three and more, make the same. -/
def Root.HasSlashes : Root → Nat → Prop
  | .relative, n => n = 0
  | .absolute, n => n = 1 ∨ 3 ≤ n
  | .double, n => n = 2

theorem hasSlashes_iff {root : Root} {s : List Char} :
    root.HasSlashes (s.takeWhile (· == '/')).length ↔ Root.ofChars s = root := by
  rw [root_eq]
  match (s.takeWhile (· == '/')).length with
  | 0 | 1 | 2 | n + 3 => cases root <;> simp [Root.HasSlashes]

/-- A text stands for a path: the slashes in front of it make the root, and the components between
its slashes are simplified to those of the path. -/
structure Denotes (s : List Char) (p : Path) : Prop where
  root : p.root.HasSlashes (s.takeWhile (· == '/')).length
  reduces : Relation.ReflTransGen (Step p.root) (Text.pieces (· == '/') s) p.parts
  normal : IsNormal p.root p.parts

/-- Each text stands for one path, the resolved one. -/
theorem denotes_iff {s : List Char} {p : Path} : Denotes s p ↔ resolve s = p := by
  rw [resolve_eq]
  constructor
  · rintro ⟨hroot, hreduces, hnormal⟩
    rw [hasSlashes_iff.1 hroot, reduces_iff.1 ⟨hreduces, hnormal⟩]
  · rintro rfl
    obtain ⟨hreduces, hnormal⟩ := reduces_iff.2 rfl
    exact ⟨hasSlashes_iff.2 rfl, hreduces, hnormal⟩

/-! ## Normal forms -/

theorem render_inj {p q : Path} (hp : Clean p.parts) (hq : Clean q.parts) :
    p.render = q.render ↔ p = q := by
  refine ⟨fun h => ?_, congrArg render⟩
  rw [← tidy_render hp, h, tidy_render hq]

theorem resolve_eq_of_tidy {s : List Char} {p : Path} (h : tidy s = p) :
    resolve s = ⟨p.root, (p.parts.foldl (push p.root) []).reverse⟩ := by
  rw [← h]
  rfl

/-- The text of a resolved path stands for that path. -/
theorem resolve_render (s : List Char) : resolve (resolve s).render = resolve s := by
  have hnamed : (resolve s).parts.filter isNamed = (resolve s).parts :=
    List.filter_eq_self.2 fun p hp => (resolve_clean s p hp).1
  have htwice : resolvedParts (resolve s).root (resolve s).parts = (resolve s).parts :=
    resolvedParts_resolvedParts (Text.pieces (· == '/') s)
  rw [resolvedParts, hnamed] at htwice
  rw [resolve_eq_of_tidy (tidy_render (resolve_clean s)), htwice]

end Path

open ProtoCheck.Path

/-- Names have the same normal form when the same is resolved from them. -/
theorem normalised_eq_iff_resolve {a b : String} :
    normalised a = normalised b ↔ resolve a.toList = resolve b.toList := by
  unfold normalised
  rw [String.ofList_inj, render_inj (resolve_clean a.toList) (resolve_clean b.toList)]

/-- A normal form is its own. -/
theorem normalised_normalised (a : String) : normalised (normalised a) = normalised a := by
  rw [normalised_eq_iff_resolve, normalised, String.toList_ofList, resolve_render]

/-- Names have the same normal form when they stand for the same path. -/
theorem normalised_eq_iff {a b : String} :
    normalised a = normalised b ↔ ∃ p, Denotes a.toList p ∧ Denotes b.toList p := by
  simp only [normalised_eq_iff_resolve, denotes_iff]
  exact ⟨fun h => ⟨_, h, rfl⟩, fun ⟨p, ha, hb⟩ => ha.trans hb.symm⟩

/-- `..` is kept at the start of a relative path, and means nothing behind two slashes. -/
example : normalised "a/.././../b//c" = "../b/c" ∧ normalised "//../b/./c/" = "//b/c" := by
  decide

end ProtoCheck
