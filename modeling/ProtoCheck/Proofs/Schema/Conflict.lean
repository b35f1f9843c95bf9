import ProtoCheck.Schema.Staging
import Mathlib.Data.List.GetD
import Mathlib.Data.List.Infix

/-!
# Staged files that stand beside each other

* `Storable` : components that a disk takes as the place of a file under a root;
* `length_stagedPath_concat` : the path of a directory is shorter than those of the files in it;
* `Apart` : of two files in one directory neither stands where the other needs a directory;
* `conflict?_eq_none_iff` : a file can be staged when it is storable and apart from all others.
-/

namespace ProtoCheck.Schema

/-- Components that a disk takes as the place of a file under the root of a number: there are some,
none of them has a NUL character or is too long, and neither is the whole path. -/
structure Storable (dir : String) (root : Nat) (parts : List (List Char)) : Prop where
  named : parts ≠ []
  plain : ∀ p ∈ parts, '\x00' ∉ p
  short : ∀ p ∈ parts, (Utf8.encode p).length ≤ Tree.maxComponent
  fits : (Utf8.encode (stagedPath dir root parts)).length < Tree.maxPath

/-- Under one root neither file stands where the other needs a directory. -/
def Apart (f g : StagedFile) : Prop :=
  f.root = g.root → ¬ f.parts <+: g.parts.dropLast ∧ ¬ g.parts <+: f.parts.dropLast

theorem Apart.symm {f g : StagedFile} (h : Apart f g) : Apart g f :=
  fun e => (h e.symm).symm

theorem ite_eq_none_iff {α : Type} {p : Prop} [Decidable p] {a : α} {o : Option α} :
    ((if p then some a else o) = none) ↔ ¬ p ∧ o = none := by
  by_cases h : p
  · rw [if_pos h]
    exact ⟨fun e => absurd e (Option.some_ne_none a), fun e => absurd h e.1⟩
  · rw [if_neg h]
    exact ⟨fun e => ⟨h, e⟩, And.right⟩

theorem take_length_eq_iff {α : Type} {a b : List α} : b.take a.length = a ↔ a <+: b := by
  rw [List.prefix_iff_eq_take]
  exact eq_comm

/-- A component more makes a path longer. -/
theorem length_stagedPath_concat (dir : String) (root : Nat) (parts : List (List Char))
    (p : List Char) : (Utf8.encode (stagedPath dir root (parts ++ [p]))).length =
      (Utf8.encode (stagedPath dir root parts)).length + (Utf8.encode ('/' :: p)).length := by
  have hpath : stagedPath dir root (parts ++ [p]) = stagedPath dir root parts ++ '/' :: p := by
    unfold stagedPath
    rw [List.flatMap_append, List.flatMap_singleton, List.append_assoc]
  rw [hpath, Utf8.encode, List.flatMap_append, List.length_append]
  rfl

/-- No directory of a path is too long or taken by one of the files. -/
theorem parentConflict?_eq_none_iff {files : List (List (List Char))} (hf : [] ∉ files)
    {parents : List (List Char)} :
    parentConflict? files parents = none ↔
      (∀ p ∈ parents, (Utf8.encode p).length ≤ Tree.maxComponent) ∧
        ∀ f ∈ files, ¬ f <+: parents := by
  unfold parentConflict?
  simp only [List.findSome?_eq_none_iff, List.mem_range, ite_eq_none_iff, Nat.not_lt, and_true,
    List.contains_iff_mem]
  constructor
  · intro h
    refine ⟨fun p hp => ?_, fun f hmem hpre => ?_⟩
    · obtain ⟨i, hi, rfl⟩ := List.getElem_of_mem hp
      have hle := (h i hi).1
      rwa [List.getD_eq_getElem _ _ hi] at hle
    · cases f with
      | nil => exact hf hmem
      | cons a f =>
        have hle := hpre.length_le
        rw [List.prefix_iff_eq_take] at hpre
        rw [hpre, List.length_cons] at hmem
        rw [List.length_cons] at hle
        exact (h f.length (by omega)).2 hmem
  -- the directories of the path are its starts that are not empty
  · rintro ⟨hlen, hfree⟩ i hi
    refine ⟨?_, fun hmem => hfree _ hmem (List.take_prefix _ _)⟩
    rw [List.getD_eq_getElem _ _ hi]
    exact hlen _ (List.getElem_mem hi)

/-- A name without components cannot be staged. -/
theorem parts_ne_nil_of_conflict? {dir : String} {files : List StagedFile} {i : Nat} {n : String}
    (h : conflict? dir files i n = none) : Path.namedParts n.toList ≠ [] := by
  intro hn
  unfold conflict? parentConflict? at h
  rw [hn] at h
  simp [ite_eq_none_iff] at h

/-- A file can be staged when it is storable and apart from all that are staged. -/
theorem conflict?_eq_none_iff {dir : String} {staged : List StagedFile}
    (hs : ∀ f ∈ staged, f.parts ≠ []) (f : StagedFile) :
    conflict? dir staged f.root f.name = none ↔
      Storable dir f.root f.parts ∧ ∀ g ∈ staged, Apart g f := by
  rcases List.eq_nil_or_concat' f.parts with hnil | ⟨parents, last, hparts⟩
  · exact ⟨fun h => absurd hnil (parts_ne_nil_of_conflict? h), fun h => absurd hnil h.1.named⟩
  · have hf : [] ∉ (staged.filter (·.root == f.root)).map StagedFile.parts := by
      intro hm
      obtain ⟨g, hg, he⟩ := List.mem_map.1 hm
      exact hs g (List.mem_of_mem_filter hg) he
    have hparts' : Path.namedParts f.name.toList = parents ++ [last] := hparts
    have hne : parents ++ [last] ≠ [] :=
      List.append_ne_nil_of_right_ne_nil parents (List.cons_ne_nil last [])
    unfold conflict? Apart
    simp only [hparts', hparts, List.dropLast_concat, List.getLast?_concat, Option.getD_some,
      ite_eq_none_iff, Option.orElse_eq_or, Option.or_eq_none_iff,
      parentConflict?_eq_none_iff hf, List.any_eq_true, Bool.or_eq_true, take_length_eq_iff,
      List.contains_iff_mem, Nat.not_lt, Nat.not_le, and_true, List.isEmpty_iff, List.mem_map,
      List.mem_filter, beq_iff_eq]
    constructor
    · rintro ⟨hnul, -, ⟨hlen, hparents⟩, hnul', hfits, hlen', hlast⟩
      refine ⟨⟨hne, ?_, ?_, hfits⟩, fun g hg hr => ⟨?_, ?_⟩⟩
      · rw [List.forall_mem_append, List.forall_mem_singleton]
        exact ⟨fun p hp hm => hnul ⟨p, hp, hm⟩, hnul'⟩
      · rw [List.forall_mem_append, List.forall_mem_singleton]
        exact ⟨hlen, hlen'⟩
      · exact hparents _ ⟨g, ⟨hg, hr⟩, rfl⟩
      · exact fun hp => hlast (.inr ⟨_, ⟨g, ⟨hg, hr⟩, rfl⟩, hp⟩)
    · rintro ⟨⟨-, hplain, hshort, hfits⟩, hapart⟩
      rw [List.forall_mem_append, List.forall_mem_singleton] at hplain hshort
      refine ⟨?_, ?_, ⟨hshort.1, ?_⟩, hplain.2, hfits, hshort.2, ?_⟩
      · rintro ⟨p, hm, hnul⟩
        exact hplain.1 p hm hnul
      -- the path of the directory is shorter than that of the file
      · rw [length_stagedPath_concat] at hfits
        exact Nat.lt_of_le_of_lt (Nat.le_add_right _ _) hfits
      · rintro _ ⟨g, ⟨hg, hr⟩, rfl⟩
        exact (hapart g hg hr).1
      · rintro (he | ⟨_, ⟨g, ⟨hg, hr⟩, rfl⟩, hpre⟩)
        · exact hne he
        · exact (hapart g hg hr).2 hpre

end ProtoCheck.Schema
