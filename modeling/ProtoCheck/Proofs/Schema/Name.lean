import ProtoCheck.Proofs.Path.Join
import ProtoCheck.Schema.Name

/-!
# The names of schemas

* `virtualName?_eq_none_iff` : the schema paths without a name are the relative ones that escape;
* `IsName` : the names that schema paths have; they start from no root (`IsName.startsWith_slash`)
  and have no `..` (`IsName.up_notMem`);
* `IsName.toList_eq` : a name with components is their text, so that names with the same components
  are the same (`IsName.eq_of_parts`).
-/

namespace ProtoCheck.Schema

open ProtoCheck.Path

/-- A name that some schema path has. -/
def IsName (name : String) : Prop := ∃ path, virtualName? path = some name

/-! ## The text of a name -/

theorem dropWhile_slash_root (root : Root) (s : List Char) :
    (root.chars ++ s).dropWhile (· == '/') = s.dropWhile (· == '/') := by
  cases root <;> rfl

/-- What is left of a resolved path without the slashes in front: the text of its components, or
that of the current directory. -/
theorem dropWhile_slash_normalised (path : String) :
    (normalised path).toList.dropWhile (· == '/') = joinParts (resolve path.toList).parts ∨
      (resolve path.toList).parts = [] ∧
        (normalised path).toList.dropWhile (· == '/') = ['.'] := by
  rw [normalised, String.toList_ofList, render]
  split
  · rename_i hempty
    right
    have hjoin := (List.append_eq_nil_iff.1 (List.isEmpty_iff.1 hempty)).2
    have hparts := namedParts_joinParts (resolve_clean path.toList)
    rw [hjoin] at hparts
    exact ⟨hparts.symm, rfl⟩
  · rw [dropWhile_slash_root, dropWhile_slash_joinParts (resolve_clean _)]
    exact .inl rfl

/-- The text of components leads up when the first of them does. -/
theorem leadsUp_iff {parts : List (List Char)} (h : Clean parts) :
    (joinParts parts == up || (Text.after? (up ++ ['/']) (joinParts parts)).isSome) = true ↔
      parts.head? = some up := by
  have hpieces := namedParts_joinParts h
  rw [Bool.or_eq_true, beq_iff_eq, Option.isSome_iff_exists]
  simp only [Text.after?_eq_some_iff]
  constructor
  · rintro (hup | ⟨rest, hrest⟩)
    · rw [hup] at hpieces
      rw [← hpieces]
      rfl
    · rw [hrest, List.append_assoc, List.singleton_append, namedParts_append_slash] at hpieces
      rw [← hpieces]
      rfl
  · intro hhead
    match parts with
    | [part] =>
      left
      exact Option.some.inj hhead
    | part :: next :: rest =>
      right
      refine ⟨joinParts (next :: rest), ?_⟩
      rw [joinParts_cons_cons, Option.some.inj hhead, List.append_assoc]
      rfl

theorem virtualName?_eq_none_iff_head? {path : String} :
    virtualName? path = none ↔ (resolve path.toList).parts.head? = some up := by
  have hclean := resolve_clean path.toList
  unfold virtualName?
  dsimp only
  rcases dropWhile_slash_normalised path with hname | ⟨hparts, hname⟩
  · rw [hname, ← leadsUp_iff hclean]
    split <;> simp_all
  · rw [hname, hparts]
    decide

/-- The schema paths without a name are the relative ones whose components have led up more often
than down at some point. -/
theorem virtualName?_eq_none_iff {path : String} :
    virtualName? path = none ↔
      path.startsWith "/" = false ∧ Escapes (namedParts path.toList) := by
  rw [virtualName?_eq_none_iff_head?, head?_resolve_eq_up_iff, root_eq_relative_iff, Ne,
    ← startsWith_slash_iff, Bool.not_eq_true]

example : virtualName? "a/../../x" = none := by decide

theorem toList_of_virtualName? {path name : String} (h : virtualName? path = some name) :
    name.toList = (normalised path).toList.dropWhile (· == '/') := by
  unfold virtualName? at h
  dsimp only at h
  split at h
  · cases h
  · rw [← Option.some.inj h, String.toList_ofList]

/-- A name is the text of clean components, or that of the current directory. -/
theorem toList_virtualName? {path name : String} (h : virtualName? path = some name) :
    name.toList = joinParts (resolve path.toList).parts ∨
      (resolve path.toList).parts = [] ∧ name.toList = ['.'] := by
  rw [toList_of_virtualName? h]
  exact dropWhile_slash_normalised path

/-! ## The components of a name -/

/-- The components of a name are those of the resolved path. -/
theorem namedParts_virtualName? {path name : String} (h : virtualName? path = some name) :
    namedParts name.toList = (resolve path.toList).parts := by
  rcases toList_virtualName? h with hjoin | ⟨hparts, hdot⟩
  · rw [hjoin, namedParts_joinParts (resolve_clean _)]
  · rw [hdot, hparts]
    rfl

section IsName
variable {name : String} (h : IsName name)
include h

/-- A name has no `..`. -/
theorem IsName.up_notMem : up ∉ namedParts name.toList := by
  obtain ⟨path, h⟩ := h
  rw [namedParts_virtualName? h]
  refine up_notMem_resolve_of_head? fun hhead => ?_
  exact nomatch h.symm.trans (virtualName?_eq_none_iff_head?.2 hhead)

/-- A name starts from no root. -/
theorem IsName.startsWith_slash : name.startsWith "/" = false := by
  obtain ⟨path, h⟩ := h
  rw [← Bool.not_eq_true, startsWith_slash_iff]
  intro hslash
  rcases toList_virtualName? h with hjoin | ⟨-, hdot⟩
  · have hdrop := dropWhile_slash_joinParts (resolve_clean path.toList)
    rw [← hjoin] at hdrop
    obtain ⟨rest, hrest⟩ := List.head?_eq_some_iff.1 hslash
    have hlength := (List.dropWhile_suffix (l := rest) (· == '/')).length_le
    have := congrArg List.length hdrop
    simp [hrest] at this
    omega
  · rw [hdot] at hslash
    exact absurd hslash (by decide)

theorem IsName.toList_eq (hne : namedParts name.toList ≠ []) :
    name.toList = joinParts (namedParts name.toList) := by
  obtain ⟨path, h⟩ := h
  rw [namedParts_virtualName? h] at hne ⊢
  exact (toList_virtualName? h).resolve_right fun hdot => hne hdot.1

end IsName

theorem IsName.eq_of_parts {n m : String} (hn : IsName n) (hm : IsName m)
    (h : namedParts n.toList = namedParts m.toList) (hne : namedParts n.toList ≠ []) : n = m := by
  apply String.toList_injective
  rw [hn.toList_eq hne, hm.toList_eq (h ▸ hne), h]

end ProtoCheck.Schema
