import ProtoCheck.Proofs.Path.Ascent
import Mathlib.Data.List.TakeWhile

/-!
# Paths below a directory

A name joined to a directory stands behind the directory's text and a slash. Where the name does
not start from a root itself, the path starts from where the directory does, and its components are
those of the directory and then those of the name.

* `startsWith_iff_head?`, `toList_join` : texts that start with some character, and the text of a
  name joined to a directory;
* `root_join`, `namedParts_join` : where it starts from, and its components;
* `tidy_join`, `resolve_join` : so both readings of it lie below the directory, the one that cancels
  when the name has no `..`.
-/

namespace ProtoCheck.Path

/-! ## Texts -/

theorem startsWith_iff_head? {s start : String} {c : Char} (h : start.toList = [c]) :
    s.startsWith start = true ↔ s.toList.head? = some c := by
  rw [String.startsWith_string_iff, h]
  cases s.toList with
  | nil => simp
  | cons d rest => simp [eq_comm]

theorem startsWith_slash_iff {s : String} :
    s.startsWith "/" = true ↔ s.toList.head? = some '/' :=
  startsWith_iff_head? rfl

theorem endsWith_slash_iff {s : String} :
    s.endsWith "/" = true ↔ ∃ front, s.toList = front ++ ['/'] := by
  rw [← String.endsWith_toSlice, String.Slice.endsWith_string_iff, String.copy_toSlice]
  exact exists_congr fun front => eq_comm

/-- A name that does not start from a root, joined to a directory: it stands alone when the
directory is empty, and otherwise behind a slash, which is the directory's own if there is one. -/
theorem toList_join (dir : String) {name : String} (h : name.startsWith "/" = false) :
    (dir.toList = [] ∧ (join dir name).toList = name.toList) ∨
    ∃ front, (join dir name).toList = front ++ '/' :: name.toList ∧
      (dir.toList = front ++ ['/'] ∨
        dir.toList = front ∧ front ≠ [] ∧ ∀ before, front ≠ before ++ ['/']) := by
  unfold join
  rw [h]
  by_cases hempty : dir.toList = []
  · have hdir : dir = "" := String.toList_eq_nil_iff.1 hempty
    exact .inl ⟨hempty, by simp [hdir]⟩
  · right
    have hdir : dir.isEmpty = false := by simpa using hempty
    by_cases hends : dir.endsWith "/" = true
    · obtain ⟨front, hfront⟩ := endsWith_slash_iff.1 hends
      refine ⟨front, ?_, .inl hfront⟩
      simp [hends, hfront]
    · refine ⟨dir.toList, ?_, .inr ⟨rfl, hempty, fun before he => hends ?_⟩⟩
      · simp [hdir, hends]
      · exact endsWith_slash_iff.2 ⟨before, he⟩

/-! ## Components -/

theorem namedParts_append_slash (front rest : List Char) :
    namedParts (front ++ '/' :: rest) = namedParts front ++ namedParts rest := by
  unfold namedParts
  rw [Text.pieces_append (by rfl), List.filter_append]

theorem namedParts_nil : namedParts [] = [] := rfl

theorem namedParts_join {dir name : String} (h : name.startsWith "/" = false) :
    namedParts (join dir name).toList = namedParts dir.toList ++ namedParts name.toList := by
  rcases toList_join dir h with ⟨hdir, hjoin⟩ | ⟨front, hjoin, hdir | ⟨hdir, -, -⟩⟩
  · rw [hjoin, hdir, namedParts_nil, List.nil_append]
  · rw [hjoin, hdir, namedParts_append_slash, namedParts_append_slash, namedParts_nil,
      List.append_nil]
  · rw [hjoin, hdir, namedParts_append_slash]

/-! ## Roots -/

theorem takeWhile_slash_eq_nil {s : List Char} (h : ∀ rest, s ≠ '/' :: rest) :
    s.takeWhile (· == '/') = [] := by
  cases s with
  | nil => rfl
  | cons c rest =>
    have hc : c ≠ '/' := fun e => h rest (by rw [e])
    simp [hc]

/-- A root is made by the number of slashes in front. -/
theorem root_eq (s : List Char) : Root.ofChars s =
    match (s.takeWhile (· == '/')).length with
    | 0 => .relative
    | 2 => .double
    | _ => .absolute := by
  unfold Root.ofChars
  split
  · simp
  · rename_i rest h
    simp [takeWhile_slash_eq_nil h]
  · rename_i rest h h'
    simp [takeWhile_slash_eq_nil h']
  · rename_i h
    rw [takeWhile_slash_eq_nil h]
    rfl

theorem root_eq_relative_iff {s : List Char} :
    Root.ofChars s = .relative ↔ s.head? ≠ some '/' := by
  cases s with
  | nil => simp [Root.ofChars]
  | cons c rest =>
    rw [root_eq]
    by_cases hc : c = '/'
    · simp [hc]
      split <;> simp_all
    · simp [hc]

/-- What stands behind a slash does not matter when it begins with none. -/
theorem root_slash_append (front : List Char) {rest : List Char} (h : rest.head? ≠ some '/') :
    Root.ofChars (front ++ '/' :: rest) = Root.ofChars (front ++ ['/']) := by
  have hrest : rest.takeWhile (· == '/') = [] :=
    takeWhile_slash_eq_nil fun tail e => h (by rw [e]; rfl)
  simp [root_eq, List.takeWhile_append, hrest]

/-- Nor does it behind a text that ends in no slash. -/
theorem root_append_slash {front : List Char} (hne : front ≠ [])
    (h : ∀ before, front ≠ before ++ ['/']) (rest : List Char) :
    Root.ofChars (front ++ '/' :: rest) = Root.ofChars front := by
  have hlength : (front.takeWhile (· == '/')).length ≠ front.length := by
    intro he
    have hall := List.takeWhile_eq_self_iff.1 ((List.takeWhile_prefix (· == '/')).eq_of_length he)
    obtain ⟨before, last, hlast⟩ := (List.eq_nil_or_concat' front).resolve_left hne
    have hslash : last = '/' := by simpa using hall last (by simp [hlast])
    exact h before (hslash ▸ hlast)
  rw [root_eq, root_eq, List.takeWhile_append, if_neg hlength]

theorem root_join {dir name : String} (h : name.startsWith "/" = false) :
    Root.ofChars (join dir name).toList = Root.ofChars dir.toList := by
  have hname : name.toList.head? ≠ some '/' := by
    rw [Ne, ← startsWith_slash_iff, h]
    exact Bool.false_ne_true
  rcases toList_join dir h with ⟨hdir, hjoin⟩ | ⟨front, hjoin, hdir | ⟨hdir, hne, hends⟩⟩
  · rw [hjoin, hdir]
    exact root_eq_relative_iff.2 hname
  · rw [hjoin, hdir, root_slash_append front hname]
  · rw [hjoin, hdir, root_append_slash hne hends]

/-! ## Both readings -/

/-- A name joined to a directory lies below it. -/
theorem tidy_join {dir name : String} (h : name.startsWith "/" = false) :
    tidy (join dir name).toList =
      ⟨(tidy dir.toList).root, (tidy dir.toList).parts ++ namedParts name.toList⟩ := by
  unfold tidy
  rw [root_join h, namedParts_join h]

theorem foldl_push_of_notMem {root : Root} {parts : List (List Char)} (h : up ∉ parts)
    (above : List (List Char)) : parts.foldl (push root) above = parts.reverse ++ above := by
  induction parts generalizing above with
  | nil => rfl
  | cons part parts ih =>
    have hpart : part ≠ up := fun e => h (e ▸ List.mem_cons_self)
    rw [List.foldl_cons, push_of_ne hpart, ih fun hm => h (List.mem_cons_of_mem part hm)]
    simp

/-- So does a name without `..` when the components of the directory are cancelled. -/
theorem resolve_join {dir name : String} (h : name.startsWith "/" = false)
    (hup : up ∉ namedParts name.toList) :
    resolve (join dir name).toList =
      ⟨(resolve dir.toList).root, (resolve dir.toList).parts ++ namedParts name.toList⟩ := by
  unfold resolve
  simp [root_join h, namedParts_join h, foldl_push_of_notMem hup]

end ProtoCheck.Path
