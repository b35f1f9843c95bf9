import ProtoCheck.Path
import ProtoCheck.Proofs.Text.Blank

/-!
# Components of paths

* `Clean` : components that are the components of their own text (`namedParts_joinParts`);
* `namedParts_clean`, `resolve_clean` : both readings of a path have such components, since what
  resolving stacks is among what it reads (`mem_push`);
* `tidy_render`, `tidied_tidied` : a tidied path is its own tidied form;
* `mem_tidied` : tidying a path keeps its characters, slashes and points aside.
-/

namespace ProtoCheck

namespace Path

theorem isNamed_iff {part : List Char} : isNamed part = true ↔ part ≠ [] ∧ part ≠ ['.'] := by
  simp [isNamed]

/-- Components that each name something and hold no slash. -/
def Clean (parts : List (List Char)) : Prop := ∀ p ∈ parts, isNamed p = true ∧ '/' ∉ p

theorem namedParts_clean (s : List Char) : Clean (namedParts s) := by
  intro p hp
  obtain ⟨hp, hn⟩ := List.mem_filter.1 hp
  refine ⟨hn, fun hs => ?_⟩
  have := Text.sep_of_mem_pieces hp '/' hs
  cases this

/-- Only the component that is stacked can be new. -/
theorem mem_push {root : Root} {above : List (List Char)} {part p : List Char}
    (h : p ∈ push root above part) : p = part ∨ p ∈ above := by
  unfold push at h
  split at h
  · exact List.mem_cons.1 h
  · rename_i hpart
    have hup : part = up := by simpa using hpart
    rw [hup]
    split at h
    · split at h
      · exact .inl (List.mem_singleton.1 h)
      · exact .inr h
    · split at h
      · exact List.mem_cons.1 h
      · exact .inr (List.mem_cons_of_mem _ h)

theorem push_clean {root : Root} {above : List (List Char)} {part : List Char}
    (ha : Clean above) (hp : isNamed part = true ∧ '/' ∉ part) : Clean (push root above part) :=
  fun p hm => (mem_push hm).elim (fun e => e ▸ hp) (ha p)

theorem foldl_push_clean {root : Root} {above parts : List (List Char)} (ha : Clean above)
    (hp : Clean parts) : Clean (parts.foldl (push root) above) := by
  induction parts generalizing above with
  | nil => exact ha
  | cons part parts ih =>
    rw [Clean, List.forall_mem_cons] at hp
    exact ih (push_clean ha hp.1) hp.2

theorem resolve_clean (s : List Char) : Clean (resolve s).parts := by
  intro p hp
  have hnil : Clean [] := fun p hp => absurd hp List.not_mem_nil
  exact foldl_push_clean hnil (namedParts_clean s) p (List.mem_reverse.1 hp)

theorem joinParts_cons_cons (p q : List Char) (parts : List (List Char)) :
    joinParts (p :: q :: parts) = p ++ '/' :: joinParts (q :: parts) := rfl

/-- Clean components are those of their own text. -/
theorem namedParts_joinParts {parts : List (List Char)} (h : Clean parts) :
    namedParts (joinParts parts) = parts := by
  have hsep : ∀ p ∈ parts, ∀ c ∈ p, (c == '/') = false := by
    intro p hp c hc
    rw [beq_eq_false_iff_ne]
    rintro rfl
    exact (h p hp).2 hc
  unfold namedParts
  induction parts with
  | nil => rfl
  | cons p parts ih =>
    rw [Clean, List.forall_mem_cons] at h
    rw [List.forall_mem_cons] at hsep
    cases parts with
    | nil =>
      rw [joinParts, Text.pieces_of_forall hsep.1, List.filter_cons_of_pos h.1.1]
      rfl
    | cons q parts =>
      rw [joinParts_cons_cons, Text.pieces_append_cons hsep.1 rfl, List.filter_cons_of_pos h.1.1,
        ih h.2 hsep.2]

theorem head?_joinParts_ne {parts : List (List Char)} (h : Clean parts) :
    (joinParts parts).head? ≠ some '/' := by
  cases parts with
  | nil => exact nofun
  | cons p parts =>
    have hp := h p List.mem_cons_self
    cases p with
    | nil => exact absurd hp.1 (by decide)
    | cons a p =>
      have ha : a ≠ '/' := fun e => hp.2 (e ▸ List.mem_cons_self)
      cases parts <;> simpa [joinParts] using ha

/-- The text of clean components begins with no slash. -/
theorem dropWhile_slash_joinParts {parts : List (List Char)} (h : Clean parts) :
    (joinParts parts).dropWhile (· == '/') = joinParts parts := by
  have hfirst := head?_joinParts_ne h
  cases hj : joinParts parts with
  | nil => rfl
  | cons c rest =>
    rw [hj] at hfirst
    rw [List.dropWhile_cons_of_neg]
    simpa using hfirst

/-! ## Rendered paths -/

theorem namedParts_cons_slash (s : List Char) : namedParts ('/' :: s) = namedParts s := by
  have h : Text.pieces (· == '/') ([] ++ '/' :: s) = [] :: Text.pieces (· == '/') s :=
    Text.pieces_append_cons (by simp) rfl s
  unfold namedParts
  rw [← List.nil_append ('/' :: s), h]
  rfl

theorem ofChars_append {s : List Char} (r : Root) (h : s.head? ≠ some '/') :
    Root.ofChars (r.chars ++ s) = r := by
  cases s with
  | nil => cases r <;> rfl
  | cons c rest =>
    have hc : c ≠ '/' := by simpa using h
    cases r <;> simp [Root.ofChars, Root.chars, hc]

/-- The text of a path with clean components stands for that path. -/
theorem tidy_render {p : Path} (h : Clean p.parts) : tidy p.render = p := by
  have htext : tidy (p.root.chars ++ joinParts p.parts) = p := by
    have hparts : namedParts (p.root.chars ++ joinParts p.parts) = p.parts := by
      rw [← namedParts_joinParts h]
      cases p.root <;> simp [Root.chars, namedParts_cons_slash, namedParts_joinParts h]
    unfold tidy
    rw [ofChars_append p.root (head?_joinParts_ne h), hparts]
  unfold render
  dsimp only
  split
  · rename_i hempty
    rw [List.isEmpty_iff.1 hempty] at htext
    rw [← htext]
    rfl
  · exact htext

/-! ## Characters -/

theorem mem_joinParts {c : Char} (h : c ≠ '/') (parts : List (List Char)) :
    c ∈ joinParts parts ↔ ∃ p ∈ parts, c ∈ p := by
  induction parts with
  | nil => simp [joinParts]
  | cons p parts ih =>
    cases parts with
    | nil => simp [joinParts]
    | cons q parts =>
      rw [joinParts_cons_cons]
      simp [h, ih]

theorem mem_namedParts {c : Char} (hslash : c ≠ '/') (hdot : c ≠ '.') (s : List Char) :
    (∃ p ∈ namedParts s, c ∈ p) ↔ c ∈ s := by
  rw [Text.mem_iff_mem_pieces (· == '/') (by simpa using hslash) s]
  constructor
  · rintro ⟨p, hp, hc⟩
    exact ⟨p, (List.mem_filter.1 hp).1, hc⟩
  · rintro ⟨p, hp, hc⟩
    have hne : p ≠ ['.'] := by
      rintro rfl
      exact hdot (List.mem_singleton.1 hc)
    have hnamed : isNamed p = true := isNamed_iff.2 ⟨List.ne_nil_of_mem hc, hne⟩
    exact ⟨p, List.mem_filter.2 ⟨hp, hnamed⟩, hc⟩

end Path

/-- Tidying leaves out slashes and points, and nothing else. -/
theorem mem_tidied {c : Char} (hslash : c ≠ '/') (hdot : c ≠ '.') (s : String) :
    c ∈ (tidied s).toList ↔ c ∈ s.toList := by
  have hroot : c ∉ (Path.Root.ofChars s.toList).chars := by
    cases Path.Root.ofChars s.toList <;> simp [Path.Root.chars, hslash]
  have htext : c ∈ (Path.Root.ofChars s.toList).chars ++ Path.joinParts (Path.namedParts s.toList) ↔
      c ∈ s.toList := by
    rw [List.mem_append, Path.mem_joinParts hslash, Path.mem_namedParts hslash hdot]
    simp [hroot]
  rw [← htext]
  unfold tidied Path.render Path.tidy
  rw [String.toList_ofList]
  dsimp only
  split
  · rename_i hempty
    rw [List.isEmpty_iff.1 hempty]
    simp [hdot]
  · rfl

/-- Tidying once is enough. -/
theorem tidied_tidied (s : String) : tidied (tidied s) = tidied s := by
  unfold tidied
  rw [String.toList_ofList, Path.tidy_render (Path.namedParts_clean s.toList)]

end ProtoCheck
