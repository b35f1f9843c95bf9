import ProtoCheck.Proofs.Path
import Mathlib.Data.List.Induction
import Mathlib.Data.List.Infix

/-!
# How far a path leads up

Resolving a path keeps a stack of components. Where a relative path has nothing left to take away,
`..` stays at the bottom, under all that is stacked later, and nothing ever takes it away again: so
the resolved path leads up exactly when the components did at some point.

* `Escapes` : at some point more components have led up than down;
* `Stacked` : the stack of a relative path (`Stacked.push` : with one component more,
  `exists_stacked` : with all of them);
* `exists_resolve_relative`, `up_notMem_resolve` : a relative path resolved, and one from a root;
* `head?_resolve_eq_up_iff` : the paths that lead up.
-/

namespace ProtoCheck.Path

/-- At some point more of the components have led up than down. -/
def Escapes (parts : List (List Char)) : Prop :=
  ∃ front, front <+: parts ∧ front.countP (· != up) < front.count up

theorem not_escapes_nil : ¬ Escapes [] := by
  rintro ⟨front, hpre, hlt⟩
  rw [List.prefix_nil.1 hpre] at hlt
  exact Nat.lt_irrefl 0 hlt

theorem escapes_concat {parts : List (List Char)} {part : List Char} :
    Escapes (parts ++ [part]) ↔ Escapes parts ∨
      (parts ++ [part]).countP (· != up) < (parts ++ [part]).count up := by
  simp only [Escapes, List.prefix_concat_iff]
  constructor
  · rintro ⟨front, rfl | hpre, hlt⟩
    · exact .inr hlt
    · exact .inl ⟨front, hpre, hlt⟩
  · rintro (⟨front, hpre, hlt⟩ | hlt)
    · exact ⟨front, .inr hpre, hlt⟩
    · exact ⟨_, .inl rfl, hlt⟩

/-! ## The stack of a relative path -/

/-- The stack after some components, last ones first: what leads down, above as many `..` as had
nothing to take away. -/
structure Stacked (parts above stack : List (List Char)) (kept : Nat) : Prop where
  eq : above = stack ++ List.replicate kept up
  up_notMem : up ∉ stack
  balance : stack.length + parts.count up = parts.countP (· != up) + kept
  pos_iff : 0 < kept ↔ Escapes parts

theorem stacked_nil : Stacked [] [] [] 0 where
  eq := rfl
  up_notMem := List.not_mem_nil
  balance := rfl
  pos_iff := ⟨fun h => absurd h (Nat.lt_irrefl 0), fun h => absurd h not_escapes_nil⟩

theorem push_of_ne {root : Root} {above : List (List Char)} {part : List Char} (h : part ≠ up) :
    push root above part = part :: above := by
  unfold push
  rw [if_pos (bne_iff_ne.2 h)]

section Push
variable {parts above stack : List (List Char)} {kept : Nat}

/-- A component that leads down is stacked. -/
theorem Stacked.push_part (h : Stacked parts above stack kept) {part : List Char}
    (hp : part ≠ up) :
    Stacked (parts ++ [part]) (push .relative above part) (part :: stack) kept where
  eq := by rw [push_of_ne hp, h.eq, List.cons_append]
  up_notMem hm := (List.mem_cons.1 hm).elim (fun e => hp e.symm) h.up_notMem
  balance := by
    have := h.balance
    simp [hp]
    omega
  pos_iff := by
    rw [h.pos_iff, escapes_concat]
    refine ⟨.inl, fun he => he.elim id fun hlt => ⟨parts, List.prefix_rfl, ?_⟩⟩
    have hlt' : parts.countP (· != up) + 1 < parts.count up := by simpa [hp] using hlt
    omega

theorem push_up_replicate (kept : Nat) :
    push .relative (List.replicate kept up) up = List.replicate (kept + 1) up := by
  cases kept with
  | zero => rfl
  | succ kept => simp [push, List.replicate_succ]

theorem push_up_cons {root : Root} {last : List Char} {rest : List (List Char)}
    (h : last ≠ up) : push root (last :: rest) up = rest := by
  simp [push, h]

/-- `..` stays where nothing that leads down is stacked. -/
theorem Stacked.push_up_nil (h : Stacked parts above [] kept) :
    Stacked (parts ++ [up]) (push .relative above up) [] (kept + 1) where
  eq := by
    rw [h.eq, List.nil_append, push_up_replicate]
    rfl
  up_notMem := List.not_mem_nil
  balance := by
    have := h.balance
    simp at this ⊢
    omega
  pos_iff := by
    have hbalance := h.balance
    have hlt : (parts ++ [up]).countP (· != up) < (parts ++ [up]).count up := by
      simp at hbalance ⊢
      omega
    exact ⟨fun _ => escapes_concat.2 (.inr hlt), fun _ => Nat.succ_pos kept⟩

/-- It takes away the last component that leads down. -/
theorem Stacked.push_up_cons {last : List Char} {rest : List (List Char)}
    (h : Stacked parts above (last :: rest) kept) :
    Stacked (parts ++ [up]) (push .relative above up) rest kept where
  eq := by
    have hlast : last ≠ up := fun e => h.up_notMem (e ▸ List.mem_cons_self)
    rw [h.eq, List.cons_append, Path.push_up_cons hlast]
  up_notMem hm := h.up_notMem (List.mem_cons_of_mem last hm)
  balance := by
    have := h.balance
    simp at this ⊢
    omega
  pos_iff := by
    have hbalance := h.balance
    rw [escapes_concat, ← h.pos_iff]
    refine ⟨.inl, fun he => he.elim id fun hlt => ?_⟩
    simp at hbalance hlt
    omega

theorem Stacked.push (h : Stacked parts above stack kept) (part : List Char) :
    ∃ stack' kept', Stacked (parts ++ [part]) (push .relative above part) stack' kept' := by
  by_cases hp : part = up
  · rw [hp]
    cases stack with
    | nil => exact ⟨_, _, h.push_up_nil⟩
    | cons last rest => exact ⟨_, _, h.push_up_cons⟩
  · exact ⟨_, _, h.push_part hp⟩

end Push

theorem exists_stacked (parts : List (List Char)) :
    ∃ stack kept, Stacked parts (parts.foldl (push .relative) []) stack kept := by
  induction parts using List.reverseRecOn with
  | nil => exact ⟨_, _, stacked_nil⟩
  | append_singleton parts part ih =>
    obtain ⟨stack, kept, h⟩ := ih
    rw [List.foldl_append]
    exact h.push part

/-! ## Resolved paths -/

/-- A relative path, resolved, leads up and then down; it leads up when it escapes. -/
theorem exists_resolve_relative {s : List Char} (h : Root.ofChars s = .relative) :
    ∃ kept down, (resolve s).parts = List.replicate kept up ++ down ∧ up ∉ down ∧
      (0 < kept ↔ Escapes (namedParts s)) := by
  obtain ⟨stack, kept, hs⟩ := exists_stacked (namedParts s)
  refine ⟨kept, stack.reverse, ?_, fun hm => hs.up_notMem (List.mem_reverse.1 hm), hs.pos_iff⟩
  unfold resolve
  rw [h]
  simp [hs.eq]

theorem up_notMem_push {root : Root} (hr : root ≠ .relative) {above : List (List Char)}
    (h : up ∉ above) (part : List Char) : up ∉ push root above part := by
  by_cases hp : part = up
  · cases above with
    | nil => simp [push, hp, hr]
    | cons last rest =>
      rw [hp, push_up_cons fun e => h (e ▸ List.mem_cons_self)]
      exact fun hm => h (List.mem_cons_of_mem last hm)
  · rw [push_of_ne hp]
    exact fun hm => (List.mem_cons.1 hm).elim (fun e => hp e.symm) h

theorem up_notMem_foldl_push {root : Root} (hr : root ≠ .relative) {above : List (List Char)}
    (h : up ∉ above) (parts : List (List Char)) : up ∉ parts.foldl (push root) above := by
  induction parts generalizing above with
  | nil => exact h
  | cons part parts ih => exact ih (up_notMem_push hr h part)

/-- A path from a root, resolved, does not lead up. -/
theorem up_notMem_resolve {s : List Char} (h : Root.ofChars s ≠ .relative) :
    up ∉ (resolve s).parts :=
  fun hm => up_notMem_foldl_push h List.not_mem_nil _ (List.mem_reverse.1 hm)

/-- The paths that lead up, resolved, are the relative ones that escape. -/
theorem head?_resolve_eq_up_iff {s : List Char} :
    (resolve s).parts.head? = some up ↔
      Root.ofChars s = .relative ∧ Escapes (namedParts s) := by
  by_cases hr : Root.ofChars s = .relative
  · obtain ⟨kept, down, hparts, hdown, hpos⟩ := exists_resolve_relative hr
    rw [hparts, and_iff_right hr, ← hpos]
    cases kept with
    | zero => simpa using fun h => hdown (List.mem_of_mem_head? h)
    | succ kept => simp [List.replicate_succ]
  · refine ⟨fun h => absurd (List.mem_of_mem_head? h) (up_notMem_resolve hr), ?_⟩
    exact fun h => absurd h.1 hr

/-- A path that does not lead up when it is resolved has no `..` then. -/
theorem up_notMem_resolve_of_head? {s : List Char} (h : (resolve s).parts.head? ≠ some up) :
    up ∉ (resolve s).parts := by
  by_cases hr : Root.ofChars s = .relative
  · obtain ⟨kept, down, hparts, hdown, -⟩ := exists_resolve_relative hr
    cases kept with
    | zero => simpa [hparts] using hdown
    | succ kept => exact absurd (by simp [hparts, List.replicate_succ]) h
  · exact up_notMem_resolve hr

end ProtoCheck.Path
