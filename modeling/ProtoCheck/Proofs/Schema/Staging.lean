import ProtoCheck.Proofs.Schema.Conflict
import ProtoCheck.Proofs.Schema.Reach
import Mathlib.Data.List.Perm.Subperm

/-!
# Runs of staging

Looking up the pending names takes one step for each: the name is known already, or it opens
nowhere, or it is staged and the names that it imports are pending too. What every step keeps holds
at the end of a run, for which there is fuel enough as long as the staged names are mentioned ones.

* `Step` : one step (`run_known`, `run_missing`, `run_found` : taking it; `run_nul`, `run_blocked` :
  there is none; `run_cases` : what all steps keep);
* `Inv` : what is seen, what is staged and what is still owed (`Inv.step`);
* `Stageable` : nothing that requested names lead to is in the way (`Inv.run`);
* `Inv.request` : what staging a list of requested names comes to.
-/

namespace ProtoCheck.Schema

variable {dir : String} {store : Store} {roots : List String}

namespace Staging

/-! ## Fields -/

@[simp] theorem seen_look (s : Staging) (n : String) (l : Lookup) :
    (s.look roots n l).seen = n :: s.seen := rfl

@[simp] theorem files_look (s : Staging) (n : String) (l : Lookup) :
    (s.look roots n l).files = s.files := rfl

@[simp] theorem seen_miss (s : Staging) (n : String) (e : Option AccessError) :
    (s.miss n e).seen = s.seen := rfl

@[simp] theorem files_miss (s : Staging) (n : String) (e : Option AccessError) :
    (s.miss n e).files = s.files := rfl

@[simp] theorem seen_keep (s : Staging) (f : StagedFile) : (s.keep roots f).seen = s.seen := rfl

@[simp] theorem files_keep (s : Staging) (f : StagedFile) :
    (s.keep roots f).files = s.files ++ [f] := rfl

/-! ## Steps -/

/-- One pending name less, and those it imports more where it opens. -/
inductive Step (dir : String) (store : Store) (roots : List String) :
    List String → Staging → List String → Staging → Prop where
  | known {n : String} {rest : List String} {s : Staging} (h : n ∈ s.seen) :
    Step dir store roots (n :: rest) s rest s
  | missing {n : String} {rest : List String} {s : Staging} {e : Option AccessError}
    (h : n ∉ s.seen) (hl : lookUp store roots n = .missing e) :
    Step dir store roots (n :: rest) s rest ((s.look roots n (.missing e)).miss n e)
  | found {n : String} {rest : List String} {s : Staging} {i : Nat} {c : Bytes}
    (h : n ∉ s.seen) (hl : lookUp store roots n = .found i c)
    (hc : conflict? dir s.files i n = none) :
    Step dir store roots (n :: rest) s (importedNames c ++ rest)
      ((s.look roots n (.found i c)).keep roots ⟨i, n, c⟩)

section Run
variable {fuel i : Nat} {n : String} {rest : List String} {s : Staging} {c : Bytes}

theorem run_known (h : n ∈ s.seen) :
    run dir store roots fuel (n :: rest) s = run dir store roots fuel rest s := by
  rw [run, if_pos (List.elem_iff.2 h)]

theorem run_missing {e : Option AccessError} (h : n ∉ s.seen)
    (hl : Schema.lookUp store roots n = .missing e) :
    run dir store roots fuel (n :: rest) s =
      run dir store roots fuel rest ((s.look roots n (.missing e)).miss n e) := by
  rw [run, if_neg (mt List.elem_iff.1 h), hl]

theorem run_found (h : n ∉ s.seen) (hl : Schema.lookUp store roots n = .found i c)
    (hc : conflict? dir s.files i n = none) :
    run dir store roots (fuel + 1) (n :: rest) s =
      run dir store roots fuel (importedNames c ++ rest)
        ((s.look roots n (.found i c)).keep roots ⟨i, n, c⟩) := by
  rw [run, if_neg (mt List.elem_iff.1 h), hl]
  simp only [files_look, hc]

theorem run_nul (h : n ∉ s.seen) (hl : Schema.lookUp store roots n = .nul) :
    run dir store roots fuel (n :: rest) s = (s.look roots n .nul).stop .nulInPath := by
  rw [run, if_neg (mt List.elem_iff.1 h), hl]

theorem run_blocked {b : Breakdown} (h : n ∉ s.seen)
    (hl : Schema.lookUp store roots n = .found i c) (hc : conflict? dir s.files i n = some b) :
    run dir store roots fuel (n :: rest) s = (s.look roots n (.found i c)).stop b := by
  rw [run, if_neg (mt List.elem_iff.1 h), hl]
  simp only [files_look, hc]

end Run

/-- A name that cannot be staged beside what is staged already. -/
def Blocked (dir : String) (store : Store) (roots : List String) (n : String) (s : Staging) :
    Prop :=
  Schema.lookUp store roots n = .nul ∨
    ∃ i c, Schema.lookUp store roots n = .found i c ∧ conflict? dir s.files i n ≠ none

/-- What all steps keep holds at the end of a run, or where a name is blocked that breaks it, when
`bound` names at most are staged and the fuel is for as many. -/
theorem run_cases {P : List String → Staging → Prop} {bound : Nat}
    (step : ∀ {p s p' s'}, P p s → Step dir store roots p s p' s' → P p' s')
    (room : ∀ {n rest s}, P (n :: rest) s → n ∉ s.seen → s.files.length < bound)
    {fuel : Nat} {pending : List String} {s : Staging} (h : P pending s)
    (hfuel : bound ≤ fuel + s.files.length) (hb : s.broken = none) :
    ((run dir store roots fuel pending s).broken = none ∧
      P [] (run dir store roots fuel pending s)) ∨
    (∃ b, (run dir store roots fuel pending s).broken = some b) ∧
      ∃ n rest t, P (n :: rest) t ∧ n ∉ t.seen ∧ Blocked dir store roots n t := by
  fun_induction run dir store roots fuel pending s with
  | case1 => exact .inl ⟨hb, h⟩
  | case2 fuel s n rest hn ih =>
    exact ih (step h (.known (List.elem_iff.1 hn))) hfuel hb
  | case3 fuel s n rest hn l s' hl =>
    have hn' : n ∉ s.seen := fun hm => hn (List.elem_iff.2 hm)
    exact .inr ⟨⟨_, rfl⟩, n, rest, s, h, hn', .inl hl⟩
  | case4 fuel s n rest hn l s' e hl ih =>
    have hn' : n ∉ s.seen := fun hm => hn (List.elem_iff.2 hm)
    refine ih ?_ hfuel hb
    have hs : s' = s.look roots n (.missing e) := congrArg (s.look roots n) hl
    rw [hs]
    exact step h (.missing hn' hl)
  | case5 fuel s n rest hn l s' i c hl b hc =>
    have hn' : n ∉ s.seen := fun hm => hn (List.elem_iff.2 hm)
    have hblocked : conflict? dir s.files i n ≠ none := fun hf => nomatch hf.symm.trans hc
    exact .inr ⟨⟨_, rfl⟩, n, rest, s, h, hn', .inr ⟨i, c, hl, hblocked⟩⟩
  | case6 s n rest hn l s' i c hl hc =>
    have hn' : n ∉ s.seen := fun hm => hn (List.elem_iff.2 hm)
    -- no fuel is left, yet fewer names are staged than there was fuel for
    have := room h hn'
    omega
  | case7 s n rest hn l s' i c hl fuel hc ih =>
    have hn' : n ∉ s.seen := fun hm => hn (List.elem_iff.2 hm)
    have hs : s' = s.look roots n (.found i c) := congrArg (s.look roots n) hl
    rw [hs] at ih hc ⊢
    refine ih (step h (.found hn' hl hc)) ?_ hb
    rw [files_keep, files_look, List.length_append, List.length_singleton]
    omega

/-! ## What all steps keep -/

/-- What is seen or pending is reachable; what is asked for and what a seen name imports is seen or
pending; what is staged is what is seen and opens, each name once. -/
structure Inv (dir : String) (store : Store) (roots names asked pending : List String)
    (s : Staging) : Prop where
  reachable : ∀ n, n ∈ s.seen ∨ n ∈ pending → Reachable store roots names n
  owed : ∀ n ∈ asked, n ∈ s.seen ∨ n ∈ pending
  closed : ∀ n ∈ s.seen, ∀ d, Imports store roots n d → d ∈ s.seen ∨ d ∈ pending
  files : ∀ f, f ∈ s.files ↔
    f.name ∈ s.seen ∧ lookUp store roots f.name = .found f.root f.content
  readable : ∀ n ∈ s.seen, lookUp store roots n ≠ .nul
  nodup : (s.files.map StagedFile.name).Nodup
  storable : ∀ f ∈ s.files, Storable dir f.root f.parts
  apart : ∀ f ∈ s.files, ∀ g ∈ s.files, f.name ≠ g.name → Apart f g

variable {names asked pending : List String} {s : Staging}

theorem Inv.empty (dir : String) (store : Store) (roots names : List String) :
    Inv dir store roots names [] [] {} where
  reachable _ h := h.elim (fun h => absurd h List.not_mem_nil) (fun h => absurd h List.not_mem_nil)
  owed _ h := absurd h List.not_mem_nil
  closed _ h := absurd h List.not_mem_nil
  files _ := ⟨fun h => absurd h List.not_mem_nil, fun h => absurd h.1 List.not_mem_nil⟩
  readable _ h := absurd h List.not_mem_nil
  nodup := List.nodup_nil
  storable _ h := absurd h List.not_mem_nil
  apart _ h := absurd h List.not_mem_nil

theorem Inv.parts_ne_nil (h : Inv dir store roots names asked pending s) :
    ∀ f ∈ s.files, f.parts ≠ [] :=
  fun f hf => (h.storable f hf).named

/-- A name that is known already. -/
theorem Inv.known {n : String} {rest : List String}
    (h : Inv dir store roots names asked (n :: rest) s) (hn : n ∈ s.seen) :
    Inv dir store roots names asked rest s := by
  have pass : ∀ d, d ∈ s.seen ∨ d ∈ n :: rest → d ∈ s.seen ∨ d ∈ rest := by
    rintro d (hd | hd)
    · exact .inl hd
    · rcases List.mem_cons.1 hd with rfl | hd
      · exact .inl hn
      · exact .inr hd
  exact { h with
    reachable := fun d hd => h.reachable d (hd.imp_right (List.mem_cons_of_mem n))
    owed := fun d hd => pass d (h.owed d hd)
    closed := fun m hm d hd => pass d (h.closed m hm d hd) }

/-- What is owed is still owed when a pending name is seen and others become pending. -/
theorem seen_or_pending {n d : String} {rest : List String} (new : List String)
    (h : d ∈ s.seen ∨ d ∈ n :: rest) : d ∈ n :: s.seen ∨ d ∈ new ++ rest := by
  rcases h with h | h
  · exact .inl (List.mem_cons_of_mem n h)
  · rcases List.mem_cons.1 h with rfl | h
    · exact .inl List.mem_cons_self
    · exact .inr (List.mem_append_right new h)

/-- A name that opens nowhere. -/
theorem Inv.missing {n : String} {rest : List String} {e : Option AccessError}
    (h : Inv dir store roots names asked (n :: rest) s) (hn : n ∉ s.seen)
    (hl : lookUp store roots n = .missing e) :
    Inv dir store roots names asked rest ((s.look roots n (.missing e)).miss n e) where
  reachable d hd := by
    rw [seen_miss, seen_look, List.mem_cons] at hd
    rcases hd with (rfl | hd) | hd
    · exact h.reachable d (.inr List.mem_cons_self)
    · exact h.reachable d (.inl hd)
    · exact h.reachable d (.inr (List.mem_cons_of_mem n hd))
  owed d hd := seen_or_pending [] (h.owed d hd)
  closed m hm d hd := by
    rw [seen_miss, seen_look, List.mem_cons] at hm
    rcases hm with rfl | hm
    · obtain ⟨i, c, ho, -⟩ := hd
      exact absurd ho.opens (lookUp_missing hl)
    · exact seen_or_pending [] (h.closed m hm d hd)
  files f := by
    rw [files_miss, files_look, seen_miss, seen_look, List.mem_cons, h.files]
    refine and_congr_left fun hf => ⟨Or.inr, fun hs => hs.resolve_left fun he => ?_⟩
    rw [he, hl] at hf
    cases hf
  readable m hm := by
    rw [seen_miss, seen_look, List.mem_cons] at hm
    rcases hm with rfl | hm
    · rw [hl]
      exact Lookup.noConfusion
    · exact h.readable m hm
  nodup := h.nodup
  storable := h.storable
  apart := h.apart

/-- A name that opens. -/
theorem Inv.found {n : String} {rest : List String} {i : Nat} {c : Bytes}
    (h : Inv dir store roots names asked (n :: rest) s) (hn : n ∉ s.seen)
    (hl : lookUp store roots n = .found i c) (hc : conflict? dir s.files i n = none) :
    Inv dir store roots names asked (importedNames c ++ rest)
      ((s.look roots n (.found i c)).keep roots ⟨i, n, c⟩) where
  reachable d hd := by
    have hreach := h.reachable n (.inr List.mem_cons_self)
    rw [seen_keep, seen_look, List.mem_cons, List.mem_append] at hd
    rcases hd with (rfl | hd) | hd | hd
    · exact hreach
    · exact h.reachable d (.inl hd)
    · obtain ⟨m, hm, hpath⟩ := hreach
      exact ⟨m, hm, hpath.tail ((imports_iff (lookUp_found hl)).2 hd)⟩
    · exact h.reachable d (.inr (List.mem_cons_of_mem n hd))
  owed d hd := seen_or_pending _ (h.owed d hd)
  closed m hm d hd := by
    rw [seen_keep, seen_look, List.mem_cons] at hm
    rcases hm with rfl | hm
    · exact .inr (List.mem_append_left rest ((imports_iff (lookUp_found hl)).1 hd))
    · exact seen_or_pending _ (h.closed m hm d hd)
  files f := by
    rw [files_keep, files_look, seen_keep, seen_look, List.mem_append, List.mem_singleton,
      List.mem_cons, h.files]
    constructor
    · rintro (hf | rfl)
      · exact ⟨.inr hf.1, hf.2⟩
      · exact ⟨.inl rfl, hl⟩
    · rintro ⟨hf | hf, hlf⟩
      · right
        rw [hf, hl] at hlf
        cases f
        cases hlf
        cases hf
        rfl
      · exact .inl ⟨hf, hlf⟩
  readable m hm := by
    rw [seen_keep, seen_look, List.mem_cons] at hm
    rcases hm with rfl | hm
    · rw [hl]
      exact Lookup.noConfusion
    · exact h.readable m hm
  nodup := by
    rw [files_keep, files_look, List.map_append, List.nodup_append]
    refine ⟨h.nodup, List.pairwise_singleton _ n, ?_⟩
    rintro a ha b hb rfl
    obtain ⟨f, hf, rfl⟩ := List.mem_map.1 ha
    have hname : f.name = n := List.mem_singleton.1 hb
    exact hn (hname ▸ ((h.files f).1 hf).1)
  storable f hf := by
    rw [files_keep, files_look, List.mem_append, List.mem_singleton] at hf
    rcases hf with hf | rfl
    · exact h.storable f hf
    · exact ((conflict?_eq_none_iff h.parts_ne_nil ⟨i, n, c⟩).1 hc).1
  apart f hf g hg hne := by
    have hnew := ((conflict?_eq_none_iff h.parts_ne_nil ⟨i, n, c⟩).1 hc).2
    rw [files_keep, files_look, List.mem_append, List.mem_singleton] at hf hg
    rcases hf with hf | rfl <;> rcases hg with hg | rfl
    · exact h.apart f hf g hg hne
    · exact hnew f hf
    · exact (hnew g hg).symm
    · exact absurd rfl hne

theorem Inv.step {pending' : List String} {s' : Staging}
    (h : Inv dir store roots names asked pending s)
    (hs : Step dir store roots pending s pending' s') :
    Inv dir store roots names asked pending' s' := by
  cases hs with
  | known hn => exact h.known hn
  | missing hn hl => exact h.missing hn hl
  | found hn hl hc => exact h.found hn hl hc

/-- A name that is still to be looked up is mentioned and not staged. -/
theorem Inv.room {n : String} {rest : List String}
    (h : Inv dir store roots names asked (n :: rest) s) (hn : n ∉ s.seen) :
    s.files.length < (mentioned store names).length := by
  -- the name and the staged ones are different names, all of them mentioned
  have hnew : (n :: s.files.map StagedFile.name).Nodup := by
    refine List.nodup_cons.2 ⟨fun hm => ?_, h.nodup⟩
    obtain ⟨f, hf, rfl⟩ := List.mem_map.1 hm
    exact hn ((h.files f).1 hf).1
  have hsub : n :: s.files.map StagedFile.name ⊆ mentioned store names := by
    intro m hm
    rcases List.mem_cons.1 hm with rfl | hm
    · exact (h.reachable m (.inr List.mem_cons_self)).mem_mentioned
    · obtain ⟨f, hf, rfl⟩ := List.mem_map.1 hm
      exact (h.reachable f.name (.inl ((h.files f).1 hf).1)).mem_mentioned
  have hle := (List.subperm_of_subset hnew hsub).length_le
  rw [List.length_cons, List.length_map] at hle
  omega

/-! ## What stands in the way -/

/-- All that the names lead to can be looked up, and the files to be staged can stand beside each
other. -/
structure Stageable (dir : String) (store : Store) (roots names : List String) : Prop where
  readable : ∀ n, Reachable store roots names n → Schema.lookUp store roots n ≠ .nul
  storable : ∀ f, Due store roots names f → Storable dir f.root f.parts
  apart : ∀ f g, Due store roots names f → Due store roots names g → f.name ≠ g.name → Apart f g

/-- What is staged is due. -/
theorem Inv.due (h : Inv dir store roots names asked pending s) {f : StagedFile}
    (hf : f ∈ s.files) : Due store roots names f :=
  ⟨h.reachable _ (.inl ((h.files f).1 hf).1), lookUp_found ((h.files f).1 hf).2⟩

/-- No name is blocked when nothing is in the way. -/
theorem Inv.not_blocked {n : String} {rest : List String}
    (h : Inv dir store roots names asked (n :: rest) s) (hn : n ∉ s.seen)
    (hs : Stageable dir store roots names) : ¬ Blocked dir store roots n s := by
  have hreach := h.reachable n (.inr List.mem_cons_self)
  rintro (hnul | ⟨i, c, hl, hc⟩)
  · exact hs.readable n hreach hnul
  · have hdue : Due store roots names ⟨i, n, c⟩ := ⟨hreach, lookUp_found hl⟩
    refine hc ((conflict?_eq_none_iff h.parts_ne_nil ⟨i, n, c⟩).2
      ⟨hs.storable _ hdue, fun g hg => ?_⟩)
    refine hs.apart g _ (h.due hg) hdue fun he => hn ?_
    have hname : g.name = n := he
    exact hname ▸ ((h.files g).1 hg).1

/-- A run ends with nothing pending, or breaks because something is in the way. -/
theorem Inv.run {fuel : Nat} (h : Inv dir store roots names asked pending s)
    (hfuel : (mentioned store names).length ≤ fuel + s.files.length) (hb : s.broken = none) :
    ((run dir store roots fuel pending s).broken = none ∧
      Inv dir store roots names asked [] (run dir store roots fuel pending s)) ∨
    (∃ b, (run dir store roots fuel pending s).broken = some b) ∧
      ¬ Stageable dir store roots names := by
  refine (run_cases (P := Inv dir store roots names asked) Inv.step Inv.room h hfuel
    hb).imp_right ?_
  rintro ⟨hbroken, n, rest, t, ht, hn, hblocked⟩
  exact ⟨hbroken, fun hs => ht.not_blocked hn hs hblocked⟩

/-! ## Requests -/

/-- Nothing is pending and other names are asked for, all of them seen. -/
theorem Inv.reask {asked' : List String} (h : Inv dir store roots names asked [] s)
    (ha : ∀ n ∈ asked', n ∈ s.seen) : Inv dir store roots names asked' [] s :=
  { h with owed := fun n hn => .inl (ha n hn) }

theorem Inv.ask {n : String} (h : Inv dir store roots names asked [] s) (hn : n ∈ names) :
    Inv dir store roots names (n :: asked) [n] s where
  reachable d hd := by
    rcases hd with hd | hd
    · exact h.reachable d (.inl hd)
    · rw [List.mem_singleton] at hd
      exact ⟨n, hn, hd ▸ .refl⟩
  owed d hd := by
    rcases List.mem_cons.1 hd with rfl | hd
    · exact .inr List.mem_cons_self
    · exact (h.owed d hd).imp_right fun hd => absurd hd List.not_mem_nil
  closed m hm d hd := (h.closed m hm d hd).imp_right fun hd => absurd hd List.not_mem_nil
  files := h.files
  readable := h.readable
  nodup := h.nodup
  storable := h.storable
  apart := h.apart

theorem Inv.mem_seen (h : Inv dir store roots names asked [] s) {n : String} (hn : n ∈ asked) :
    n ∈ s.seen :=
  (h.owed n hn).resolve_right List.not_mem_nil

/-- What is seen is staged when it opens. -/
theorem Inv.holds_iff (h : Inv dir store roots names asked pending s) {n : String}
    (hn : n ∈ s.seen) : s.holds n = true ↔ Opens store roots n := by
  unfold holds
  rw [List.any_eq_true]
  constructor
  · rintro ⟨f, hf, he⟩
    have hl := ((h.files f).1 hf).2
    rw [eq_of_beq he] at hl
    exact (lookUp_found hl).opens
  · intro ho
    obtain ⟨i, c, hat⟩ := ho.exists_opensAt (h.readable n hn)
    refine ⟨⟨i, n, c⟩, (h.files _).2 ⟨hn, hat.lookUp (h.readable n hn)⟩, beq_self_eq_true n⟩

/-- What staging requested names comes to: all of them open and are staged with what they lead to,
or something breaks that is in the way, or the first that does not open is reported. -/
theorem Inv.request {todo : List String} (h : Inv dir store roots names asked [] s)
    (hb : s.broken = none) (ht : ∀ n ∈ todo, n ∈ names) :
    ((request dir store roots (mentioned store names).length todo s).2 = none ∧
      Inv dir store roots names (todo ++ asked) []
        (request dir store roots (mentioned store names).length todo s).1 ∧
      ∀ n ∈ todo, Opens store roots n) ∨
    (¬ Stageable dir store roots names ∧
      ∃ b, (request dir store roots (mentioned store names).length todo s).2 = some (.broken b)) ∨
    ∃ before n after, todo = before ++ n :: after ∧ (∀ m ∈ before, Opens store roots m) ∧
      ¬ Opens store roots n ∧
      (request dir store roots (mentioned store names).length todo s).2 = some (.failed
        ((request dir store roots (mentioned store names).length todo s).1.notFound n)) := by
  induction todo generalizing asked s with
  | nil => exact .inl ⟨rfl, h, fun n hn => absurd hn List.not_mem_nil⟩
  | cons n rest ih =>
    rw [List.forall_mem_cons] at ht
    rw [Staging.request]
    rcases (h.ask ht.1).run (Nat.le_add_right _ _) hb with ⟨hnone, hrun⟩ | ⟨⟨b, hbroken⟩, hs⟩
    · simp only [hnone]
      have hseen := hrun.mem_seen List.mem_cons_self
      by_cases hh :
          (Staging.run dir store roots (mentioned store names).length [n] s).holds n = true
      · have ho := (hrun.holds_iff hseen).1 hh
        rw [if_pos hh]
        rcases ih hrun hnone ht.2 with ⟨hnone, hinv, hopen⟩ | hbroken |
          ⟨before, m, after, he, hopen, hm⟩
        · refine .inl ⟨hnone, hinv.reask fun d hd => ?_, List.forall_mem_cons.2 ⟨ho, hopen⟩⟩
          refine hinv.mem_seen ?_
          rw [List.cons_append, List.mem_cons, List.mem_append] at hd
          rw [List.mem_append, List.mem_cons]
          tauto
        · exact .inr (.inl hbroken)
        · exact .inr (.inr ⟨n :: before, m, after, by rw [he]; rfl,
            List.forall_mem_cons.2 ⟨ho, hopen⟩, hm⟩)
      · rw [if_neg hh]
        exact .inr (.inr ⟨[], n, rest, rfl, fun m hm => absurd hm List.not_mem_nil,
          fun ho => hh ((hrun.holds_iff hseen).2 ho), rfl⟩)
    · simp only [hbroken]
      exact .inr (.inl ⟨hs, b, rfl⟩)

/-- At the end what is seen is what the names lead to. -/
theorem Inv.mem_seen_iff (h : Inv dir store roots names names [] s) {d : String} :
    d ∈ s.seen ↔ Reachable store roots names d := by
  refine ⟨fun hd => h.reachable d (.inl hd), ?_⟩
  rintro ⟨n, hn, hpath⟩
  induction hpath with
  | refl => exact h.mem_seen hn
  | tail _ hstep ih => exact (h.closed _ ih _ hstep).resolve_right List.not_mem_nil

/-- At the end what is staged is what is due. -/
theorem Inv.mem_files_iff (h : Inv dir store roots names names [] s) {f : StagedFile} :
    f ∈ s.files ↔ Due store roots names f := by
  refine ⟨h.due, fun ⟨hr, ho⟩ => ?_⟩
  have hseen := h.mem_seen_iff.2 hr
  exact (h.files f).2 ⟨hseen, ho.lookUp (h.readable _ hseen)⟩

/-- Nothing was in the way of what has been staged. -/
theorem Inv.stageable (h : Inv dir store roots names names [] s) :
    Stageable dir store roots names where
  readable n hn := h.readable n (h.mem_seen_iff.2 hn)
  storable f hf := h.storable f (h.mem_files_iff.2 hf)
  apart f g hf hg := h.apart f (h.mem_files_iff.2 hf) g (h.mem_files_iff.2 hg)

end Staging

end ProtoCheck.Schema
