import ProtoCheck.Proofs.Schema.Closure

/-!
# Stores that agree on what names lead to

Two stores may differ, as long as each name that the requested ones lead to in the first of them is
read alike under every root. Then all that is looked up gives the same in both, step by step, so
that staging, compiling and resolving end with the same result and the same journal.

* `Agree` : the stores agree; `Agree.lookUp`, `Agree.step` : a look-up gives the same in both, and
  so a step of staging in one is a step in the other;
* `run_congr`, `request_congr`, `Agree.stage` : staging is the same, though the fuel differs;
* `Agree.compile`, `resolve_congr` : and so is what follows from it.
-/

namespace ProtoCheck.Schema

variable {dir : String} {store store' : Store} {roots names : List String}

/-- Every name that the requested ones lead to in the first store is read alike in both, under every
root, and accesses are recorded in both or in neither. -/
structure Agree (store store' : Store) (roots names : List String) : Prop where
  recorded : store.recordsAccess = store'.recordsAccess
  read : ∀ n, Reachable store roots names n → ∀ r ∈ roots,
    store.read (pathUnder r n) = store'.read (pathUnder r n)

/-! ## Steps -/

theorem lookUpFrom_congr {n : String} {i : Nat} {first : Option AccessError}
    (h : ∀ r ∈ roots, store.read (pathUnder r n) = store'.read (pathUnder r n)) :
    lookUpFrom store n i first roots = lookUpFrom store' n i first roots := by
  induction roots generalizing i first with
  | nil => rfl
  | cons r rest ih =>
    rw [List.forall_mem_cons] at h
    rw [lookUpFrom, lookUpFrom, h.1]
    cases store'.read (pathUnder r n) with
    | ok content => rfl
    | error e =>
      cases e with
      | nul => rfl
      | unknown name => exact ih h.2
      | refused name os => exact ih h.2

theorem Agree.lookUp (h : Agree store store' roots names) {n : String}
    (hn : Reachable store roots names n) :
    Schema.lookUp store roots n = Schema.lookUp store' roots n :=
  lookUpFrom_congr (h.read n hn)

section Runs
variable {asked pending : List String} {s : Staging}

/-- The next name is looked up alike. -/
theorem Agree.lookUp_head (h : Agree store store' roots names) {n : String} {rest : List String}
    (hi : Staging.Inv dir store roots names asked (n :: rest) s) :
    Schema.lookUp store' roots n = Schema.lookUp store roots n :=
  (h.lookUp (hi.reachable n (.inr List.mem_cons_self))).symm

theorem Agree.step (h : Agree store store' roots names)
    (hi : Staging.Inv dir store roots names asked pending s) {pending' : List String} {s' : Staging}
    (hs : Staging.Step dir store roots pending s pending' s') :
    Staging.Step dir store' roots pending s pending' s' := by
  cases hs with
  | known hn => exact .known hn
  | missing hn hl => exact .missing hn ((h.lookUp_head hi).trans hl)
  | found hn hl hc => exact .found hn ((h.lookUp_head hi).trans hl) hc

/-! ## Runs -/

/-- What staging keeps, in two stores. -/
structure BothInv (dir : String) (store store' : Store) (roots names asked pending : List String)
    (s : Staging) : Prop where
  left : Staging.Inv dir store roots names asked pending s
  right : Staging.Inv dir store' roots names asked pending s

theorem BothInv.step (hi : BothInv dir store store' roots names asked pending s)
    (h : Agree store store' roots names) {pending' : List String} {s' : Staging}
    (hs : Staging.Step dir store roots pending s pending' s') :
    BothInv dir store store' roots names asked pending' s' :=
  ⟨hi.left.step hs, hi.right.step (h.step hi.left hs)⟩

/-- Runs are the same when each store has fuel enough for the names that it mentions. -/
theorem run_congr (h : Agree store store' roots names) {fuel : Nat}
    (hi : BothInv dir store store' roots names asked pending s)
    (hf : (Staging.mentioned store names).length ≤ fuel + s.files.length) :
    ∀ fuel', (Staging.mentioned store' names).length ≤ fuel' + s.files.length →
      Staging.run dir store roots fuel pending s =
        Staging.run dir store' roots fuel' pending s := by
  fun_induction Staging.run dir store roots fuel pending s with
  | case1 =>
    intro fuel' hf'
    rw [Staging.run]
  | case2 fuel s n rest hn ih =>
    intro fuel' hf'
    have hn' := List.elem_iff.1 hn
    rw [Staging.run_known hn']
    exact ih (hi.step h (.known hn')) hf fuel' hf'
  | case3 fuel s n rest hn l s' hl =>
    intro fuel' hf'
    have hn' : n ∉ s.seen := fun hm => hn (List.elem_iff.2 hm)
    have hs : s' = s.look roots n .nul := congrArg (s.look roots n) hl
    rw [Staging.run_nul hn' ((h.lookUp_head hi.left).trans hl), hs]
  | case4 fuel s n rest hn l s' e hl ih =>
    intro fuel' hf'
    have hn' : n ∉ s.seen := fun hm => hn (List.elem_iff.2 hm)
    have hs : s' = s.look roots n (.missing e) := congrArg (s.look roots n) hl
    rw [hs] at ih ⊢
    rw [Staging.run_missing hn' ((h.lookUp_head hi.left).trans hl)]
    exact ih (hi.step h (.missing hn' hl)) hf fuel' hf'
  | case5 fuel s n rest hn l s' i c hl b hc =>
    intro fuel' hf'
    have hn' : n ∉ s.seen := fun hm => hn (List.elem_iff.2 hm)
    have hs : s' = s.look roots n (.found i c) := congrArg (s.look roots n) hl
    rw [hs] at hc ⊢
    rw [Staging.run_blocked hn' ((h.lookUp_head hi.left).trans hl) hc]
  | case6 s n rest hn l s' i c hl hc =>
    have hroom := hi.left.room fun hm => hn (List.elem_iff.2 hm)
    omega
  | case7 s n rest hn l s' i c hl fuel hc ih =>
    intro fuel' hf'
    have hn' : n ∉ s.seen := fun hm => hn (List.elem_iff.2 hm)
    have hs : s' = s.look roots n (.found i c) := congrArg (s.look roots n) hl
    rw [hs] at hc ih ⊢
    -- the second store mentions the name too, so it has fuel for one more file
    have hroom := hi.right.room hn'
    obtain ⟨k, rfl⟩ : ∃ k, fuel' = k + 1 := ⟨fuel' - 1, by omega⟩
    have hlength : ((s.look roots n (.found i c)).keep roots ⟨i, n, c⟩).files.length =
        s.files.length + 1 := by
      rw [Staging.files_keep, Staging.files_look, List.length_append, List.length_singleton]
    rw [Staging.run_found hn' ((h.lookUp_head hi.left).trans hl) hc]
    exact ih (hi.step h (.found hn' hl hc)) (by omega) k (by omega)

theorem BothInv.run (hi : BothInv dir store store' roots names asked pending s)
    (h : Agree store store' roots names) (hb : s.broken = none)
    (hnone : (Staging.run dir store roots (Staging.mentioned store names).length pending s).broken =
      none) :
    BothInv dir store store' roots names asked []
      (Staging.run dir store roots (Staging.mentioned store names).length pending s) := by
  have hf := Nat.le_add_right (Staging.mentioned store names).length s.files.length
  have hf' := Nat.le_add_right (Staging.mentioned store' names).length s.files.length
  have hsame := run_congr h hi hf _ hf'
  constructor
  · rcases hi.left.run hf hb with ⟨-, hinv⟩ | ⟨⟨b, hbroken⟩, -⟩
    · exact hinv
    · exact nomatch hnone.symm.trans hbroken
  · rw [hsame] at hnone ⊢
    rcases hi.right.run hf' hb with ⟨-, hinv⟩ | ⟨⟨b, hbroken⟩, -⟩
    · exact hinv
    · exact nomatch hnone.symm.trans hbroken

/-- Requests are the same. -/
theorem request_congr (h : Agree store store' roots names) {todo : List String}
    (hi : BothInv dir store store' roots names asked [] s) (hb : s.broken = none)
    (ht : ∀ n ∈ todo, n ∈ names) :
    Staging.request dir store roots (Staging.mentioned store names).length todo s =
      Staging.request dir store' roots (Staging.mentioned store' names).length todo s := by
  induction todo generalizing asked s with
  | nil => rfl
  | cons n rest ih =>
    rw [List.forall_mem_cons] at ht
    have hask : BothInv dir store store' roots names (n :: asked) [n] s :=
      ⟨hi.left.ask ht.1, hi.right.ask ht.1⟩
    have hsame := run_congr h hask (Nat.le_add_right _ _) _ (Nat.le_add_right _ _)
    rw [Staging.request, Staging.request, ← hsame]
    cases hnone :
        (Staging.run dir store roots (Staging.mentioned store names).length [n] s).broken with
    | some b => rfl
    | none =>
      dsimp only
      rw [ih (hask.run h hb hnone) hnone ht.2]

end Runs

theorem Agree.stage (h : Agree store store' roots names) :
    Schema.stage dir store roots names = Schema.stage dir store' roots names :=
  request_congr h ⟨.empty dir store roots names, .empty dir store' roots names⟩ rfl fun _ hn => hn

/-! ## Compiling and resolving -/

theorem Agree.staged (h : Agree store store' roots names) :
    Schema.staged dir store roots names = Schema.staged dir store' roots names := by
  have hrecord : Event.record store = Event.record store' := by
    funext e
    cases e with
    | opened path => rw [Event.record, Event.record, h.recorded]
    | staged name root => rfl
  unfold Schema.staged
  rw [h.stage, hrecord]

section Resolve
variable (c : Compiler) {importPaths : List String}

/-- Compiling is the same when the stores agree on what the names of the schemas lead to. -/
theorem compile_congr {schemas : List String}
    (h : ∀ names, virtualNames schemas = .ok names →
      Agree store store' (searchedRoots importPaths) names) :
    compile c store importPaths schemas = compile c store' importPaths schemas := by
  have hstaged : ∀ names, (Traced.ofExcept ((virtualNames schemas).mapError .failed)).result =
      .ok names → staged c.directory store (searchedRoots importPaths) names =
        staged c.directory store' (searchedRoots importPaths) names := by
    intro names hnames
    cases hv : virtualNames schemas with
    | error f =>
      rw [hv] at hnames
      exact nomatch hnames
    | ok ns =>
      rw [hv] at hnames
      rw [← Except.ok.inj hnames]
      exact (h ns hv).staged
  cases schemas with
  | nil => rfl
  | cons path rest =>
    refine Traced.bind_congr fun names hnames => ?_
    rw [hstaged names hnames]

/-- So is resolving. -/
theorem resolve_congr {schema name : String}
    (h : ∀ n, virtualName? schema = some n → Agree store store' (searchedRoots importPaths) [n]) :
    resolve c store importPaths schema name = resolve c store' importPaths schema name := by
  have hcompile : compile c store importPaths [schema] = compile c store' importPaths [schema] := by
    refine compile_congr c fun names hnames => ?_
    obtain ⟨n, hn, rfl⟩ := virtualNames_singleton.1 hnames
    exact h n hn
  unfold resolve
  rw [hcompile]

end Resolve

end ProtoCheck.Schema
