import ProtoCheck.Proofs.Schema.Confinement
import Mathlib.Data.Set.Card

/-!
# The search behind staging

Staging follows imports depth first: a name that opens is marked, then each of the names it imports
is searched in turn, and only then the next one beside it. The search as such has no bound on its
depth. It ends all the same, because a name that is marked is not searched again and there are only
so many names that can be marked; so each name is looked up once at most.

* `Visits`, `Requests` : the search as a recursion, without fuel; `Visits.unique`, `Requests.unique`
  : it ends in one way at most;
* `Staging.Inv.visits`, `requests_stage` : it ends, and staging is what it comes to;
* `Sought` : what a search has looked up and opened, kept by each step (`Visits.sought`);
* `attempts`, `triedPaths_lookUp` : the roots under which a name is tried;
* `compile_opens_once` : the search of a compilation, and the number of times that it opens.
-/

namespace ProtoCheck.Schema

open Staging

variable {dir : String} {store : Store} {roots names : List String}

/-! ## The recursion -/

/-- Searching names one after the other takes one state to another. The names that a file imports
are searched before the names that stand beside it; where something breaks, nothing more is
searched. -/
inductive Visits (dir : String) (store : Store) (roots : List String) :
    List String → Staging → Staging → Prop where
  | done {s : Staging} : Visits dir store roots [] s s
  | known {n : String} {rest : List String} {s t : Staging} (hn : n ∈ s.seen)
    (next : Visits dir store roots rest s t) : Visits dir store roots (n :: rest) s t
  | missing {n : String} {rest : List String} {s t : Staging} {e : Option AccessError}
    (hn : n ∉ s.seen) (hl : lookUp store roots n = .missing e)
    (next : Visits dir store roots rest ((s.look roots n (.missing e)).miss n e) t) :
    Visits dir store roots (n :: rest) s t
  | found {n : String} {rest : List String} {s t u : Staging} {i : Nat} {c : Bytes}
    (hn : n ∉ s.seen) (hl : lookUp store roots n = .found i c)
    (hc : conflict? dir s.files i n = none)
    (below : Visits dir store roots (importedNames c)
      ((s.look roots n (.found i c)).keep roots ⟨i, n, c⟩) t)
    (hb : t.broken = none) (next : Visits dir store roots rest t u) :
    Visits dir store roots (n :: rest) s u
  | brokenBelow {n : String} {rest : List String} {s t : Staging} {i : Nat} {c : Bytes}
    (hn : n ∉ s.seen) (hl : lookUp store roots n = .found i c)
    (hc : conflict? dir s.files i n = none)
    (below : Visits dir store roots (importedNames c)
      ((s.look roots n (.found i c)).keep roots ⟨i, n, c⟩) t)
    (hb : t.broken ≠ none) : Visits dir store roots (n :: rest) s t
  | nul {n : String} {rest : List String} {s : Staging} (hn : n ∉ s.seen)
    (hl : lookUp store roots n = .nul) :
    Visits dir store roots (n :: rest) s ((s.look roots n .nul).stop .nulInPath)
  | blocked {n : String} {rest : List String} {s : Staging} {i : Nat} {c : Bytes} {b : Breakdown}
    (hn : n ∉ s.seen) (hl : lookUp store roots n = .found i c)
    (hc : conflict? dir s.files i n = some b) :
    Visits dir store roots (n :: rest) s ((s.look roots n (.found i c)).stop b)

/-- Searching requested names, up to the first that is not staged. -/
inductive Requests (dir : String) (store : Store) (roots : List String) :
    List String → Staging → Staging × Option Stop → Prop where
  | done {s : Staging} : Requests dir store roots [] s (s, none)
  | broken {n : String} {rest : List String} {s t : Staging} {b : Breakdown}
    (visit : Visits dir store roots [n] s t) (hb : t.broken = some b) :
    Requests dir store roots (n :: rest) s (t, some (.broken b))
  | staged {n : String} {rest : List String} {s t : Staging} {r : Staging × Option Stop}
    (visit : Visits dir store roots [n] s t) (hb : t.broken = none) (hh : t.holds n = true)
    (next : Requests dir store roots rest t r) : Requests dir store roots (n :: rest) s r
  | absent {n : String} {rest : List String} {s t : Staging}
    (visit : Visits dir store roots [n] s t) (hb : t.broken = none) (hh : t.holds n = false) :
    Requests dir store roots (n :: rest) s (t, some (.failed (t.notFound n)))

/-! ## One outcome at most -/

section Inversion
variable {n : String} {rest : List String} {s u : Staging} {i : Nat} {c : Bytes}

theorem visits_nil_iff : Visits dir store roots [] s u ↔ s = u := by
  constructor
  · intro h
    cases h
    rfl
  · rintro rfl
    exact .done

theorem visits_known_iff (hn : n ∈ s.seen) :
    Visits dir store roots (n :: rest) s u ↔ Visits dir store roots rest s u := by
  constructor
  · intro h
    cases h with
    | known _ next => exact next
    | missing hn' => exact absurd hn hn'
    | found hn' => exact absurd hn hn'
    | brokenBelow hn' => exact absurd hn hn'
    | nul hn' => exact absurd hn hn'
    | blocked hn' => exact absurd hn hn'
  · exact .known hn

theorem visits_missing_iff {e : Option AccessError} (hn : n ∉ s.seen)
    (hl : lookUp store roots n = .missing e) :
    Visits dir store roots (n :: rest) s u ↔
      Visits dir store roots rest ((s.look roots n (.missing e)).miss n e) u := by
  constructor
  · intro h
    cases h with
    | known hn' => exact absurd hn' hn
    | missing _ hl' next => cases hl.symm.trans hl'; exact next
    | found _ hl' => cases hl.symm.trans hl'
    | brokenBelow _ hl' => cases hl.symm.trans hl'
    | nul _ hl' => cases hl.symm.trans hl'
    | blocked _ hl' => cases hl.symm.trans hl'
  · exact .missing hn hl

theorem visits_found_iff (hn : n ∉ s.seen) (hl : lookUp store roots n = .found i c)
    (hc : conflict? dir s.files i n = none) :
    Visits dir store roots (n :: rest) s u ↔ ∃ t, Visits dir store roots (importedNames c)
      ((s.look roots n (.found i c)).keep roots ⟨i, n, c⟩) t ∧
        (t.broken = none ∧ Visits dir store roots rest t u ∨ t.broken ≠ none ∧ t = u) := by
  constructor
  · intro h
    cases h with
    | known hn' => exact absurd hn' hn
    | missing _ hl' => cases hl.symm.trans hl'
    | found _ hl' _ below hb next =>
      cases hl.symm.trans hl'
      exact ⟨_, below, .inl ⟨hb, next⟩⟩
    | brokenBelow _ hl' _ below hb =>
      cases hl.symm.trans hl'
      exact ⟨_, below, .inr ⟨hb, rfl⟩⟩
    | nul _ hl' => cases hl.symm.trans hl'
    | blocked _ hl' hc' =>
      cases hl.symm.trans hl'
      cases hc.symm.trans hc'
  · rintro ⟨t, below, ⟨hb, next⟩ | ⟨hb, rfl⟩⟩
    · exact .found hn hl hc below hb next
    · exact .brokenBelow hn hl hc below hb

theorem visits_nul_iff (hn : n ∉ s.seen) (hl : lookUp store roots n = .nul) :
    Visits dir store roots (n :: rest) s u ↔ (s.look roots n .nul).stop .nulInPath = u := by
  constructor
  · intro h
    cases h with
    | known hn' => exact absurd hn' hn
    | missing _ hl' => cases hl.symm.trans hl'
    | found _ hl' => cases hl.symm.trans hl'
    | brokenBelow _ hl' => cases hl.symm.trans hl'
    | nul => rfl
    | blocked _ hl' => cases hl.symm.trans hl'
  · rintro rfl
    exact .nul hn hl

theorem visits_blocked_iff {b : Breakdown} (hn : n ∉ s.seen)
    (hl : lookUp store roots n = .found i c) (hc : conflict? dir s.files i n = some b) :
    Visits dir store roots (n :: rest) s u ↔ (s.look roots n (.found i c)).stop b = u := by
  constructor
  · intro h
    cases h with
    | known hn' => exact absurd hn' hn
    | missing _ hl' => cases hl.symm.trans hl'
    | found _ hl' hc' =>
      cases hl.symm.trans hl'
      cases hc.symm.trans hc'
    | brokenBelow _ hl' hc' =>
      cases hl.symm.trans hl'
      cases hc.symm.trans hc'
    | nul _ hl' => cases hl.symm.trans hl'
    | blocked _ hl' hc' =>
      cases hl.symm.trans hl'
      cases hc.symm.trans hc'
      rfl
  · rintro rfl
    exact .blocked hn hl hc

end Inversion

theorem Visits.unique {pending : List String} {s t u : Staging}
    (h : Visits dir store roots pending s t) (h' : Visits dir store roots pending s u) : t = u := by
  induction h generalizing u with
  | done => exact visits_nil_iff.1 h'
  | known hn _ ih => exact ih ((visits_known_iff hn).1 h')
  | missing hn hl _ ih => exact ih ((visits_missing_iff hn hl).1 h')
  | found hn hl hc _ hb _ ihbelow ihnext =>
    obtain ⟨t', below, ⟨-, next⟩ | ⟨hb', rfl⟩⟩ := (visits_found_iff hn hl hc).1 h'
    · obtain rfl := ihbelow below
      exact ihnext next
    · obtain rfl := ihbelow below
      exact absurd hb hb'
  | brokenBelow hn hl hc _ hb ih =>
    obtain ⟨t', below, ⟨hb', -⟩ | ⟨-, rfl⟩⟩ := (visits_found_iff hn hl hc).1 h'
    · obtain rfl := ih below
      exact absurd hb' hb
    · exact ih below
  | nul hn hl => exact (visits_nul_iff hn hl).1 h'
  | blocked hn hl hc => exact (visits_blocked_iff hn hl hc).1 h'

theorem Requests.unique {todo : List String} {s : Staging} {r r' : Staging × Option Stop}
    (h : Requests dir store roots todo s r) (h' : Requests dir store roots todo s r') : r = r' := by
  induction h generalizing r' with
  | done =>
    cases h'
    rfl
  | broken visit hb =>
    cases h' with
    | broken visit' hb' =>
      obtain rfl := visit.unique visit'
      cases hb.symm.trans hb'
      rfl
    | staged visit' hb' =>
      obtain rfl := visit.unique visit'
      cases hb.symm.trans hb'
    | absent visit' hb' =>
      obtain rfl := visit.unique visit'
      cases hb.symm.trans hb'
  | staged visit hb hh _ ih =>
    cases h' with
    | broken visit' hb' =>
      obtain rfl := visit.unique visit'
      cases hb.symm.trans hb'
    | staged visit' _ _ next =>
      obtain rfl := visit.unique visit'
      exact ih next
    | absent visit' _ hh' =>
      obtain rfl := visit.unique visit'
      cases hh.symm.trans hh'
  | absent visit hb hh =>
    cases h' with
    | broken visit' hb' =>
      obtain rfl := visit.unique visit'
      cases hb.symm.trans hb'
    | staged visit' _ hh' =>
      obtain rfl := visit.unique visit'
      cases hh.symm.trans hh'
    | absent visit' =>
      obtain rfl := visit.unique visit'
      rfl

/-! ## The search ends -/

/-- Names searched with others behind them are searched on their own first. -/
theorem Visits.split {before rest : List String} {s u : Staging}
    (h : Visits dir store roots (before ++ rest) s u) (hs : s.broken = none) :
    (∃ t, Visits dir store roots before s t ∧ t.broken = none ∧ Visits dir store roots rest t u) ∨
      Visits dir store roots before s u ∧ u.broken ≠ none := by
  generalize hp : before ++ rest = pending at h
  induction h generalizing before with
  | done =>
    obtain ⟨rfl, rfl⟩ := List.append_eq_nil_iff.1 hp
    exact .inl ⟨_, .done, hs, .done⟩
  | known hn next ih =>
    rcases List.append_eq_cons_iff.1 hp with ⟨rfl, rfl⟩ | ⟨before, rfl, rfl⟩
    · exact .inl ⟨_, .done, hs, .known hn next⟩
    · refine (ih hs rfl).imp ?_ fun ⟨visit, hb⟩ => ⟨.known hn visit, hb⟩
      exact fun ⟨t, visit, hb, next⟩ => ⟨t, .known hn visit, hb, next⟩
  | missing hn hl next ih =>
    rcases List.append_eq_cons_iff.1 hp with ⟨rfl, rfl⟩ | ⟨before, rfl, rfl⟩
    · exact .inl ⟨_, .done, hs, .missing hn hl next⟩
    · refine (ih hs rfl).imp ?_ fun ⟨visit, hb⟩ => ⟨.missing hn hl visit, hb⟩
      exact fun ⟨t, visit, hb, next⟩ => ⟨t, .missing hn hl visit, hb, next⟩
  | found hn hl hc below hb next _ ih =>
    rcases List.append_eq_cons_iff.1 hp with ⟨rfl, rfl⟩ | ⟨before, rfl, rfl⟩
    · exact .inl ⟨_, .done, hs, .found hn hl hc below hb next⟩
    · refine (ih hb rfl).imp ?_ fun ⟨visit, hb'⟩ => ⟨.found hn hl hc below hb visit, hb'⟩
      exact fun ⟨t, visit, hb', next⟩ => ⟨t, .found hn hl hc below hb visit, hb', next⟩
  | brokenBelow hn hl hc below hb =>
    rcases List.append_eq_cons_iff.1 hp with ⟨rfl, rfl⟩ | ⟨before, rfl, rfl⟩
    · exact .inl ⟨_, .done, hs, .brokenBelow hn hl hc below hb⟩
    · exact .inr ⟨.brokenBelow hn hl hc below hb, hb⟩
  | nul hn hl =>
    rcases List.append_eq_cons_iff.1 hp with ⟨rfl, rfl⟩ | ⟨before, rfl, rfl⟩
    · exact .inl ⟨_, .done, hs, .nul hn hl⟩
    · exact .inr ⟨.nul hn hl, Option.some_ne_none _⟩
  | blocked hn hl hc =>
    rcases List.append_eq_cons_iff.1 hp with ⟨rfl, rfl⟩ | ⟨before, rfl, rfl⟩
    · exact .inl ⟨_, .done, hs, .blocked hn hl hc⟩
    · exact .inr ⟨.blocked hn hl hc, Option.some_ne_none _⟩

/-- A run with fuel for all names that are mentioned is a search that has ended. -/
theorem Staging.Inv.visits {asked pending : List String} {s : Staging} {fuel : Nat}
    (h : Staging.Inv dir store roots names asked pending s)
    (hfuel : (mentioned store names).length ≤ fuel + s.files.length) (hs : s.broken = none) :
    Visits dir store roots pending s (Staging.run dir store roots fuel pending s) := by
  fun_induction Staging.run dir store roots fuel pending s with
  | case1 => exact .done
  | case2 fuel s n rest hn ih =>
    have hn' := List.elem_iff.1 hn
    exact .known hn' (ih (h.known hn') hfuel hs)
  | case3 fuel s n rest hn l s' hl =>
    have hs' : s' = s.look roots n .nul := congrArg (s.look roots n) hl
    rw [hs']
    exact .nul (fun hm => hn (List.elem_iff.2 hm)) hl
  | case4 fuel s n rest hn l s' e hl ih =>
    have hn' : n ∉ s.seen := fun hm => hn (List.elem_iff.2 hm)
    have hs' : s' = s.look roots n (.missing e) := congrArg (s.look roots n) hl
    rw [hs'] at ih ⊢
    exact .missing hn' hl (ih (h.missing hn' hl) hfuel hs)
  | case5 fuel s n rest hn l s' i c hl b hc =>
    have hs' : s' = s.look roots n (.found i c) := congrArg (s.look roots n) hl
    rw [hs'] at hc ⊢
    exact .blocked (fun hm => hn (List.elem_iff.2 hm)) hl hc
  | case6 s n rest hn l s' i c hl hc =>
    -- more names are mentioned than are staged, so that there is fuel left
    have hroom := h.room fun hm => hn (List.elem_iff.2 hm)
    omega
  | case7 s n rest hn l s' i c hl fuel hc ih =>
    have hn' : n ∉ s.seen := fun hm => hn (List.elem_iff.2 hm)
    have hs' : s' = s.look roots n (.found i c) := congrArg (s.look roots n) hl
    rw [hs'] at hc ih ⊢
    have hlength : ((s.look roots n (.found i c)).keep roots ⟨i, n, c⟩).files.length =
        s.files.length + 1 := by
      rw [files_keep, files_look, List.length_append, List.length_singleton]
    have hvisits := ih (h.found hn' hl hc) (by omega) hs
    rcases hvisits.split hs with ⟨t, below, hb, next⟩ | ⟨below, hb⟩
    · exact .found hn' hl hc below hb next
    · exact .brokenBelow hn' hl hc below hb

theorem Staging.Inv.requests {asked todo : List String} {s : Staging}
    (h : Staging.Inv dir store roots names asked [] s) (hs : s.broken = none)
    (ht : ∀ n ∈ todo, n ∈ names) :
    Requests dir store roots todo s
      (Staging.request dir store roots (mentioned store names).length todo s) := by
  induction todo generalizing asked s with
  | nil => exact .done
  | cons n rest ih =>
    rw [List.forall_mem_cons] at ht
    have hfuel := Nat.le_add_right (mentioned store names).length s.files.length
    have hvisit := (h.ask ht.1).visits hfuel hs
    rw [Staging.request]
    rcases (h.ask ht.1).run hfuel hs with ⟨hb, hrun⟩ | ⟨⟨b, hb⟩, -⟩
    · simp only [hb]
      split
      · rename_i hh
        exact .staged hvisit hb hh (ih hrun hb ht.2)
      · rename_i hh
        exact .absent hvisit hb (Bool.eq_false_iff.2 hh)
    · simp only [hb]
      exact .broken hvisit hb

/-- The search for requested names ends, whatever imports whatever, and staging is what it comes
to. -/
theorem requests_stage (dir : String) (store : Store) (roots names : List String) :
    Requests dir store roots names {} (stage dir store roots names) :=
  (Staging.Inv.empty dir store roots names).requests rfl fun _ hn => hn

/-! ## Roots that are tried -/

/-- Opening a name under a root ends its search: there is something to read, or the path is refused
for a NUL character. -/
def EndsAt (store : Store) (n root : String) : Bool :=
  match store.read (pathUnder root n) with
  | .ok _ => true
  | .error .nul => true
  | .error _ => false

/-- How many roots a name is tried under: those up to the first that ends its search. -/
def triedCount (store : Store) (roots : List String) (n : String) : Nat :=
  min (roots.findIdx (EndsAt store n) + 1) roots.length

/-- The attempts to open a name, as pairs of a root's number and the name. -/
def attempts (store : Store) (roots : List String) (n : String) : List (Nat × String) :=
  (List.range (triedCount store roots n)).map fun i => (i, n)

/-- The path that an attempt opens. -/
def attemptPath (roots : List String) (a : Nat × String) : String :=
  pathUnder (roots.getD a.1 "") a.2

/-- No root before the one of an attempt ends the search. -/
theorem endsAt_of_mem_attempts {n r : String} {a : Nat × String} (ha : a ∈ attempts store roots n)
    (hr : r ∈ roots.take a.1) : a.2 = n ∧ EndsAt store n r = false := by
  obtain ⟨i, hi, rfl⟩ := List.mem_map.1 ha
  obtain ⟨j, hj, rfl⟩ := List.mem_take_iff_getElem.1 hr
  have hlt : i < triedCount store roots n := List.mem_range.1 hi
  unfold triedCount at hlt
  have hbefore : j < roots.findIdx (EndsAt store n) := by omega
  exact ⟨rfl, List.not_of_lt_findIdx hbefore⟩

theorem length_attempts_le (n : String) : (attempts store roots n).length ≤ roots.length := by
  rw [attempts, List.length_map, List.length_range]
  exact Nat.min_le_right _ _

theorem map_attemptPath_attempts (n : String) :
    (attempts store roots n).map (attemptPath roots) =
      (roots.take (roots.findIdx (EndsAt store n) + 1)).map (pathUnder · n) := by
  unfold attempts triedCount
  apply List.ext_getElem
  · simp
  · intro i h₁ h₂
    rw [List.length_map, List.length_take] at h₂
    have hi : i < roots.length := by omega
    simp [attemptPath, hi]

section LookUp
variable {n : String} {i : Nat} {first : Option AccessError}

theorem endsAt_of_error {r : String} {e : AccessError} (hr : store.read (pathUnder r n) = .error e)
    (he : e ≠ .nul) : EndsAt store n r = false := by
  rw [EndsAt, hr]
  cases e with
  | nul => exact absurd rfl he
  | unknown name => rfl
  | refused name os => rfl

theorem findIdx_of_lookUpFrom_found {k : Nat} {c : Bytes}
    (h : lookUpFrom store n i first roots = .found k c) :
    k = i + roots.findIdx (EndsAt store n) := by
  induction roots generalizing i first with
  | nil => cases h
  | cons r rest ih =>
    rw [List.findIdx_cons]
    rw [lookUpFrom] at h
    split at h
    · rename_i content hr
      cases h
      rw [EndsAt, hr]
      rfl
    · cases h
    · rename_i e hne hr
      rw [endsAt_of_error hr hne, ih h, cond_false]
      omega

theorem endsAt_of_lookUpFrom_missing {e : Option AccessError}
    (h : lookUpFrom store n i first roots = .missing e) :
    ∀ r ∈ roots, EndsAt store n r = false := by
  induction roots generalizing i first with
  | nil => exact fun r hr => absurd hr List.not_mem_nil
  | cons r rest ih =>
    rw [lookUpFrom] at h
    split at h
    · cases h
    · cases h
    · rename_i e hne hr
      exact List.forall_mem_cons.2 ⟨endsAt_of_error hr hne, ih h⟩

theorem lookUpFrom_memory_ne_nul (m : MemoryStore) :
    lookUpFrom (.memory m) n i first roots ≠ .nul := by
  induction roots generalizing i first with
  | nil => exact Lookup.noConfusion
  | cons r rest ih =>
    rw [lookUpFrom]
    split
    · exact Lookup.noConfusion
    · rename_i hr
      exact absurd hr (Store.read_memory_ne_nul m _)
    · exact ih

/-- A search that a NUL character ends does so at the first path that holds one. -/
theorem findIdx_of_lookUpFrom_nul (h : lookUpFrom store n i first roots = .nul) :
    roots.findIdx (EndsAt store n) =
      roots.findIdx fun r => (pathUnder r n).contains '\x00' := by
  cases store with
  | memory m => exact absurd h (lookUpFrom_memory_ne_nul m)
  | disk t =>
    induction roots generalizing i first with
    | nil => cases h
    | cons r rest ih =>
      rw [List.findIdx_cons, List.findIdx_cons]
      rw [lookUpFrom] at h
      split at h
      · cases h
      · rename_i hr
        rw [Store.read_disk_eq_nul_iff.1 hr, EndsAt, hr]
        rfl
      · rename_i e hne hr
        have hno : (pathUnder r n).contains '\x00' = false := by
          rw [← Bool.not_eq_true, ← Store.read_disk_eq_nul_iff, hr]
          exact fun he => hne (Except.error.inj he)
        rw [hno, endsAt_of_error hr hne, ih h]

end LookUp

/-- Looking a name up opens it under the roots in order, up to the first that ends the search. -/
theorem triedPaths_lookUp (n : String) :
    triedPaths roots n (lookUp store roots n) =
      (attempts store roots n).map (attemptPath roots) := by
  rw [map_attemptPath_attempts]
  cases h : lookUp store roots n with
  | found i c =>
    have hi := findIdx_of_lookUpFrom_found h
    rw [Nat.zero_add] at hi
    rw [triedPaths, hi]
  | missing e =>
    have hall := endsAt_of_lookUpFrom_missing h
    rw [triedPaths, List.findIdx_eq_length.2 hall, List.take_of_length_le (Nat.le_succ _)]
  | nul =>
    rw [triedPaths, findIdx_of_lookUpFrom_nul h]

/-! ## What a search has opened -/

/-- Each name is looked up once at most, it is one that the requested names lead to, and what has
been opened is what looking the names up opens, in the same order. -/
structure Sought (store : Store) (roots names : List String) (s : Staging) : Prop where
  once : s.seen.Nodup
  reachable : ∀ n ∈ s.seen, Reachable store roots names n
  opened : s.events.filterMap Event.path? =
    (s.seen.reverse.flatMap (attempts store roots)).map (attemptPath roots)

theorem filterMap_path?_opened (paths : List String) :
    (paths.map Event.opened).filterMap Event.path? = paths := by
  rw [List.filterMap_map]
  exact List.filterMap_some

section Sought
variable {s : Staging} (h : Sought store roots names s)
include h

theorem Sought.look {n : String} (hn : n ∉ s.seen) (hr : Reachable store roots names n)
    {l : Lookup} (hl : lookUp store roots n = l) :
    Sought store roots names (s.look roots n l) where
  once := List.nodup_cons.2 ⟨hn, h.once⟩
  reachable := List.forall_mem_cons.2 ⟨hr, h.reachable⟩
  opened := by
    rw [Staging.look, List.filterMap_append, filterMap_path?_opened, h.opened, ← hl,
      triedPaths_lookUp, List.reverse_cons, List.flatMap_append, List.map_append,
      List.flatMap_singleton]

theorem Sought.miss (n : String) (e : Option AccessError) :
    Sought store roots names (s.miss n e) :=
  ⟨h.once, h.reachable, h.opened⟩

theorem Sought.stop (b : Breakdown) : Sought store roots names (s.stop b) :=
  ⟨h.once, h.reachable, h.opened⟩

theorem Sought.keep (f : StagedFile) : Sought store roots names (s.keep roots f) where
  once := h.once
  reachable := h.reachable
  opened := by
    rw [Staging.keep, List.filterMap_append, h.opened]
    exact List.append_nil _

end Sought

/-- What a file imports is reachable when its name is. -/
theorem Reachable.of_mem_importedNames {n d : String} {i : Nat} {c : Bytes}
    (hr : Reachable store roots names n) (hl : lookUp store roots n = .found i c)
    (hd : d ∈ importedNames c) : Reachable store roots names d := by
  obtain ⟨m, hm, hpath⟩ := hr
  exact ⟨m, hm, hpath.tail ((imports_iff (lookUp_found hl)).2 hd)⟩

theorem Visits.sought {pending : List String} {s t : Staging}
    (hv : Visits dir store roots pending s t) (h : Sought store roots names s)
    (hp : ∀ n ∈ pending, Reachable store roots names n) : Sought store roots names t := by
  induction hv with
  | done => exact h
  | known _ _ ih => exact ih h (List.forall_mem_cons.1 hp).2
  | missing hn hl _ ih =>
    rw [List.forall_mem_cons] at hp
    exact ih ((h.look hn hp.1 hl).miss _ _) hp.2
  | found hn hl _ _ _ _ ihbelow ihnext =>
    rw [List.forall_mem_cons] at hp
    refine ihnext (ihbelow ((h.look hn hp.1 hl).keep _) ?_) hp.2
    exact fun d hd => hp.1.of_mem_importedNames hl hd
  | brokenBelow hn hl _ _ _ ih =>
    have hr := (List.forall_mem_cons.1 hp).1
    exact ih ((h.look hn hr hl).keep _) fun d hd => hr.of_mem_importedNames hl hd
  | nul hn hl => exact (h.look hn (List.forall_mem_cons.1 hp).1 hl).stop _
  | blocked hn hl _ => exact (h.look hn (List.forall_mem_cons.1 hp).1 hl).stop _

theorem Requests.sought {todo : List String} {s : Staging} {r : Staging × Option Stop}
    (hr : Requests dir store roots todo s r) (h : Sought store roots names s)
    (ht : ∀ n ∈ todo, n ∈ names) : Sought store roots names r.1 := by
  have hstart : ∀ n ∈ names, ∀ m ∈ [n], Reachable store roots names m :=
    fun n hn => List.forall_mem_singleton.2 ⟨n, hn, .refl⟩
  induction hr with
  | done => exact h
  | broken visit _ => exact visit.sought h (hstart _ (List.forall_mem_cons.1 ht).1)
  | staged visit _ _ _ ih =>
    rw [List.forall_mem_cons] at ht
    exact ih (visit.sought h (hstart _ ht.1)) ht.2
  | absent visit _ _ => exact visit.sought h (hstart _ (List.forall_mem_cons.1 ht).1)

theorem Sought.empty (store : Store) (roots names : List String) :
    Sought store roots names {} :=
  ⟨List.nodup_nil, fun _ hn => absurd hn List.not_mem_nil, rfl⟩

theorem sought_stage (dir : String) (store : Store) (roots names : List String) :
    Sought store roots names (stage dir store roots names).1 :=
  (requests_stage dir store roots names).sought (.empty store roots names) fun _ hn => hn

/-! ## How often a compilation opens -/

theorem nodup_flatMap_attempts {looked : List String} (h : looked.Nodup) :
    (looked.flatMap (attempts store roots)).Nodup := by
  refine List.nodup_flatMap.2 ⟨fun n _ => ?_, h.imp fun hne => ?_⟩
  · exact List.nodup_range.map fun _ _ he => (Prod.mk.inj he).1
  · intro a ha hb
    obtain ⟨_, -, rfl⟩ := List.mem_map.1 ha
    obtain ⟨_, -, he⟩ := List.mem_map.1 hb
    exact hne (Prod.mk.inj he).2.symm

theorem finite_reachable (store : Store) (roots names : List String) :
    {n | Reachable store roots names n}.Finite :=
  (List.finite_toSet (mentioned store names)).subset fun _ hn => hn.mem_mentioned

theorem length_flatMap_attempts (looked : List String) :
    (looked.flatMap (attempts store roots)).length ≤ roots.length * looked.length := by
  induction looked with
  | nil => exact Nat.zero_le _
  | cons n looked ih =>
    have hn : (attempts store roots n).length ≤ roots.length := length_attempts_le n
    rw [List.flatMap_cons, List.length_append, List.length_cons, Nat.mul_succ]
    omega

/-- There are as many names looked up, at most, as there are reachable ones. -/
theorem length_le_ncard_reachable {looked : List String} (h : looked.Nodup)
    (hr : ∀ n ∈ looked, Reachable store roots names n) :
    looked.length ≤ {n | Reachable store roots names n}.ncard := by
  rw [← List.toFinset_card_of_nodup h, ← Set.ncard_coe_finset]
  refine Set.ncard_le_ncard (fun n hn => hr n ?_) (finite_reachable store roots names)
  exact List.mem_toFinset.1 hn

/-- **The search of a compilation.** As a recursion it ends, in one way, and staging is what it
comes to. It looks names up that the names of the schemas lead to, none of them twice, each under
the roots in order and under none behind one where it opens. So no name is opened twice under a
root, and there are no more attempts than there are roots for each reachable name. -/
theorem compile_opens_once (c : Compiler) (store : Store) (importPaths schemas : List String)
    (hnames : virtualNames schemas = .ok names) :
    (∀ r, Requests c.directory store (searchedRoots importPaths) names {} r ↔
      r = stage c.directory store (searchedRoots importPaths) names) ∧
    {n | Reachable store (searchedRoots importPaths) names n}.Finite ∧
    ∃ looked : List String, looked.Nodup ∧
      (∀ n ∈ looked, Reachable store (searchedRoots importPaths) names n) ∧
      (compile c store importPaths schemas).journal.opened =
        (looked.flatMap (attempts store (searchedRoots importPaths))).map
          (attemptPath (searchedRoots importPaths)) ∧
      (looked.flatMap (attempts store (searchedRoots importPaths))).Nodup ∧
      (∀ a ∈ looked.flatMap (attempts store (searchedRoots importPaths)),
        ∀ r ∈ (searchedRoots importPaths).take a.1, ∀ content,
          store.read (pathUnder r a.2) ≠ .ok content) ∧
      (compile c store importPaths schemas).journal.opened.length ≤
        (searchedRoots importPaths).length *
          {n | Reachable store (searchedRoots importPaths) names n}.ncard := by
  have hsought := sought_stage c.directory store (searchedRoots importPaths) names
  have hrequests := requests_stage c.directory store (searchedRoots importPaths) names
  have hnodup := List.nodup_reverse.2 hsought.once
  have hreach : ∀ n ∈ (stage c.directory store (searchedRoots importPaths) names).1.seen.reverse,
      Reachable store (searchedRoots importPaths) names n :=
    fun n hn => hsought.reachable n (List.mem_reverse.1 hn)
  have hopened : (compile c store importPaths schemas).journal.opened =
      ((stage c.directory store (searchedRoots importPaths) names).1.seen.reverse.flatMap
        (attempts store (searchedRoots importPaths))).map
          (attemptPath (searchedRoots importPaths)) := by
    by_cases hs : schemas = []
    · rw [hs] at hnames ⊢
      rw [← Except.ok.inj hnames]
      rfl
    · rw [opened_compile c store importPaths hs, hnames]
      exact hsought.opened
  refine ⟨fun r => ⟨fun h => h.unique hrequests, fun h => h ▸ hrequests⟩,
    finite_reachable _ _ _, _, hnodup, hreach, hopened, nodup_flatMap_attempts hnodup, ?_, ?_⟩
  · intro a ha r hr content hread
    obtain ⟨n, -, ha⟩ := List.mem_flatMap.1 ha
    obtain ⟨rfl, hno⟩ := endsAt_of_mem_attempts ha hr
    rw [EndsAt, hread] at hno
    cases hno
  · rw [hopened, List.length_map]
    exact (length_flatMap_attempts _).trans
      (Nat.mul_le_mul_left _ (length_le_ncard_reachable hnodup hreach))

/-- Two schemas that import each other, one of them with an import that is nowhere: five attempts
for three names under two roots. -/
theorem opened_crossed :
    virtualNames ["x.proto"] = .ok ["x.proto"] ∧
      (compile uninstalled crossed ["a", "b"] ["x.proto"]).journal.opened =
        ["a/x.proto", "a/y.proto", "b/y.proto", "a/none.proto", "b/none.proto"] ∧
      5 ≤ 2 * {n | Reachable crossed ["a", "b"] ["x.proto"] n}.ncard := by
  have hopened : (compile uninstalled crossed ["a", "b"] ["x.proto"]).journal.opened =
      ["a/x.proto", "a/y.proto", "b/y.proto", "a/none.proto", "b/none.proto"] := by
    rw [opened_compile uninstalled crossed ["a", "b"] (List.cons_ne_nil _ _), virtualNames_xProto]
    show (stage "staging" crossed ["a", "b"] ["x.proto"]).1.events.filterMap Event.path? = _
    rw [stage_crossed_eq]
    rfl
  obtain ⟨-, -, looked, -, -, -, -, -, hle⟩ :=
    compile_opens_once uninstalled crossed ["a", "b"] ["x.proto"] virtualNames_xProto
  rw [hopened] at hle
  exact ⟨virtualNames_xProto, hopened, hle⟩

end ProtoCheck.Schema
