import ProtoCheck.Proofs.Schema.Name
import ProtoCheck.Proofs.Store
import ProtoCheck.Schema.Staging
import Mathlib.Logic.Relation

/-!
# The imports that a schema leads to

* `OpensAt`, `Opens` : where a name opens, as the roots and the contents alone say it;
  `lookUp_found`, `OpensAt.lookUp` : looking it up finds that place;
* `Imports`, `Reachable` : one name imports another, and what requested names lead to (`Due` : the
  files among it);
* `Reachable.mem_mentioned` : all of it is mentioned somewhere, so that there is an end to it.
-/

namespace ProtoCheck.Schema

variable (store : Store) (roots : List String)

/-- A name opens under root `i`, and under none before it. -/
def OpensAt (n : String) (i : Nat) (c : Bytes) : Prop :=
  (∃ r, roots[i]? = some r ∧ store.read (pathUnder r n) = .ok c) ∧
    ∀ r ∈ roots.take i, ∀ c', store.read (pathUnder r n) ≠ .ok c'

/-- A name opens under some root. -/
def Opens (n : String) : Prop := ∃ r ∈ roots, ∃ c, store.read (pathUnder r n) = .ok c

/-- A name opens and what is read there imports another name. -/
def Imports (n d : String) : Prop :=
  ∃ i c, OpensAt store roots n i c ∧
    ∃ path ∈ scanImports (Utf8.decodeLossy c), virtualName? path = some d

/-- What requested names lead to by imports. -/
def Reachable (names : List String) (d : String) : Prop :=
  ∃ n ∈ names, Relation.ReflTransGen (Imports store roots) n d

/-- A file is to be staged: its name is one that the names lead to, and it opens there. -/
def Due (names : List String) (f : StagedFile) : Prop :=
  Reachable store roots names f.name ∧ OpensAt store roots f.name f.root f.content

variable {store roots}

/-! ## Looking names up -/

theorem OpensAt.opens {n : String} {i : Nat} {c : Bytes} (h : OpensAt store roots n i c) :
    Opens store roots n := by
  obtain ⟨⟨r, hr, hc⟩, -⟩ := h
  exact ⟨r, List.mem_of_getElem? hr, c, hc⟩

theorem OpensAt.lt_length {n : String} {i : Nat} {c : Bytes} (h : OpensAt store roots n i c) :
    i < roots.length := by
  obtain ⟨⟨r, hr, -⟩, -⟩ := h
  exact (List.getElem?_eq_some_iff.1 hr).1

theorem mem_take_of_getElem? {α : Type} {l : List α} {i j : Nat} {a : α} (hi : i < j)
    (h : l[i]? = some a) : a ∈ l.take j :=
  List.mem_of_getElem? (by rw [List.getElem?_take_of_lt hi, h])

theorem OpensAt.unique {n : String} {i j : Nat} {c d : Bytes} (hi : OpensAt store roots n i c)
    (hj : OpensAt store roots n j d) : i = j ∧ c = d := by
  obtain ⟨⟨r, hr, hc⟩, hfirst⟩ := hi
  obtain ⟨⟨q, hq, hd⟩, hfirst'⟩ := hj
  rcases Nat.lt_trichotomy i j with hlt | rfl | hlt
  · exact absurd hc (hfirst' r (mem_take_of_getElem? hlt hr) c)
  · rw [hr] at hq
    cases hq
    rw [hc] at hd
    cases hd
    exact ⟨rfl, rfl⟩
  · exact absurd hd (hfirst q (mem_take_of_getElem? hlt hq) d)

theorem lookUpFrom_found {n : String} {i : Nat} {first : Option AccessError} {k : Nat} {c : Bytes}
    (h : lookUpFrom store n i first roots = .found k c) :
    ∃ j, k = i + j ∧ OpensAt store roots n j c := by
  induction roots generalizing i first with
  | nil => cases h
  | cons r rest ih =>
    rw [lookUpFrom] at h
    split at h
    · rename_i content hc
      cases h
      exact ⟨0, rfl, ⟨r, rfl, hc⟩, fun q hq => absurd hq List.not_mem_nil⟩
    · cases h
    · rename_i e _ hr
      obtain ⟨j, hk, ⟨q, hq, hc⟩, hfirst⟩ := ih h
      refine ⟨j + 1, by omega, ⟨q, hq, hc⟩, ?_⟩
      rw [List.take_succ_cons, List.forall_mem_cons]
      refine ⟨fun c' hc' => ?_, hfirst⟩
      rw [hr] at hc'
      cases hc'

theorem lookUpFrom_missing {n : String} {i : Nat} {first e : Option AccessError}
    (h : lookUpFrom store n i first roots = .missing e) : ¬ Opens store roots n := by
  induction roots generalizing i first with
  | nil => exact fun ⟨r, hr, _⟩ => absurd hr List.not_mem_nil
  | cons r rest ih =>
    rw [lookUpFrom] at h
    split at h
    · cases h
    · cases h
    · rename_i e _ hr
      rintro ⟨q, hq, c, hc⟩
      rcases List.mem_cons.1 hq with rfl | hq
      · rw [hr] at hc
        cases hc
      · exact ih h ⟨q, hq, c, hc⟩

theorem lookUp_found {n : String} {i : Nat} {c : Bytes} (h : lookUp store roots n = .found i c) :
    OpensAt store roots n i c := by
  obtain ⟨j, hj, ho⟩ := lookUpFrom_found h
  rw [Nat.zero_add] at hj
  exact hj ▸ ho

theorem lookUp_missing {n : String} {e : Option AccessError}
    (h : lookUp store roots n = .missing e) : ¬ Opens store roots n :=
  lookUpFrom_missing h

theorem OpensAt.lookUp {n : String} {i : Nat} {c : Bytes} (h : OpensAt store roots n i c)
    (hnul : lookUp store roots n ≠ .nul) : lookUp store roots n = .found i c := by
  cases hl : Schema.lookUp store roots n with
  | found j d =>
    obtain ⟨rfl, rfl⟩ := h.unique (lookUp_found hl)
    rfl
  | missing e => exact absurd h.opens (lookUp_missing hl)
  | nul => exact absurd hl hnul

/-- Without NUL characters a name that opens does so at some first root. -/
theorem Opens.exists_opensAt {n : String} (h : Opens store roots n)
    (hnul : lookUp store roots n ≠ .nul) : ∃ i c, OpensAt store roots n i c := by
  cases hl : lookUp store roots n with
  | found i c => exact ⟨i, c, lookUp_found hl⟩
  | missing e => exact absurd h (lookUp_missing hl)
  | nul => exact absurd hl hnul

/-! ## Reachable names -/

theorem imports_iff {n d : String} {i : Nat} {c : Bytes} (h : OpensAt store roots n i c) :
    Imports store roots n d ↔ d ∈ importedNames c := by
  unfold importedNames
  rw [List.mem_filterMap]
  constructor
  · rintro ⟨j, c', ho, hd⟩
    obtain ⟨rfl, rfl⟩ := h.unique ho
    exact hd
  · exact fun hd => ⟨i, c, h, hd⟩

theorem Reachable.isName {names : List String} (hn : ∀ n ∈ names, IsName n) {d : String}
    (h : Reachable store roots names d) : IsName d := by
  obtain ⟨n, hmem, hpath⟩ := h
  cases hpath with
  | refl => exact hn _ hmem
  | tail _ hd =>
    obtain ⟨_, _, _, path, _, hv⟩ := hd
    exact ⟨path, hv⟩

theorem not_imports_of_missing {n : String} {e : Option AccessError}
    (h : lookUp store roots n = .missing e) (d : String) : ¬ Imports store roots n d := by
  rintro ⟨i, c, ho, -⟩
  exact lookUp_missing h ho.opens

/-- What the names lead to lies in every set that holds them and what its members import. -/
theorem Reachable.mem_of_closed {names S : List String} (hn : ∀ n ∈ names, n ∈ S)
    (hS : ∀ n ∈ S, ∀ d, Imports store roots n d → d ∈ S) {d : String}
    (h : Reachable store roots names d) : d ∈ S := by
  obtain ⟨n, hmem, hpath⟩ := h
  induction hpath with
  | refl => exact hn n hmem
  | tail _ hstep ih => exact hS _ ih _ hstep

theorem Reachable.mem_mentioned {names : List String} {d : String}
    (h : Reachable store roots names d) : d ∈ Staging.mentioned store names := by
  obtain ⟨n, hmem, hpath⟩ := h
  cases hpath with
  | refl => exact List.mem_append_left _ hmem
  | tail _ hd =>
    obtain ⟨i, c, ho, hpath⟩ := hd
    obtain ⟨⟨r, _, hc⟩, -⟩ := ho
    refine List.mem_append_right _ (List.mem_flatMap.2 ⟨c, Store.mem_contents_of_read hc, ?_⟩)
    exact List.mem_filterMap.2 hpath

end ProtoCheck.Schema
