import ProtoCheck.Store
import Mathlib.Data.List.Basic

/-!
# Reading from a source of files

* `Store.read_disk` : reading a disk; `Store.read_disk_eq_nul_iff`, `Store.read_memory_ne_nul` : the
  paths that are refused for a NUL character;
* `Store.mem_contents_of_read` : what is read is among the contents.
-/

namespace ProtoCheck

theorem mem_of_lookup_eq_some {α β : Type} [BEq α] [LawfulBEq α] {l : List (α × β)} {a : α} {b : β}
    (h : l.lookup a = some b) : (a, b) ∈ l := by
  obtain ⟨l₁, l₂, rfl, -⟩ := List.lookup_eq_some_iff.1 h
  exact List.mem_append_right l₁ List.mem_cons_self

theorem MemoryStore.mem_of_get? {m : MemoryStore} {name : String} {c : Bytes}
    (h : m.get? name = some c) : (normalised name, c) ∈ m.entries :=
  mem_of_lookup_eq_some h

/-- A file stands only where one was put. -/
theorem Tree.mem_of_kind? {t : Tree} {p : Place} {c : Bytes} (h : t.kind? p = some (.file c)) :
    (p, .file c) ∈ t.nodes := by
  unfold Tree.kind? at h
  split at h
  · rename_i n hn
    cases h
    exact mem_of_lookup_eq_some hn
  · split at h
    · cases h
    · cases h

theorem Tree.exists_place_of_read {t : Tree} {path : String} {c : Bytes}
    (h : t.read path = .ok c) : ∃ p, t.kind? p = some (.file c) := by
  unfold Tree.read at h
  dsimp only at h
  split at h
  · cases h
  · split at h
    · cases h
    · split at h
      · cases h
      · rename_i place _
        split at h
        · rename_i content hk
          cases h
          exact ⟨place, hk⟩
        · cases h
        · cases h

namespace Store

theorem read_disk {t : Tree} {path : String} (h : '\x00' ∉ path.toList) :
    (Store.disk t).read path = (t.read path).mapError (AccessError.refused path) := by
  have hnul : path.contains '\x00' = false := by simpa using h
  rw [read, hnul]
  cases t.read path <;> rfl

theorem read_memory_ne_nul (m : MemoryStore) (path : String) :
    (Store.memory m).read path ≠ .error .nul := by
  rw [read]
  split
  · exact fun h => nomatch h
  · exact fun h => nomatch Except.error.inj h

/-- A disk refuses the paths that hold a NUL character, and no others, for that. -/
theorem read_disk_eq_nul_iff {t : Tree} {path : String} :
    (Store.disk t).read path = .error .nul ↔ path.contains '\x00' = true := by
  rw [read]
  split
  · rename_i h
    exact ⟨fun _ => h, fun _ => rfl⟩
  · rename_i h
    refine ⟨fun he => ?_, fun hc => absurd hc h⟩
    split at he
    · cases he
    · exact nomatch Except.error.inj he

theorem mem_contents_of_read {s : Store} {path : String} {c : Bytes} (h : s.read path = .ok c) :
    c ∈ s.contents := by
  cases s with
  | memory m =>
    rw [read] at h
    split at h
    · rename_i content hc
      cases h
      exact List.mem_map.2 ⟨_, MemoryStore.mem_of_get? hc, rfl⟩
    · cases h
  | disk t =>
    rw [read] at h
    split at h
    · cases h
    · split at h
      · rename_i content hc
        cases h
        obtain ⟨p, hp⟩ := Tree.exists_place_of_read hc
        exact List.mem_filterMap.2 ⟨_, Tree.mem_of_kind? hp, rfl⟩
      · cases h

end Store

end ProtoCheck
