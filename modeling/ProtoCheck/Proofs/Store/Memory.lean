import ProtoCheck.Proofs.Path.Normal
import ProtoCheck.Proofs.Text.Utf8
import ProtoCheck.Store
import Mathlib.Algebra.GroupWithZero.Nat

/-!
# Files held in memory

A file hides those that were added before it under a name of the same normal form, and no others.
So of all files added, a name leads to the last one whose name stands for the same path, however the
two are spelled.

* `flatten_readInParts` : parts that are read, put together, are the front of the content;
* `Holds`, `Lacks` : the answers of a store that holds a file for a name, and of one that does not;
  they are the same in all ways to ask (`holds_iff`, `lacks_iff`);
* `get?_add`, `get?_addAll_eq_some_iff`, `get?_addAll_eq_none_iff` : what one more file changes, and
  what all files together come to;
* `SameEntry`, `sameEntry_iff` : names that no store tells apart;
* `holds_last_added` : a store is a map on paths, the last file added counting.
-/

namespace ProtoCheck

/-! ## Reading in parts -/

/-- How much reads of the given sizes ask for: all of it when one of the sizes is negative. -/
def askedFor (content : Bytes) (sizes : List Int) : Nat :=
  if sizes.any (· < 0) then content.length else (sizes.map Int.toNat).sum

theorem askedFor_of_any {sizes : List Int} (h : sizes.any (· < 0) = true) (content : Bytes) :
    askedFor content sizes = content.length :=
  if_pos h

theorem askedFor_of_not_any {sizes : List Int} (h : ¬ sizes.any (· < 0) = true)
    (content : Bytes) : askedFor content sizes = (sizes.map Int.toNat).sum :=
  if_neg h

theorem length_readInParts (content : Bytes) (sizes : List Int) :
    (readInParts content sizes).length = sizes.length := by
  induction sizes generalizing content with
  | nil => rfl
  | cons n sizes ih => rw [readInParts, List.length_cons, List.length_cons, ih]

theorem flatten_readInParts_nil (sizes : List Int) : (readInParts [] sizes).flatten = [] := by
  induction sizes with
  | nil => rfl
  | cons n sizes ih => simp [readInParts, ih]

/-- Parts that are read, put together, are the front of the content that was asked for. -/
theorem flatten_readInParts (content : Bytes) (sizes : List Int) :
    (readInParts content sizes).flatten = content.take (askedFor content sizes) := by
  induction sizes generalizing content with
  | nil => rfl
  | cons n sizes ih =>
    rw [readInParts, List.flatten_cons]
    by_cases hn : n < 0
    · have hany : (n :: sizes).any (· < 0) = true := by simp [hn]
      rw [if_pos hn, List.drop_length, flatten_readInParts_nil, List.append_nil,
        askedFor_of_any hany]
    · rw [if_neg hn, ih]
      have hcons : (n :: sizes).any (· < 0) = sizes.any (· < 0) := by simp [hn]
      by_cases hs : sizes.any (· < 0) = true
      · rw [askedFor_of_any hs, askedFor_of_any (hcons.trans hs), List.take_length,
          List.take_length, List.take_append_drop]
      · rw [askedFor_of_not_any hs, askedFor_of_not_any (hcons ▸ hs), List.map_cons,
          List.sum_cons, List.take_add]

namespace MemoryStore

/-! ## Answers -/

/-- A store answers that it holds some content for a name, however it is asked. -/
structure Holds (m : MemoryStore) (name : String) (content : Bytes) : Prop where
  contains : m.contains name = true
  read : (Store.memory m).read name = .ok content
  opened : ∀ sizes, ∃ parts, (Store.memory m).readParts name sizes = .ok parts ∧
    parts.length = sizes.length ∧ parts.flatten = content.take (askedFor content sizes)

/-- It answers that it holds none. -/
structure Lacks (m : MemoryStore) (name : String) : Prop where
  contains : m.contains name = false
  read : (Store.memory m).read name = .error (.unknown name)
  opened : ∀ sizes, (Store.memory m).readParts name sizes = .error (.unknown name)

section Answers
variable {m : MemoryStore} {name : String} {content : Bytes}

theorem holds_of_get? (h : m.get? name = some content) : Holds m name content := by
  have hread : (Store.memory m).read name = .ok content := by rw [Store.read, h]
  refine ⟨?_, hread, fun sizes => ⟨readInParts content sizes, ?_, ?_, ?_⟩⟩
  · rw [MemoryStore.contains, h]
    rfl
  · rw [Store.readParts, hread]
    rfl
  · exact length_readInParts content sizes
  · exact flatten_readInParts content sizes

theorem lacks_of_get? (h : m.get? name = none) : Lacks m name := by
  have hread : (Store.memory m).read name = .error (.unknown name) := by rw [Store.read, h]
  refine ⟨?_, hread, fun sizes => ?_⟩
  · rw [MemoryStore.contains, h]
    rfl
  · rw [Store.readParts, hread]
    rfl

theorem holds_iff : Holds m name content ↔ m.get? name = some content := by
  refine ⟨fun h => ?_, holds_of_get?⟩
  cases hget : m.get? name with
  | none => exact nomatch h.read.symm.trans (lacks_of_get? hget).read
  | some other => rw [Except.ok.inj (h.read.symm.trans (holds_of_get? hget).read)]

theorem lacks_iff : Lacks m name ↔ m.get? name = none := by
  refine ⟨fun h => ?_, lacks_of_get?⟩
  cases hget : m.get? name with
  | none => rfl
  | some other => exact nomatch h.read.symm.trans (holds_of_get? hget).read

end Answers

/-! ## Adding files -/

/-- A file hides those under names of the same normal form. -/
theorem get?_add (m : MemoryStore) (added name : String) (content : Bytes) :
    (m.add added content).get? name =
      if normalised added = normalised name then some content else m.get? name := by
  unfold get? add
  rw [List.lookup_cons]
  by_cases h : normalised added = normalised name
  · rw [if_pos h, beq_iff_eq.2 h.symm]
  · rw [if_neg h, beq_eq_false_iff_ne.2 (Ne.symm h)]

theorem addAll_concat (m : MemoryStore) (files : List (String × Content)) (f : String × Content) :
    m.addAll (files ++ [f]) = (m.addAll files).add f.1 f.2.toBytes := by
  rw [addAll, List.foldl_append]
  rfl

/-- Of the files whose names have the normal form of `name`, the last one has this content. -/
def LastAdded (files : List (String × Content)) (name : String) (content : Content) : Prop :=
  ∃ front path back, files = front ++ (path, content) :: back ∧
    normalised path = normalised name ∧ ∀ f ∈ back, normalised f.1 ≠ normalised name

section Added
variable {files : List (String × Content)} {f : String × Content} {name : String}

theorem not_lastAdded_nil {content : Content} : ¬ LastAdded [] name content := by
  rintro ⟨front, path, back, h, -⟩
  exact List.append_ne_nil_of_right_ne_nil front (List.cons_ne_nil _ back) h.symm

/-- One more file takes the place of the last one if it has the normal form. -/
theorem lastAdded_concat {content : Content} : LastAdded (files ++ [f]) name content ↔
    if normalised f.1 = normalised name then f.2 = content else LastAdded files name content := by
  constructor
  · rintro ⟨front, path, back, heq, hpath, hback⟩
    rcases List.eq_nil_or_concat' back with rfl | ⟨back, g, rfl⟩
    · obtain ⟨-, hf⟩ := List.append_inj' heq rfl
      obtain rfl := List.singleton_inj.1 hf
      rw [if_pos hpath]
    · rw [← List.cons_append, ← List.append_assoc] at heq
      obtain ⟨hfiles, hg⟩ := List.append_inj' heq rfl
      obtain rfl := List.singleton_inj.1 hg
      rw [if_neg (hback f (List.mem_append_right back List.mem_cons_self))]
      exact ⟨front, path, back, hfiles, hpath, fun g hg => hback g (List.mem_append_left _ hg)⟩
  · intro h
    split at h
    · rename_i hf
      exact ⟨files, f.1, [], by rw [← h], hf, nofun⟩
    · rename_i hf
      obtain ⟨front, path, back, rfl, hpath, hback⟩ := h
      refine ⟨front, path, back ++ [f], by simp, hpath, ?_⟩
      exact List.forall_mem_append.2 ⟨hback, List.forall_mem_singleton.2 hf⟩

/-- What all files together come to: the last one counts. -/
theorem get?_addAll_eq_some_iff {b : Bytes} :
    (addAll {} files).get? name = some b ↔
      ∃ content, LastAdded files name content ∧ content.toBytes = b := by
  induction files using List.reverseRecOn with
  | nil => exact ⟨nofun, fun ⟨_, h, _⟩ => absurd h not_lastAdded_nil⟩
  | append_singleton files f ih =>
    simp only [addAll_concat, get?_add, lastAdded_concat]
    split
    · simp
    · exact ih

theorem get?_addAll_eq_none_iff :
    (addAll {} files).get? name = none ↔ ∀ f ∈ files, normalised f.1 ≠ normalised name := by
  induction files using List.reverseRecOn with
  | nil => exact ⟨fun _ => nofun, fun _ => rfl⟩
  | append_singleton files f ih =>
    rw [addAll_concat, get?_add, List.forall_mem_append, List.forall_mem_singleton, ← ih]
    split
    · rename_i h
      exact ⟨nofun, fun hf => absurd h hf.2⟩
    · rename_i h
      exact (and_iff_left h).symm

end Added

/-- The second file hides the first, and is found by a third spelling. -/
example : (addAll {} [("./protos/../a.proto", .text "x"), ("a.proto", .bytes [0])]).get?
    "protos/..//a.proto" = some [0] := by decide

/-! ## Names of one entry -/

/-- Whatever files are added, the same is held for both names. -/
def SameEntry (a b : String) : Prop :=
  ∀ files : List (String × Content), (addAll {} files).get? a = (addAll {} files).get? b

theorem get?_congr (m : MemoryStore) {a b : String} (h : normalised a = normalised b) :
    m.get? a = m.get? b := by
  rw [get?, get?, h]

theorem sameEntry_iff {a b : String} : SameEntry a b ↔ normalised a = normalised b := by
  refine ⟨fun h => ?_, fun h files => get?_congr _ h⟩
  -- A file that is added for the one name is found for the other.
  have hone : (add {} a []).get? a = (add {} a []).get? b := h [(a, .bytes [])]
  rw [get?_add, get?_add, if_pos rfl] at hone
  by_contra hne
  rw [if_neg hne] at hone
  cases hone

/-- **A store is a map on paths, the last file added counting.** It holds something for a name
exactly if some file was added under a name of the same normal form, and then the content of the
last such file, a text as its UTF-8, in whichever way it is asked. Two names lead to the same entry
exactly if they stand for the same path, and a name leads to the same entry as its normal form. -/
theorem holds_last_added :
    (∀ (files : List (String × Content)) (name : String),
      ((∃ b, Holds (addAll {} files) name b) ↔
        ∃ f ∈ files, normalised f.1 = normalised name) ∧
      (Lacks (addAll {} files) name ↔ ∀ f ∈ files, normalised f.1 ≠ normalised name) ∧
      ∀ b, Holds (addAll {} files) name b ↔
        ∃ content, LastAdded files name content ∧ content.toBytes = b) ∧
    (∀ s : String, (Content.text s).toBytes = s.toUTF8.data.toList) ∧
    (∀ a b, SameEntry a b ↔ ∃ p, Path.Denotes a.toList p ∧ Path.Denotes b.toList p) ∧
    ∀ (m : MemoryStore) (name : String), m.get? (normalised name) = m.get? name ∧
      ∀ content, m.addContent (normalised name) content = m.addContent name content := by
  refine ⟨fun files name => ⟨?_, ?_, fun b => ?_⟩, Utf8.encodeString_eq_toUTF8, fun a b => ?_,
    fun m name => ⟨?_, fun content => ?_⟩⟩
  · simp only [holds_iff, ← Option.ne_none_iff_exists', Ne, get?_addAll_eq_none_iff]
    push Not
    rfl
  · rw [lacks_iff, get?_addAll_eq_none_iff]
  · rw [holds_iff, get?_addAll_eq_some_iff]
  · rw [sameEntry_iff, normalised_eq_iff]
  · exact get?_congr m (normalised_normalised name)
  · rw [addContent, addContent, add, add, normalised_normalised]

end MemoryStore

end ProtoCheck
