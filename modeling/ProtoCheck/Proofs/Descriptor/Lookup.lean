import Mathlib.Data.List.Forall2
import Mathlib.Data.List.Nodup
import ProtoCheck.Proofs.Schema.Compiler

/-!
# Message types by name

A simple name has no dot and a qualified one has, so a message can be meant by its simple name or by
its full name, but no name means two messages of one file.

* `toList_qualified`, `qualified_injective` : how a qualified name is put together;
* `FileDecl.Means` : what a name means in a file;
* `WellNamed` : files whose messages have simple names, one for each;
* `declared?_eq_some_iff` : a file answers with what a name means in it;
* `SameNames`, `SameNames.declared?_eq` : the answer hangs on the names at the top of a file alone;
* `eq_of_dot_mem` : a name with a dot is the full name of what it finds;
* `Schema.find_unambiguous` : finding a message in files.
-/

namespace ProtoCheck.Descriptor

/-! ## Qualified names -/

theorem qualified_empty (name : String) : qualified "" name = name := rfl

theorem toList_qualified {scope : String} (h : scope ≠ "") (name : String) :
    (qualified scope name).toList = scope.toList ++ '.' :: name.toList := by
  have hne : scope.isEmpty = false := by
    rw [← Bool.not_eq_true, String.isEmpty_iff]
    exact h
  unfold qualified
  rw [hne]
  simp

theorem dot_mem_qualified {scope : String} (h : scope ≠ "") (name : String) :
    '.' ∈ (qualified scope name).toList := by
  rw [toList_qualified h]
  exact List.mem_append_right _ List.mem_cons_self

theorem qualified_injective (scope : String) : Function.Injective (qualified scope) := by
  intro a b h
  by_cases hs : scope = ""
  · rw [hs] at h
    exact h
  · have hl := congrArg String.toList h
    rw [toList_qualified hs, toList_qualified hs, List.append_cancel_left_eq] at hl
    exact String.toList_injective (List.cons.inj hl).2

/-- A simple name that means a message by its full name does so without a package. -/
theorem scope_eq_empty_of_qualified {scope name s : String} (hs : '.' ∉ s.toList)
    (h : s = qualified scope name) : scope = "" := by
  by_contra hne
  exact hs (h ▸ dot_mem_qualified hne name)

/-! ## Names in a file -/

/-- A name means a message of a file, by the simple name of the message: it is that name, or the
full name that belongs to it. -/
def FileDecl.Means (f : FileDecl) (name simple : String) : Prop :=
  name = simple ∨ name = qualified f.package simple

/-- The simple names of the messages at the top of a file. -/
def FileDecl.names (f : FileDecl) : List String := f.messages.map (·.name)

/-- Files whose messages have names without a dot, each its own, where no two files have a message
of one full name. -/
structure WellNamed (files : List FileDecl) : Prop where
  simple : ∀ f ∈ files, ∀ s ∈ f.names, '.' ∉ s.toList
  distinct : ∀ f ∈ files, f.names.Nodup
  apart : ∀ f ∈ files, ∀ g ∈ files, ∀ s ∈ f.names, ∀ t ∈ g.names,
    qualified f.package s = qualified g.package t → f = g

section File
variable {f : FileDecl} {name s t : String}

theorem isCalled_iff {m : MessageDecl} : f.isCalled name m = true ↔ f.Means name m.name := by
  unfold FileDecl.isCalled FileDecl.Means FileDecl.fullName
  rw [Bool.or_eq_true, beq_iff_eq, beq_iff_eq]

/-- No name means two messages of a file. -/
theorem FileDecl.Means.unique (hs : f.Means name s) (ht : f.Means name t)
    (hdots : '.' ∉ s.toList) (hdott : '.' ∉ t.toList) : s = t := by
  rcases hs with rfl | hs
  · rcases ht with rfl | ht
    · rfl
    · rw [scope_eq_empty_of_qualified hdots ht] at ht
      exact ht
  · rcases ht with rfl | ht
    · rw [scope_eq_empty_of_qualified hdott hs] at hs
      exact hs.symm
    · exact qualified_injective _ (hs.symm.trans ht)

/-- A name with a dot means a message by its full name. -/
theorem FileDecl.Means.of_dot (h : f.Means name s) (hs : '.' ∉ s.toList)
    (hdot : '.' ∈ name.toList) : name = qualified f.package s := by
  rcases h with rfl | h
  · exact absurd hdot hs
  · exact h

variable (hsimple : ∀ s ∈ f.names, '.' ∉ s.toList)
include hsimple

/-- A file answers with the full name of what a name means in it. -/
theorem declared?_eq_some_iff {full : String} : f.declared? name = some full ↔
    ∃ s ∈ f.names, f.Means name s ∧ full = qualified f.package s := by
  unfold FileDecl.declared?
  constructor
  · intro h
    obtain ⟨m, hm, rfl⟩ := Option.map_eq_some_iff.1 h
    exact ⟨m.name, List.mem_map_of_mem (List.mem_of_find?_eq_some hm),
      isCalled_iff.1 (List.find?_some hm), rfl⟩
  · rintro ⟨s, hs, hmeans, rfl⟩
    obtain ⟨m, hm, rfl⟩ := List.mem_map.1 hs
    have hcalled : (f.messages.find? (f.isCalled name)).isSome := by
      rw [List.find?_isSome]
      exact ⟨m, hm, isCalled_iff.2 hmeans⟩
    obtain ⟨n, hn⟩ := Option.isSome_iff_exists.1 hcalled
    have hname : n.name = m.name := (isCalled_iff.1 (List.find?_some hn)).unique hmeans
      (hsimple _ (List.mem_map_of_mem (List.mem_of_find?_eq_some hn))) (hsimple _ hs)
    rw [hn, Option.map_some]
    unfold FileDecl.fullName
    rw [hname]

theorem declared?_eq_none_iff :
    f.declared? name = none ↔ ∀ s ∈ f.names, ¬ f.Means name s := by
  rw [Option.eq_none_iff_forall_ne_some]
  constructor
  · intro h s hs hmeans
    exact h _ ((declared?_eq_some_iff hsimple).2 ⟨s, hs, hmeans, rfl⟩)
  · intro h full hfull
    obtain ⟨s, hs, hmeans, -⟩ := (declared?_eq_some_iff hsimple).1 hfull
    exact h s hs hmeans

/-- One message of a file is meant, if any is. -/
theorem filter_isCalled_eq (hdistinct : f.names.Nodup) {m : MessageDecl} (hm : m ∈ f.messages)
    (hmeans : f.Means name m.name) : f.messages.filter (f.isCalled name) = [m] := by
  have hmem : m ∈ f.messages.filter (f.isCalled name) :=
    List.mem_filter.2 ⟨hm, isCalled_iff.2 hmeans⟩
  have hall : ∀ s ∈ (f.messages.filter (f.isCalled name)).map (·.name), s = m.name := by
    intro s hs
    obtain ⟨n, hn, rfl⟩ := List.mem_map.1 hs
    obtain ⟨hn, hcalled⟩ := List.mem_filter.1 hn
    exact (isCalled_iff.1 hcalled).unique hmeans (hsimple _ (List.mem_map_of_mem hn))
      (hsimple _ (List.mem_map_of_mem hm))
  have hnodup : ((f.messages.filter (f.isCalled name)).map (·.name)).Nodup :=
    hdistinct.sublist (List.filter_sublist.map _)
  -- distinct names that are all one name: there is one of them at most
  rw [List.eq_replicate_of_mem hall, List.nodup_replicate, List.length_map] at hnodup
  have hpos := List.length_pos_of_mem hmem
  have hone : (f.messages.filter (f.isCalled name)).length = 1 := by omega
  obtain ⟨n, hn⟩ := List.length_eq_one_iff.1 hone
  rw [hn, List.mem_singleton] at hmem
  rw [hn, hmem]

end File

/-! ## Other orders -/

/-- Two declarations of a file with the same names at the top, in any order. -/
structure SameNames (f g : FileDecl) : Prop where
  name : f.name = g.name
  package : f.package = g.package
  names : f.names.Perm g.names

/-- What else a file declares, and in which order, does not matter. -/
theorem SameNames.declared?_eq {f g : FileDecl} (h : SameNames f g)
    (hsimple : ∀ s ∈ f.names, '.' ∉ s.toList) (name : String) :
    g.declared? name = f.declared? name := by
  have hsimple' : ∀ s ∈ g.names, '.' ∉ s.toList := fun s hs => hsimple s (h.names.mem_iff.2 hs)
  apply Option.ext
  intro full
  rw [declared?_eq_some_iff hsimple, declared?_eq_some_iff hsimple']
  unfold FileDecl.Means
  rw [h.package]
  simp only [h.names.mem_iff]

section Files
variable {files gs : List FileDecl} {name full : String} {f : FileDecl}

theorem findMessage?_eq_none_iff (h : WellNamed files) : findMessage? files name = none ↔
    ∀ f ∈ files, ∀ s ∈ f.names, ¬ f.Means name s := by
  unfold findMessage?
  rw [List.findSome?_eq_none_iff]
  refine forall₂_congr fun f hf => ?_
  rw [Option.map_eq_none_iff, declared?_eq_none_iff (h.simple f hf)]

/-- The answer comes from the first file in which the name means a message. -/
theorem findMessage?_eq_some_iff (h : WellNamed files) : findMessage? files name = some (f, full) ↔
    ∃ before after, files = before ++ f :: after ∧
      (∃ s ∈ f.names, f.Means name s ∧ full = qualified f.package s) ∧
      ∀ g ∈ before, ∀ s ∈ g.names, ¬ g.Means name s := by
  unfold findMessage?
  rw [List.findSome?_eq_some_iff]
  constructor
  · rintro ⟨before, g, after, rfl, hg, hbefore⟩
    obtain ⟨full, hfull, heq⟩ := Option.map_eq_some_iff.1 hg
    obtain ⟨rfl, rfl⟩ := Prod.mk.inj heq
    refine ⟨before, after, rfl,
      (declared?_eq_some_iff (h.simple g (List.mem_append_right _ List.mem_cons_self))).1 hfull,
      fun x hx => ?_⟩
    have hnone := Option.map_eq_none_iff.1 (hbefore x hx)
    exact (declared?_eq_none_iff (h.simple x (List.mem_append_left _ hx))).1 hnone
  · rintro ⟨before, after, rfl, hfull, hbefore⟩
    refine ⟨before, f, after, rfl, Option.map_eq_some_iff.2 ⟨full, ?_, rfl⟩, fun x hx => ?_⟩
    · exact (declared?_eq_some_iff
        (h.simple f (List.mem_append_right _ List.mem_cons_self))).2 hfull
    · rw [(declared?_eq_none_iff (h.simple x (List.mem_append_left _ hx))).2 (hbefore x hx)]
      rfl

theorem findMessage?_sameNames (h : ∀ f ∈ files, ∀ s ∈ f.names, '.' ∉ s.toList)
    (hsame : List.Forall₂ SameNames files gs) (name : String) :
    (findMessage? gs name).map (fun x => (x.1.name, x.2)) =
      (findMessage? files name).map fun x => (x.1.name, x.2) := by
  unfold findMessage?
  induction hsame with
  | nil => rfl
  | cons hfg _ ih =>
    rw [List.findSome?_cons, List.findSome?_cons, hfg.declared?_eq (h _ List.mem_cons_self)]
    cases FileDecl.declared? _ name with
    | none => exact ih fun f hf => h f (List.mem_cons_of_mem _ hf)
    | some full => simp [hfg.name]

theorem WellNamed.perm (h : WellNamed files) (hperm : gs.Perm files) : WellNamed gs where
  simple f hf := h.simple f (hperm.mem_iff.1 hf)
  distinct f hf := h.distinct f (hperm.mem_iff.1 hf)
  apart f hf g hg := h.apart f (hperm.mem_iff.1 hf) g (hperm.mem_iff.1 hg)

theorem mem_of_findMessage? (h : WellNamed files)
    (hfound : findMessage? files name = some (f, full)) :
    f ∈ files ∧ ∃ s ∈ f.names, f.Means name s ∧ full = qualified f.package s := by
  obtain ⟨before, after, rfl, hs, -⟩ := (findMessage?_eq_some_iff h).1 hfound
  exact ⟨List.mem_append_right _ List.mem_cons_self, hs⟩

/-- A name with a dot is the full name of what it finds. -/
theorem eq_of_dot_mem (h : WellNamed files) (hdot : '.' ∈ name.toList)
    (hfound : findMessage? files name = some (f, full)) : full = name := by
  obtain ⟨hf, s, hs, hmeans, rfl⟩ := mem_of_findMessage? h hfound
  exact (hmeans.of_dot (h.simple f hf s hs) hdot).symm

/-- For a name with a dot the order of the files does not matter. -/
theorem findMessage?_perm (h : WellNamed files) (hdot : '.' ∈ name.toList)
    (hperm : gs.Perm files) : findMessage? gs name = findMessage? files name := by
  have hgs := h.perm hperm
  cases hfound : findMessage? files name with
  | none =>
    rw [findMessage?_eq_none_iff h] at hfound
    rw [findMessage?_eq_none_iff hgs]
    exact fun f hf => hfound f (hperm.mem_iff.1 hf)
  | some x =>
    obtain ⟨f, full⟩ := x
    obtain ⟨hf, s, hs, hmeans, hfull⟩ := mem_of_findMessage? h hfound
    cases hfound' : findMessage? gs name with
    | none =>
      rw [findMessage?_eq_none_iff hgs] at hfound'
      exact absurd hmeans (hfound' f (hperm.mem_iff.2 hf) s hs)
    | some y =>
      obtain ⟨g, full'⟩ := y
      obtain ⟨hg, t, ht, -, hfull'⟩ := mem_of_findMessage? hgs hfound'
      -- both answers are the name itself, which is the full name of one message only
      have hname := eq_of_dot_mem h hdot hfound
      have hname' := eq_of_dot_mem hgs hdot hfound'
      have hfg : g = f := h.apart g (hperm.mem_iff.1 hg) f hf t ht s hs
        (hfull'.symm.trans (hname'.trans (hname.symm.trans hfull)))
      rw [hfg, hname, hname']

end Files

/-! ## Messages inside messages -/

/-- The full names of the messages inside a message of a file, at any depth. -/
def FileDecl.inner (f : FileDecl) (m : MessageDecl) : List String :=
  (MessageDecl.allContents f.name f.dialect (f.fullName m) m.messages).messages.map (·.fullName)

/-- What is declared inside a scope has the scope in front of its name. -/
def Below (scope full : String) : Prop := ∃ rest, full.toList = scope.toList ++ '.' :: rest

theorem below_qualified {scope : String} (h : scope ≠ "") (name : String) :
    Below scope (qualified scope name) := ⟨name.toList, toList_qualified h name⟩

theorem Below.trans {a b c : String} (hab : Below a b) (hbc : Below b c) : Below a c := by
  obtain ⟨r, hr⟩ := hab
  obtain ⟨s, hs⟩ := hbc
  exact ⟨r ++ '.' :: s, by rw [hs, hr, List.append_assoc, List.cons_append]⟩

theorem Below.ne_empty {a b : String} (h : Below a b) : b ≠ "" := by
  rintro rfl
  obtain ⟨r, hr⟩ := h
  exact absurd hr.symm (by simp)

mutual

theorem below_of_mem_contents {file scope : String} {dialect : Dialect} (hs : scope ≠ "") :
    (m : MessageDecl) → ∀ x ∈ (m.contents file dialect scope).messages, Below scope x.fullName
  | ⟨name, fields, messages, enums, extensions, extendable, oneofs, mapEntry⟩ => by
    intro x hx
    rw [MessageDecl.contents] at hx
    rcases List.mem_append.1 hx with hx | hx
    · rw [List.mem_singleton.1 hx]
      exact below_qualified hs name
    · have hfull := below_qualified hs name
      exact hfull.trans (below_of_mem_allContents hfull.ne_empty messages x hx)

theorem below_of_mem_allContents {file scope : String} {dialect : Dialect} (hs : scope ≠ "") :
    (ms : List MessageDecl) →
      ∀ x ∈ (MessageDecl.allContents file dialect scope ms).messages, Below scope x.fullName
  | [] => by
    intro x hx
    rw [MessageDecl.allContents] at hx
    exact absurd hx List.not_mem_nil
  | m :: rest => by
    intro x hx
    rw [MessageDecl.allContents] at hx
    rcases List.mem_append.1 hx with hx | hx
    · exact below_of_mem_contents hs m x hx
    · exact below_of_mem_allContents hs rest x hx

end

/-- A message inside another one does not have the full name of a message at the top. -/
theorem qualified_notMem_inner {f : FileDecl} {m : MessageDecl} {s : String} (hm : m.name ≠ "")
    (hs : '.' ∉ s.toList) : qualified f.package s ∉ f.inner m := by
  intro h
  obtain ⟨x, hx, hfull⟩ := List.mem_map.1 h
  have hne : f.fullName m ≠ "" := by
    unfold FileDecl.fullName
    by_cases hp : f.package = ""
    · rw [hp]
      exact hm
    · exact (below_qualified hp m.name).ne_empty
  obtain ⟨rest, hrest⟩ := below_of_mem_allContents hne _ x hx
  rw [hfull] at hrest
  by_cases hp : f.package = ""
  · rw [hp, qualified_empty] at hrest
    exact hs (hrest ▸ List.mem_append_right _ List.mem_cons_self)
  · unfold FileDecl.fullName at hrest
    rw [toList_qualified hp, toList_qualified hp, List.append_assoc, List.append_cancel_left_eq,
      List.cons_append] at hrest
    exact hs ((List.cons.inj hrest).2 ▸ List.mem_append_right _ List.mem_cons_self)

end ProtoCheck.Descriptor

namespace ProtoCheck.Schema

open Descriptor

theorem result_find (files : List FileDecl) (name : String) : (find files name).result =
    match findMessage? files name with
    | some found => .ok found
    | none => .error (.failed messageNotFound) := by
  unfold find
  cases findMessage? files name <;> rfl

section Find
variable {files : List FileDecl} {name : String}

theorem result_find_eq_ok_iff {x : FileDecl × String} :
    (find files name).result = .ok x ↔ findMessage? files name = some x := by
  rw [result_find]
  cases findMessage? files name <;> simp

theorem result_find_eq_error_iff :
    (find files name).result = .error (.failed messageNotFound) ↔
      findMessage? files name = none := by
  rw [result_find]
  cases findMessage? files name <;> simp

theorem map_result_find {α : Type} (g : FileDecl × String → α) : (find files name).result.map g =
    ((findMessage? files name).map g).elim (.error (.failed messageNotFound)) .ok := by
  rw [result_find]
  cases findMessage? files name <;> rfl

end Find

/-- **Finding a message is unambiguous.** In files that are named well a message is not found
exactly when no message at the top of a file has the name, simple or full. Otherwise the first file
that has one answers, and has no other; it may hold its messages in any order, with any messages
inside them. For a name with a dot the files may stand in any order too. No message inside another
one is found, and none of another file. -/
theorem find_unambiguous {files : List FileDecl} (h : WellNamed files) (name : String) :
    ((find files name).result = .error (.failed messageNotFound) ↔
      ∀ f ∈ files, ∀ m ∈ f.messages, name ≠ m.name ∧ name ≠ f.fullName m) ∧
    ((∃ f ∈ files, ∃ m ∈ f.messages, name = m.name ∨ name = f.fullName m) →
      ∃ before f after m, files = before ++ f :: after ∧
        (∀ g ∈ before, g.messages.filter (g.isCalled name) = []) ∧
        f.messages.filter (f.isCalled name) = [m] ∧
        (find files name).result = .ok (f, f.fullName m)) ∧
    (∀ gs, List.Forall₂ SameNames files gs →
      (find gs name).result.map (fun x => (x.1.name, x.2)) =
        (find files name).result.map fun x => (x.1.name, x.2)) ∧
    ('.' ∈ name.toList → ∀ gs, gs.Perm files →
      (find gs name).result = (find files name).result) ∧
    ∀ f full, (find files name).result = .ok (f, full) →
      f ∈ files ∧ (∃ m ∈ f.messages, full = f.fullName m) ∧
        ∀ m ∈ f.messages, m.name ≠ "" → full ∉ f.inner m := by
  have hnone : (find files name).result = .error (.failed messageNotFound) ↔
      ∀ f ∈ files, ∀ m ∈ f.messages, name ≠ m.name ∧ name ≠ f.fullName m := by
    rw [result_find_eq_error_iff, findMessage?_eq_none_iff h]
    simp only [FileDecl.names, List.forall_mem_map, FileDecl.Means, not_or]
    rfl
  refine ⟨hnone, fun hsome => ?_, fun gs hsame => ?_, fun hdot gs hperm => ?_,
    fun f full hfound => ?_⟩
  · cases hfound : findMessage? files name with
    | none =>
      obtain ⟨f, hf, m, hm, hname⟩ := hsome
      obtain ⟨hne, hne'⟩ := hnone.1 (result_find_eq_error_iff.2 hfound) f hf m hm
      exact absurd hname (not_or.2 ⟨hne, hne'⟩)
    | some x =>
      obtain ⟨f, full⟩ := x
      obtain ⟨before, after, rfl, ⟨s, hs, hmeans, rfl⟩, hbefore⟩ :=
        (findMessage?_eq_some_iff h).1 hfound
      have hf : f ∈ before ++ f :: after := List.mem_append_right _ List.mem_cons_self
      obtain ⟨m, hm, rfl⟩ := List.mem_map.1 hs
      refine ⟨before, f, after, m, rfl, fun g hg => ?_,
        filter_isCalled_eq (h.simple f hf) (h.distinct f hf) hm hmeans,
        result_find_eq_ok_iff.2 hfound⟩
      rw [List.filter_eq_nil_iff]
      intro n hn hcalled
      exact hbefore g hg n.name (List.mem_map_of_mem hn) (isCalled_iff.1 hcalled)
  · rw [map_result_find, map_result_find, findMessage?_sameNames h.simple hsame name]
  · rw [result_find, result_find, findMessage?_perm h hdot hperm]
  · obtain ⟨hf, s, hs, -, rfl⟩ := mem_of_findMessage? h (result_find_eq_ok_iff.1 hfound)
    obtain ⟨m, hm, rfl⟩ := List.mem_map.1 hs
    exact ⟨hf, ⟨m, hm, rfl⟩, fun n _ hne => qualified_notMem_inner hne (h.simple f hf _ hs)⟩

/-- A package of the name that a message of the other one has. -/
def shop : List FileDecl :=
  [{ name := "shop.proto", package := "shop", messages :=
      [{ name := "Order", messages := [{ name := "Line" }] }, { name := "Customer" }] },
    { name := "order.proto", package := "shop.Order", messages := [{ name := "Item" }] }]

theorem wellNamed_shop : WellNamed shop where
  simple := by decide
  distinct := by decide
  apart := by
    have hne : ∀ s ∈ ["Order", "Customer"], ∀ t ∈ ["Item"],
        qualified "shop" s ≠ qualified "shop.Order" t := by
      decide
    intro f hf g hg s hs t ht heq
    rcases List.mem_pair.1 hf with rfl | rfl
    · rcases List.mem_pair.1 hg with rfl | rfl
      · rfl
      · exact absurd heq (hne s hs t ht)
    · rcases List.mem_pair.1 hg with rfl | rfl
      · exact absurd heq.symm (hne t ht s hs)
      · rfl

/-- The message of the second file is found by its full name, however the files stand; the one
inside a message of the first file is not. -/
theorem find_shop : WellNamed shop ∧
    (∀ gs, gs.Perm shop → (find gs "shop.Order.Item").result =
      .ok ({ name := "order.proto", package := "shop.Order", messages := [{ name := "Item" }] },
        "shop.Order.Item")) ∧
    (find shop "shop.Order.Line").result = .error (.failed messageNotFound) := by
  obtain ⟨-, -, -, hperm, -⟩ := find_unambiguous wellNamed_shop "shop.Order.Item"
  obtain ⟨hinner, -⟩ := find_unambiguous wellNamed_shop "shop.Order.Line"
  refine ⟨wellNamed_shop, fun gs hgs => ?_, hinner.2 (by decide)⟩
  rw [hperm (by decide) gs hgs]
  rfl

end ProtoCheck.Schema
