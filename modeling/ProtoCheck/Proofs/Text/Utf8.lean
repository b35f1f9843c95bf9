import ProtoCheck.Proofs.Text.Blank
import ProtoCheck.Text.Utf8
import Mathlib.Data.List.Infix
import Mathlib.Tactic.ByContra
import Mathlib.Tactic.SplitIfs

/-!
# The first piece of bytes

A character is encoded by a first byte and the bytes that it asks for. Bytes that encode none are
cut behind the longest part of them that a character begins with.

* `encodeString_eq_toUTF8` : the bytes of a text are those that the standard library gives it;
* `header?_cases` : what a first byte asks for;
* `Lacks` : the bytes behind a first byte, and how many more it asks for; `Lacks.piece_eq_char`,
  `Lacks.piece_eq_bad` : the piece that they make up when they lack none, or lack some;
* `exists_encodeChar_eq` : the bytes of a character lack none;
* `Begins`, `Illformed` : what a character begins with, and the longest such part of other bytes;
* `piece_cases` : the first piece of bytes is a character or such a part.
-/

namespace ProtoCheck.Utf8

/-! ## The bytes of a character -/

theorem isTail_iff {b : UInt8} : isTail b = true ↔ 0x80 ≤ b.toNat ∧ b.toNat < 0xC0 := by
  simp [isTail]

theorem toNat_ofNat {n : Nat} (h : n.isValidChar) : (Char.ofNat n).toNat = n := by
  unfold Char.ofNat
  rw [dif_pos h]
  rfl

theorem encodeChar_ofNat_one {a : UInt8} (ha : a.toNat < 0x80) :
    encodeChar (Char.ofNat a.toNat) = [a] := by
  have hn : (Char.ofNat a.toNat).toNat = a.toNat := toNat_ofNat (.inl (by omega))
  simp [encodeChar, hn, ha]

theorem eq_ofNat {a : UInt8} {n : Nat} (h : n = a.toNat) : UInt8.ofNat n = a := by
  rw [h, UInt8.ofNat_toNat]

theorem encodeChar_ofNat_two {a b : UInt8} (ha : 0xC2 ≤ a.toNat) (ha' : a.toNat < 0xE0)
    (hb : isTail b = true) :
    encodeChar (Char.ofNat (a.toNat % 32 * 64 + (b.toNat - 0x80))) = [a, b] := by
  rw [isTail_iff] at hb
  have hn := toNat_ofNat (n := a.toNat % 32 * 64 + (b.toNat - 0x80)) (.inl (by omega))
  unfold encodeChar
  dsimp only
  rw [hn, if_neg (by omega), if_pos (by omega), eq_ofNat (a := a) (by omega),
    eq_ofNat (a := b) (by omega)]

theorem encodeChar_ofNat_three {a b c : UInt8} (ha : 0xE0 ≤ a.toNat) (ha' : a.toNat < 0xF0)
    (hb : isTail b = true) (hlow : a.toNat = 0xE0 → 0xA0 ≤ b.toNat)
    (hhigh : a.toNat = 0xED → b.toNat ≤ 0x9F) (hc : isTail c = true) :
    encodeChar (Char.ofNat ((a.toNat % 16 * 64 + (b.toNat - 0x80)) * 64 + (c.toNat - 0x80))) =
      [a, b, c] := by
  rw [isTail_iff] at hb hc
  have hn := toNat_ofNat
    (n := (a.toNat % 16 * 64 + (b.toNat - 0x80)) * 64 + (c.toNat - 0x80)) (by
      unfold Nat.isValidChar
      omega)
  unfold encodeChar
  dsimp only
  rw [hn, if_neg (by omega), if_neg (by omega), if_pos (by omega), eq_ofNat (a := a) (by omega),
    eq_ofNat (a := b) (by omega), eq_ofNat (a := c) (by omega)]

theorem encodeChar_ofNat_four {a b c d : UInt8} (ha : 0xF0 ≤ a.toNat) (ha' : a.toNat ≤ 0xF4)
    (hb : isTail b = true) (hlow : a.toNat = 0xF0 → 0x90 ≤ b.toNat)
    (hhigh : a.toNat = 0xF4 → b.toNat ≤ 0x8F) (hc : isTail c = true) (hd : isTail d = true) :
    encodeChar (Char.ofNat (((a.toNat % 8 * 64 + (b.toNat - 0x80)) * 64 + (c.toNat - 0x80)) * 64 +
      (d.toNat - 0x80))) = [a, b, c, d] := by
  rw [isTail_iff] at hb hc hd
  have hn := toNat_ofNat
    (n := ((a.toNat % 8 * 64 + (b.toNat - 0x80)) * 64 + (c.toNat - 0x80)) * 64 +
      (d.toNat - 0x80)) (by
      unfold Nat.isValidChar
      omega)
  unfold encodeChar
  dsimp only
  rw [hn, if_neg (by omega), if_neg (by omega), if_neg (by omega), eq_ofNat (a := a) (by omega),
    eq_ofNat (a := b) (by omega), eq_ofNat (a := c) (by omega), eq_ofNat (a := d) (by omega)]

theorem toNat_lt (c : Char) : c.toNat < 0x110000 := by
  rcases c.valid with h | h
  · exact Nat.lt_trans h (by decide)
  · exact h.2

/-- The standard library masks the first byte, in which the bits of a character fit anyway. -/
theorem encodeChar_eq_utf8EncodeChar (c : Char) : encodeChar c = String.utf8EncodeChar c := by
  have hc : c.val.toNat < 0x110000 := toNat_lt c
  unfold encodeChar
  simp only [show c.toNat = c.val.toNat from rfl]
  fun_cases String.utf8EncodeChar c with
  | case1 n h => rw [if_pos (by omega)]
  | case2 n h₁ h₂ =>
    have hlead : n / 64 % 32 = n / 64 := Nat.mod_eq_of_lt (by omega)
    rw [if_neg (by omega), if_pos (by omega), hlead, Nat.add_comm 0xC0, Nat.add_comm 0x80]
  | case3 n h₁ h₂ h₃ =>
    have hlead : n / 4096 % 16 = n / 4096 := Nat.mod_eq_of_lt (by omega)
    rw [if_neg (by omega), if_neg (by omega), if_pos (by omega), hlead, Nat.add_comm 0xE0,
      Nat.add_comm 0x80, Nat.add_comm 0x80]
  | case4 n h₁ h₂ h₃ =>
    have hlead : n / 262144 % 8 = n / 262144 := Nat.mod_eq_of_lt (by omega)
    rw [if_neg (by omega), if_neg (by omega), if_neg (by omega), hlead, Nat.add_comm 0xF0,
      Nat.add_comm 0x80, Nat.add_comm 0x80, Nat.add_comm 0x80]

theorem encodeString_eq_toUTF8 (s : String) : encodeString s = s.toUTF8.data.toList := by
  rw [String.toUTF8, ← String.utf8Encode_toList, List.utf8Encode, List.data_toByteArray]
  unfold encodeString encode
  rw [funext encodeChar_eq_utf8EncodeChar]

/-! ## First bytes -/

/-- What a first byte says: how many bytes follow, and the range of the second one. -/
theorem header?_cases {b : UInt8} {need low high : Nat} (h : header? b = some (need, low, high)) :
    need = 0 ∧ b.toNat < 0x80 ∨
    need = 1 ∧ 0xC2 ≤ b.toNat ∧ b.toNat < 0xE0 ∧ low = 0x80 ∧ high = 0xBF ∨
    need = 2 ∧ 0xE0 ≤ b.toNat ∧ b.toNat < 0xF0 ∧ 0x80 ≤ low ∧ high ≤ 0xBF ∧ low ≤ high ∧
      (b.toNat = 0xE0 → 0xA0 ≤ low) ∧ (b.toNat = 0xED → high ≤ 0x9F) ∨
    need = 3 ∧ 0xF0 ≤ b.toNat ∧ b.toNat ≤ 0xF4 ∧ 0x80 ≤ low ∧ high ≤ 0xBF ∧ low ≤ high ∧
      (b.toNat = 0xF0 → 0x90 ≤ low) ∧ (b.toNat = 0xF4 → high ≤ 0x8F) := by
  unfold header? at h
  simp only [beq_iff_eq] at h
  split_ifs at h <;> simp only [Option.some.injEq, Prod.mk.injEq] at h <;> omega

/-- The bytes `ts` may follow `b` in a character that lacks `k` more bytes. -/
def Lacks (b : UInt8) (ts : Bytes) (k : Nat) : Prop :=
  ∃ low high, header? b = some (ts.length + k, low, high) ∧
    (∀ s ∈ ts.head?, low ≤ s.toNat ∧ s.toNat ≤ high) ∧ ∀ t ∈ ts.tail, isTail t = true

theorem Lacks.of_append {b : UInt8} {ts us : Bytes} {k : Nat} (h : Lacks b (ts ++ us) k) :
    Lacks b ts (us.length + k) := by
  obtain ⟨low, high, hb, hs, ht⟩ := h
  refine ⟨low, high, ?_, fun s hs' => hs s ?_, fun t ht' => ht t ?_⟩
  · rw [hb, List.length_append, Nat.add_assoc]
  · rw [List.head?_append, hs']
    rfl
  · cases ts with
    | nil => exact absurd ht' List.not_mem_nil
    | cons a ts => exact List.mem_append_left _ ht'

/-- A code with tail bytes behind it. -/
def withTails (code : Nat) (ts : Bytes) : Nat :=
  ts.foldl (fun n t => n * 64 + (t.toNat - 0x80)) code

/-- The code of the character that bytes encode. -/
def codeOf (b : UInt8) : Bytes → Nat
  | [] => b.toNat
  | s :: ts =>
    withTails (b.toNat % if ts.length = 0 then 32 else if ts.length = 1 then 16 else 8) (s :: ts)

/-- What lacks nothing encodes a character. -/
theorem Lacks.encodeChar_eq {b : UInt8} {ts : Bytes} (h : Lacks b ts 0) :
    encodeChar (Char.ofNat (codeOf b ts)) = b :: ts := by
  obtain ⟨low, high, hb, hs, ht⟩ := h
  have hcases := header?_cases hb
  match ts with
  | [] =>
    simp at hcases
    exact encodeChar_ofNat_one (by omega)
  | [s] =>
    have hrange := hs s rfl
    simp at hcases
    have htail : isTail s = true := isTail_iff.2 (by omega)
    exact encodeChar_ofNat_two (by omega) (by omega) htail
  | [s, t] =>
    have hrange := hs s rfl
    simp at hcases
    have htail : isTail s = true := isTail_iff.2 (by omega)
    exact encodeChar_ofNat_three (by omega) (by omega) htail (by omega) (by omega)
      (ht t (by simp))
  | [s, t, u] =>
    have hrange := hs s rfl
    simp at hcases
    have htail : isTail s = true := isTail_iff.2 (by omega)
    exact encodeChar_ofNat_four (by omega) (by omega) htail (by omega) (by omega)
      (ht t (by simp)) (ht u (by simp))
  | s :: t :: u :: v :: ts => simp at hcases

/-! ## The first piece -/

@[simp] theorem withTails_nil (code : Nat) : withTails code [] = code := rfl

@[simp] theorem withTails_cons (code : Nat) (t : UInt8) (ts : Bytes) :
    withTails code (t :: ts) = withTails (code * 64 + (t.toNat - 0x80)) ts := by
  simp only [withTails, List.foldl_cons]

theorem tails_append {need seen code : Nat} {ts : Bytes} (h : ∀ t ∈ ts, isTail t = true)
    (more : Bytes) :
    tails (ts.length + need) seen code (ts ++ more) =
      tails need (seen + ts.length) (withTails code ts) more := by
  induction ts generalizing seen code with
  | nil => simp
  | cons t ts ih =>
    obtain ⟨ht, hts⟩ := List.forall_mem_cons.1 h
    rw [List.length_cons, Nat.add_right_comm, List.cons_append, tails, if_pos ht, ih hts,
      Nat.add_assoc seen 1, Nat.add_comm 1, withTails_cons]

theorem tails_zero (seen code : Nat) (more : Bytes) :
    tails 0 seen code more = .char (Char.ofNat code) := by
  cases more <;> rfl

theorem tails_succ (need seen code : Nat) {more : Bytes} (h : ∀ t ∈ more.head?, isTail t = false) :
    ∃ r, tails (need + 1) seen code more = .bad seen r := by
  cases more with
  | nil => exact ⟨_, rfl⟩
  | cons t more =>
    refine ⟨.badContinuation, ?_⟩
    rw [tails, h t rfl]
    rfl

theorem piece_cons {b s : UInt8} {need low high : Nat} (hb : header? b = some (need + 1, low, high))
    (hs : low ≤ s.toNat ∧ s.toNat ≤ high) (rest : Bytes) :
    piece b (s :: rest) = tails need 2
      ((b.toNat % if need = 0 then 32 else if need = 1 then 16 else 8) * 64 + (s.toNat - 0x80))
      rest := by
  unfold piece
  rw [hb]
  dsimp only
  rw [if_pos (by simpa using hs)]

/-- Bytes that lack nothing are the first piece, whatever follows. -/
theorem Lacks.piece_eq_char {b : UInt8} {ts : Bytes} (h : Lacks b ts 0) (more : Bytes) :
    piece b (ts ++ more) = .char (Char.ofNat (codeOf b ts)) := by
  obtain ⟨low, high, hb, hs, ht⟩ := h
  cases ts with
  | nil =>
    simp only [List.length_nil, Nat.add_zero] at hb
    simp only [piece, hb, codeOf]
  | cons s ts =>
    rw [List.length_cons, Nat.add_right_comm] at hb
    rw [List.tail_cons] at ht
    have htails := fun code => @tails_append 0 2 code ts ht more
    rw [List.cons_append, piece_cons hb (hs s rfl), ← Nat.add_zero ts.length, htails, tails_zero,
      codeOf, withTails_cons, Nat.add_zero]

/-- Bytes that lack some are the first piece when what follows does not continue them. -/
theorem Lacks.piece_eq_bad {b : UInt8} {ts : Bytes} {k : Nat} (h : Lacks b ts (k + 1))
    {more : Bytes} (hmore : ∀ s ∈ more.head?, ¬ Lacks b (ts ++ [s]) k) :
    ∃ r, piece b (ts ++ more) = .bad (ts.length + 1) r := by
  obtain ⟨low, high, hb, hs, ht⟩ := h
  have hlen : ∀ s, header? b = some ((ts ++ [s]).length + k, low, high) := by
    intro s
    rw [hb, List.length_append, List.length_singleton, Nat.add_assoc, Nat.add_comm 1]
  cases ts with
  | nil =>
    simp only [List.length_nil, Nat.zero_add] at hb
    cases more with
    | nil => exact ⟨.truncated, by simp only [piece, hb, List.nil_append, List.length_nil]⟩
    | cons s more =>
      have hout : ¬ (low ≤ s.toNat ∧ s.toNat ≤ high) := fun hin =>
        hmore s rfl ⟨low, high, hlen s, by simpa using hin, by simp⟩
      exact ⟨.badContinuation, by simp [piece, hb, hout]⟩
  | cons s ts =>
    have hend : ∀ t ∈ more.head?, isTail t = false := by
      intro t hmem
      by_contra hne
      have htails : ∀ u ∈ ts ++ [t], isTail u = true := by
        intro u hu
        rcases List.mem_append.1 hu with hu | hu
        · exact ht u hu
        · rw [List.mem_singleton.1 hu]
          simpa using hne
      exact hmore t hmem ⟨low, high, hlen t, hs, htails⟩
    obtain ⟨r, hr⟩ := tails_succ k (2 + ts.length) _ hend
    refine ⟨r, ?_⟩
    calc piece b (s :: ts ++ more)
        = tails (ts.length + (k + 1)) 2 _ (ts ++ more) :=
          piece_cons (by rw [hb, List.length_cons, Nat.add_right_comm]) (hs s rfl) _
      _ = tails (k + 1) _ _ more := tails_append ht more
      _ = .bad (2 + ts.length) r := hr
      _ = .bad ((s :: ts).length + 1) r := by rw [List.length_cons, Nat.add_comm 2]

theorem piece_of_header?_eq_none {b : UInt8} (h : header? b = none) (rest : Bytes) :
    piece b rest = .bad 1 .badStart := by
  simp only [piece, h]

/-! ## Beginnings of characters -/

theorem lacks_one {a : UInt8} (ha : a.toNat < 0x80) : Lacks a [] 0 := by
  refine ⟨0, 0, ?_, by simp, by simp⟩
  simp [header?, ha]

theorem lacks_two {a b : UInt8} (ha : 0xC2 ≤ a.toNat) (ha' : a.toNat < 0xE0)
    (hb : 0x80 ≤ b.toNat ∧ b.toNat < 0xC0) : Lacks a [b] 0 := by
  refine ⟨0x80, 0xBF, ?_, ?_, by simp⟩
  · unfold header?
    dsimp only
    rw [if_neg (by omega), if_neg (by omega), if_pos ha']
    rfl
  · simp
    omega

theorem lacks_three {a b c : UInt8} (ha : 0xE0 ≤ a.toNat) (ha' : a.toNat < 0xF0)
    (hb : 0x80 ≤ b.toNat ∧ b.toNat < 0xC0) (hlow : a.toNat = 0xE0 → 0xA0 ≤ b.toNat)
    (hhigh : a.toNat = 0xED → b.toNat ≤ 0x9F) (hc : 0x80 ≤ c.toNat ∧ c.toNat < 0xC0) :
    Lacks a [b, c] 0 := by
  have htail : ∀ t ∈ [b, c].tail, isTail t = true := by
    simpa [isTail_iff] using hc
  unfold Lacks header?
  simp only [beq_iff_eq]
  rw [if_neg (by omega), if_neg (by omega), if_neg (by omega)]
  split_ifs <;> refine ⟨_, _, rfl, ?_, htail⟩ <;> simp <;> omega

theorem lacks_four {a b c d : UInt8} (ha : 0xF0 ≤ a.toNat) (ha' : a.toNat ≤ 0xF4)
    (hb : 0x80 ≤ b.toNat ∧ b.toNat < 0xC0) (hlow : a.toNat = 0xF0 → 0x90 ≤ b.toNat)
    (hhigh : a.toNat = 0xF4 → b.toNat ≤ 0x8F) (hc : 0x80 ≤ c.toNat ∧ c.toNat < 0xC0)
    (hd : 0x80 ≤ d.toNat ∧ d.toNat < 0xC0) : Lacks a [b, c, d] 0 := by
  have htail : ∀ t ∈ [b, c, d].tail, isTail t = true := by
    simpa [isTail_iff] using ⟨hc, hd⟩
  unfold Lacks header?
  simp only [beq_iff_eq]
  rw [if_neg (by omega), if_neg (by omega), if_neg (by omega), if_neg (by omega),
    if_neg (by omega), if_neg (by omega)]
  split_ifs <;> first | omega | (refine ⟨_, _, rfl, ?_, htail⟩; simp; omega)

/-- The bytes of a character: a first one, and others that lack nothing. -/
theorem exists_encodeChar_eq (c : Char) :
    ∃ b ts, encodeChar c = b :: ts ∧ Lacks b ts 0 ∧ Char.ofNat (codeOf b ts) = c := by
  have hvalid : c.toNat < 0xD800 ∨ 0xDFFF < c.toNat ∧ c.toNat < 0x110000 := c.valid
  have hcode : ∀ n, n = c.toNat → Char.ofNat n = c := fun n hn => hn ▸ Char.ofNat_toNat c
  unfold encodeChar
  dsimp only
  split_ifs with h1 h2 h3
  · refine ⟨_, _, rfl, lacks_one ?_, hcode _ ?_⟩ <;>
      simp only [codeOf, UInt8.toNat_ofNat'] <;> omega
  · refine ⟨_, _, rfl, lacks_two ?_ ?_ ?_, hcode _ ?_⟩ <;>
      simp only [codeOf, withTails_cons, withTails_nil, UInt8.toNat_ofNat', List.length_nil,
        if_true] <;> omega
  · refine ⟨_, _, rfl, lacks_three ?_ ?_ ?_ ?_ ?_ ?_, hcode _ ?_⟩ <;>
      simp [codeOf, UInt8.toNat_ofNat'] <;> omega
  · refine ⟨_, _, rfl, lacks_four ?_ ?_ ?_ ?_ ?_ ?_ ?_, hcode _ ?_⟩ <;>
      simp [codeOf, UInt8.toNat_ofNat'] <;> omega

theorem Lacks.unique {b : UInt8} {ts : Bytes} {k j : Nat} (hk : Lacks b ts k)
    (hj : Lacks b ts j) : k = j := by
  obtain ⟨low, high, hb, -⟩ := hk
  obtain ⟨low', high', hb', -⟩ := hj
  rw [hb] at hb'
  simp at hb'
  omega

/-- Bytes that lack some can be completed. -/
theorem Lacks.exists_complete {b : UInt8} {ts : Bytes} {k : Nat} (h : Lacks b ts k) :
    ∃ us, Lacks b (ts ++ us) 0 := by
  obtain ⟨low, high, hb, hs, ht⟩ := h
  have htail : ∀ n, ∀ u ∈ List.replicate n (0x80 : UInt8), isTail u = true := by
    intro n u hu
    rw [List.eq_of_mem_replicate hu]
    decide
  have hcases := header?_cases hb
  cases ts with
  | nil =>
    cases k with
    | zero => exact ⟨[], low, high, hb, by simp, by simp⟩
    | succ k =>
      simp only [List.length_nil] at hcases
      have hlow : (UInt8.ofNat low).toNat = low := by
        rw [UInt8.toNat_ofNat']
        omega
      refine ⟨UInt8.ofNat low :: List.replicate k 0x80, low, high, ?_, ?_, ?_⟩
      · rw [hb]
        simp
      · simp
        omega
      · simpa using htail k
  | cons s ts =>
    refine ⟨List.replicate k 0x80, low, high, ?_, hs, ?_⟩
    · rw [hb]
      simp [Nat.add_right_comm]
    · intro u hu
      rcases List.mem_append.1 hu with hu | hu
      · exact ht u hu
      · exact htail k u hu

/-- Bytes that a character begins with. -/
def Begins (bs : Bytes) : Prop := ∃ c, bs <+: encodeChar c

theorem begins_cons_iff {b : UInt8} {ts : Bytes} : Begins (b :: ts) ↔ ∃ k, Lacks b ts k := by
  constructor
  · rintro ⟨c, us, hus⟩
    obtain ⟨b', ts', hc, hl, -⟩ := exists_encodeChar_eq c
    rw [hc, List.cons_append, List.cons.injEq] at hus
    obtain ⟨rfl, rfl⟩ := hus
    exact ⟨_, hl.of_append⟩
  · rintro ⟨k, hk⟩
    obtain ⟨us, hus⟩ := hk.exists_complete
    exact ⟨_, us, hus.encodeChar_eq.symm⟩

/-- The bytes that follow a first byte, as far as they continue it. -/
theorem Lacks.exists_longest {b : UInt8} {ts : Bytes} {k : Nat} (h : Lacks b ts k) (more : Bytes) :
    ∃ us rest j, more = us ++ rest ∧ Lacks b (ts ++ us) j ∧
      (j = 0 ∨ ∀ s ∈ rest.head?, ¬ Begins (b :: (ts ++ us ++ [s]))) := by
  induction k generalizing ts more with
  | zero => exact ⟨[], more, 0, rfl, by rwa [List.append_nil], .inl rfl⟩
  | succ k ih =>
    by_cases hstop : ∀ s ∈ more.head?, ¬ Begins (b :: (ts ++ [s]))
    · exact ⟨[], more, k + 1, rfl, by rwa [List.append_nil], .inr (by rwa [List.append_nil])⟩
    · push Not at hstop
      obtain ⟨s, hs, hbegins⟩ := hstop
      obtain ⟨rest, rfl⟩ := List.head?_eq_some_iff.1 hs
      obtain ⟨j, hj⟩ := begins_cons_iff.1 hbegins
      obtain rfl : j = k := by
        have := Lacks.unique h (hj.of_append)
        simp at this
        omega
      obtain ⟨us, rest', i, rfl, hi, hend⟩ := ih hj rest
      refine ⟨s :: us, rest', i, rfl, ?_, ?_⟩
      · simpa using hi
      · simpa using hend

/-! ## Characters and the longest beginnings of none -/

/-- The first `n` bytes encode no character with what follows: they are the most that a character
begins with, or a single byte. -/
structure Illformed (bs : Bytes) (n : Nat) : Prop where
  unencoded : ∀ c, ¬ encodeChar c <+: bs
  pos : 0 < n
  le_length : n ≤ bs.length
  begins : n = 1 ∨ Begins (bs.take n)
  longest : ∀ m, n < m → m ≤ bs.length → ¬ Begins (bs.take m)

/-- The bytes of a character are a piece, whatever follows. -/
theorem piece_of_isPrefix {c : Char} {b : UInt8} {rest : Bytes} (h : encodeChar c <+: b :: rest) :
    piece b rest = .char c := by
  obtain ⟨b', ts, hc, hl, hcode⟩ := exists_encodeChar_eq c
  obtain ⟨more, hmore⟩ := h
  rw [hc, List.cons_append, List.cons.injEq] at hmore
  obtain ⟨rfl, rfl⟩ := hmore
  rw [hl.piece_eq_char, hcode]

theorem Begins.of_prefix {bs cs : Bytes} (h : Begins cs) (hb : bs <+: cs) : Begins bs := by
  obtain ⟨c, hc⟩ := h
  exact ⟨c, hb.trans hc⟩

/-- The first piece of bytes: a character that they encode, or the longest beginning of none. -/
theorem piece_cases (b : UInt8) (rest : Bytes) :
    (∃ c, encodeChar c <+: b :: rest ∧ piece b rest = .char c) ∨
      ∃ n r, Illformed (b :: rest) n ∧ piece b rest = .bad n r := by
  cases hb : header? b with
  | none =>
    have hnone : ∀ ts, ¬ Begins (b :: ts) := by
      rintro ts hts
      obtain ⟨k, low, high, hk, -⟩ := begins_cons_iff.1 hts
      rw [hb] at hk
      exact nomatch hk
    refine .inr ⟨1, .badStart, ⟨fun c hc => ?_, Nat.one_pos, by simp, .inl rfl, ?_⟩, ?_⟩
    · obtain ⟨b', ts, he, -⟩ := exists_encodeChar_eq c
      obtain ⟨more, hmore⟩ := he ▸ hc
      rw [List.cons_append, List.cons.injEq] at hmore
      exact hnone ts ⟨c, by rw [he, hmore.1]⟩
    · intro m hm _
      obtain ⟨m, rfl⟩ := Nat.exists_eq_add_one_of_ne_zero (Nat.ne_of_gt (Nat.zero_lt_of_lt hm))
      exact hnone _
    · exact piece_of_header?_eq_none hb rest
  | some x =>
    obtain ⟨need, low, high⟩ := x
    have hl : Lacks b [] need := ⟨low, high, by simpa using hb, by simp, by simp⟩
    obtain ⟨ts, more, j, rfl, hj, hend⟩ := hl.exists_longest rest
    rw [List.nil_append] at hj
    simp only [List.nil_append] at hend
    cases j with
    | zero =>
      refine .inl ⟨_, ⟨more, ?_⟩, hj.piece_eq_char more⟩
      rw [hj.encodeChar_eq, List.cons_append]
    | succ j =>
      have hend := hend.resolve_left (Nat.succ_ne_zero j)
      have hstop : ∀ s ∈ more.head?, ¬ Lacks b (ts ++ [s]) j := fun s hs hlack =>
        hend s hs (begins_cons_iff.2 ⟨j, hlack⟩)
      obtain ⟨r, hr⟩ := hj.piece_eq_bad hstop
      refine .inr ⟨_, r, ⟨fun c hc => ?_, Nat.succ_pos _, by simp, .inr ?_, ?_⟩, hr⟩
      · exact nomatch (piece_of_isPrefix hc).symm.trans hr
      · rw [List.take_succ_cons, List.take_left']
        · exact begins_cons_iff.2 ⟨_, hj⟩
        · rfl
      · intro m hm hle hbegins
        -- one byte more than `ts` is among these, and no character begins with that
        obtain ⟨s, us, rfl⟩ : ∃ s us, more = s :: us := by
          cases more with
          | nil => simp at hle; omega
          | cons s us => exact ⟨s, us, rfl⟩
        have hpre : b :: (ts ++ [s]) <+: (b :: (ts ++ s :: us)).take m := by
          refine List.prefix_take_iff.2 ⟨⟨us, by simp⟩, ?_⟩
          rw [List.length_cons, List.length_append, List.length_singleton]
          exact hm
        exact hend s rfl (hbegins.of_prefix hpre)

end ProtoCheck.Utf8
