import ProtoCheck.Text.Digit
import Mathlib.Data.List.Induction
import Mathlib.Tactic.IntervalCases

/-!
# Decimal numerals

Digits of every script are read, and those of ASCII are written. A text of ASCII digits without a
zero in front is what is written for the number that is read from it.

* `decimal?_of_isAsciiDigit` : the value of an ASCII digit;
* `number?_toDigits` : the digits of a number stand for it;
* `Numeral`, `Numeral.exists_eq_toDigits` : the texts that are the digits of a number.
-/

namespace ProtoCheck.Text

theorem isAsciiDigit_iff {c : Char} : isAsciiDigit c = true ↔ 48 ≤ c.toNat ∧ c.toNat ≤ 57 := by
  have hzero : '0'.toNat = 48 := rfl
  have hnine : '9'.toNat = 57 := rfl
  rw [isAsciiDigit, hzero, hnine, Bool.and_eq_true, decide_eq_true_iff, decide_eq_true_iff]

theorem decimal?_of_isAsciiDigit {c : Char} (h : isAsciiDigit c = true) :
    decimal? c = some (c.toNat - '0'.toNat) := by
  rw [isAsciiDigit_iff] at h
  have hfirst : (decide (0x30 ≤ c.toNat) && decide (c.toNat < 0x30 + 10)) = true := by
    rw [Bool.and_eq_true, decide_eq_true_iff, decide_eq_true_iff]
    omega
  have hzeros : zeros = 0x30 :: zeros.tail := rfl
  unfold decimal?
  rw [hzeros, List.find?_cons, hfirst]
  rfl

theorem isAsciiDigit_of_mem_toDigits {n : Nat} {c : Char} (h : c ∈ Nat.toDigits 10 n) :
    isAsciiDigit c = true := by
  have hdigit := Nat.isDigit_of_mem_toDigits (by decide) (by decide) h
  rw [Char.isDigit_iff_toNat] at hdigit
  exact isAsciiDigit_iff.2 hdigit

theorem ofDigits_map_toNat (s : List Char) :
    ofDigits 10 (s.map fun c => c.toNat - '0'.toNat) = Nat.ofDigitChars 10 s 0 := by
  rw [ofDigits, List.foldl_map]
  simp only [Nat.ofDigitChars, Nat.mul_comm]

theorem mapM_decimal? {s : List Char} (h : ∀ c ∈ s, isAsciiDigit c = true) :
    s.mapM decimal? = some (s.map fun c => c.toNat - '0'.toNat) := by
  induction s with
  | nil => rfl
  | cons c s ih =>
    rw [List.forall_mem_cons] at h
    rw [List.mapM_cons, decimal?_of_isAsciiDigit h.1, ih h.2]
    rfl

theorem number?_toDigits (n : Nat) : number? (Nat.toDigits 10 n) = some n := by
  rw [number?, List.isEmpty_eq_false_iff.2 Nat.toDigits_ne_nil,
    mapM_decimal? fun _ => isAsciiDigit_of_mem_toDigits, Option.map_some, ofDigits_map_toNat,
    Nat.ofDigitChars_toDigits (by decide) (by decide)]
  rfl

/-! ## Numerals -/

/-- ASCII digits, of which there are some, without a zero in front of others. -/
structure Numeral (s : List Char) : Prop where
  ne_nil : s ≠ []
  digits : ∀ c ∈ s, isAsciiDigit c = true
  leading : '0' ∈ s.head? → s = ['0']

instance (s : List Char) : Decidable (Numeral s) :=
  decidable_of_iff (s ≠ [] ∧ s.all isAsciiDigit = true ∧ ('0' ∈ s.head? → s = ['0']))
    ⟨fun h => ⟨h.1, List.all_eq_true.1 h.2.1, h.2.2⟩,
      fun h => ⟨h.ne_nil, List.all_eq_true.2 h.digits, h.leading⟩⟩

theorem toDigits_of_isAsciiDigit {c : Char} (h : isAsciiDigit c = true) :
    Nat.toDigits 10 (c.toNat - '0'.toNat) = [c] := by
  rw [isAsciiDigit_iff] at h
  rw [← Char.ofNat_toNat c]
  generalize c.toNat = n at h
  obtain ⟨hlow, hhigh⟩ := h
  interval_cases n <;> rfl

/-- The text in front of the last digit of a numeral begins with no zero. -/
theorem Numeral.init {s : List Char} {c : Char} (h : Numeral (s ++ [c])) (hs : s ≠ []) :
    Numeral s ∧ '0' ∉ s.head? := by
  have hzero : '0' ∉ s.head? := by
    intro hmem
    have hfront : '0' ∈ (s ++ [c]).head? := by
      rw [List.head?_append, Option.mem_def.1 hmem]
      rfl
    have hlength := congrArg List.length (h.leading hfront)
    rw [List.length_append, List.length_singleton, List.length_singleton] at hlength
    exact hs (List.eq_nil_of_length_eq_zero (by omega))
  exact ⟨⟨hs, fun d hd => h.digits d (List.mem_append_left _ hd), fun hmem => absurd hmem hzero⟩,
    hzero⟩

/-- A numeral is written for a number. -/
theorem Numeral.exists_eq_toDigits {s : List Char} (h : Numeral s) :
    ∃ n, s = Nat.toDigits 10 n := by
  induction s using List.reverseRecOn with
  | nil => exact absurd rfl h.ne_nil
  | append_singleton s c ih =>
    have hc := h.digits c (List.mem_append_right s List.mem_cons_self)
    have hlast := toDigits_of_isAsciiDigit hc
    by_cases hs : s = []
    · exact ⟨_, by rw [hs, hlast, List.nil_append]⟩
    · obtain ⟨hinit, hzero⟩ := h.init hs
      obtain ⟨n, rfl⟩ := ih hinit
      have hpos : 0 < n := by
        refine Nat.pos_of_ne_zero ?_
        rintro rfl
        exact hzero rfl
      have hsmall : c.toNat - '0'.toNat < 10 := by
        have hzero : '0'.toNat = 48 := rfl
        have := (isAsciiDigit_iff.1 hc).2
        omega
      exact ⟨_, by rw [← Nat.toDigits_append_toDigits (by decide) hpos hsmall, hlast]⟩

end ProtoCheck.Text
