import ProtoCheck.Header
import ProtoCheck.Proofs.Text.Blank

/-!
# What a header says

The header of a text is its longest prefix of lines that begin with the comment mark once they are
trimmed, and a line of it gives a value when it has three words: the mark, a key and the value.

* `InHeader`, `Gives`, `Repeats`, `Unrepeated` : the header, what its lines give, and which of them
  give what an earlier line gave;
* `Found.Of` : the values found are those that the lines so far give, none of them twice; it is
  what one line of `collect` keeps (`Found.Of.skip`, `Found.Of.set`);
* `collect_outcome` : what collecting the lines comes to;
* `extract_reads_header` : the first repeated directive, else a missing one, else both values.
-/

namespace ProtoCheck.Header

/-! ## The header of a text -/

/-- A line that begins with the comment mark once it is trimmed. -/
def IsComment (line : List Char) : Prop := (Text.trim line).head? = some '#'

/-- Line `i` belongs to the longest prefix of comment lines. -/
def InHeader (text : List Char) (i : Nat) : Prop :=
  ∀ j ≤ i, ∃ line, (Text.lines text)[j]? = some line ∧ IsComment line

/-- Line `i` of the header gives a directive its value. -/
def Gives (text : List Char) (i : Nat) (d : Directive) (value : String) : Prop :=
  InHeader text i ∧ ∃ line, (Text.lines text)[i]? = some line ∧
    Text.words line = [['#'], d.key, value.toList]

/-- Line `i` of the header gives a directive that an earlier line gives. -/
def Repeats (text : List Char) (i : Nat) (d : Directive) : Prop :=
  (∃ v, Gives text i d v) ∧ ∃ j < i, ∃ v, Gives text j d v

/-- No line gives what an earlier one gives. -/
def Unrepeated (text : List Char) : Prop := ∀ i d, ¬ Repeats text i d

/-! ## Lines -/

theorem directive?_eq_some_iff {line : List Char} {d : Directive} {v : String} :
    directive? line = some (d, v) ↔ Text.words line = [['#'], d.key, v.toList] := by
  have hkeys : Directive.message.key ≠ Directive.schema.key := by decide
  unfold directive?
  constructor
  · intro h
    split at h
    · rename_i mark key value hw
      split at h
      · rename_i hm
        rw [hw, eq_of_beq hm]
        split at h
        · rename_i hk
          cases h
          rw [eq_of_beq hk, String.toList_ofList]
        · split at h
          · rename_i hk
            cases h
            rw [eq_of_beq hk, String.toList_ofList]
          · cases h
      · cases h
    · cases h
  · intro h
    rw [h]
    cases d <;> simp [hkeys]

theorem takeWhile_getElem? {α : Type} (p : α → Bool) (l : List α) (i : Nat) (a : α) :
    (l.takeWhile p)[i]? = some a ↔ l[i]? = some a ∧ ∀ j ≤ i, ∃ b, l[j]? = some b ∧ p b = true := by
  induction l generalizing i with
  | nil => simp
  | cons b rest ih =>
    by_cases hb : p b = true
    · rw [List.takeWhile_cons_of_pos hb]
      cases i with
      | zero => simp [hb]
      | succ i =>
        rw [List.getElem?_cons_succ, List.getElem?_cons_succ, ih]
        refine and_congr_right fun _ => ⟨fun h j hj => ?_, fun h j hj => h (j + 1) (by omega)⟩
        cases j with
        | zero => exact ⟨b, rfl, hb⟩
        | succ j => exact h j (by omega)
    · rw [List.takeWhile_cons_of_neg hb]
      refine ⟨fun h => by simp at h, fun h => ?_⟩
      obtain ⟨c, hc, hp⟩ := h.2 0 (Nat.zero_le i)
      cases hc
      exact absurd hp hb

/-- What line `i` of a header gives, read off its trimmed lines. -/
theorem gives_iff {text : List Char} {i : Nat} {d : Directive} {v : String} :
    Gives text i d v ↔ ((headerLines text)[i]?.bind directive?) = some (d, v) := by
  rw [Option.bind_eq_some_iff]
  constructor
  · rintro ⟨hin, line, hline, hw⟩
    refine ⟨Text.trim line, ?_, directive?_eq_some_iff.2 (by rw [Text.words_trim, hw])⟩
    rw [headerLines, takeWhile_getElem?, List.getElem?_map, hline]
    refine ⟨rfl, fun j hj => ?_⟩
    obtain ⟨l, hl, hc⟩ := hin j hj
    exact ⟨Text.trim l, by rw [List.getElem?_map, hl]; rfl, beq_iff_eq.2 hc⟩
  · rintro ⟨line, hline, hd⟩
    rw [headerLines, takeWhile_getElem?, List.getElem?_map, Option.map_eq_some_iff] at hline
    obtain ⟨⟨l, hl, rfl⟩, hall⟩ := hline
    refine ⟨fun j hj => ?_, l, hl, ?_⟩
    · obtain ⟨b, hb, hp⟩ := hall j hj
      rw [List.getElem?_map, Option.map_eq_some_iff] at hb
      obtain ⟨m, hm, rfl⟩ := hb
      exact ⟨m, hm, eq_of_beq hp⟩
    · rw [← Text.words_trim]
      exact directive?_eq_some_iff.1 hd

/-! ## Collecting -/

/-- What line `i` of a list gives. -/
def given (lines : List (List Char)) (i : Nat) : Option (Directive × String) :=
  lines[i]?.bind directive?

/-- Line `i` of a list gives what an earlier line gives. -/
def Again (lines : List (List Char)) (i : Nat) (d : Directive) : Prop :=
  (∃ v, given lines i = some (d, v)) ∧ ∃ j < i, ∃ v, given lines j = some (d, v)

theorem given_lt {lines : List (List Char)} {i : Nat} {x : Directive × String}
    (h : given lines i = some x) : i < lines.length := by
  obtain ⟨line, hl, -⟩ := Option.bind_eq_some_iff.1 h
  exact (List.getElem?_eq_some_iff.1 hl).1

theorem given_append {front : List (List Char)} {i : Nat} (h : i < front.length)
    (back : List (List Char)) : given (front ++ back) i = given front i := by
  rw [given, List.getElem?_append_left h, given]

theorem given_length (front : List (List Char)) (line : List Char) (back : List (List Char)) :
    given (front ++ line :: back) front.length = directive? line := by
  rw [given, List.getElem?_append_right (Nat.le_refl _), Nat.sub_self]
  rfl

theorem given_snoc {front : List (List Char)} {line : List Char} {i : Nat}
    {x : Directive × String} :
    given (front ++ [line]) i = some x ↔
      given front i = some x ∨ i = front.length ∧ directive? line = some x := by
  rcases Nat.lt_trichotomy i front.length with h | rfl | h
  · rw [given_append h]
    exact ⟨Or.inl, fun h' => h'.resolve_right fun e => absurd e.1 (Nat.ne_of_lt h)⟩
  · rw [given_length]
    exact ⟨fun h' => .inr ⟨rfl, h'⟩, fun h' => h'.elim
      (fun e => absurd (given_lt e) (Nat.lt_irrefl _)) And.right⟩
  · refine ⟨fun h' => ?_, fun h' => ?_⟩
    · have := given_lt h'
      rw [List.length_append, List.length_singleton] at this
      omega
    · rcases h' with h' | h'
      · have := given_lt h'
        omega
      · omega

/-- What comes before the end of a list is repeated there or not, whatever follows. -/
theorem again_append {front : List (List Char)} {i : Nat} (h : i < front.length)
    (back : List (List Char)) (d : Directive) : Again (front ++ back) i d ↔ Again front i d := by
  unfold Again
  rw [given_append h]
  refine and_congr_right fun _ => exists_congr fun j => and_congr_right fun hj => ?_
  rw [given_append (Nat.lt_trans hj h)]

namespace Found

theorem get_set (f : Found) (d e : Directive) (v : String) :
    (f.set d v).get e = if e = d then some v else f.get e := by
  cases d <;> cases e <;> rfl

/-- The values found are those that the lines give, none of them twice. -/
structure Of (lines : List (List Char)) (f : Found) : Prop where
  get_iff : ∀ d v, f.get d = some v ↔ ∃ i, given lines i = some (d, v)
  once : ∀ i d, ¬ Again lines i d

theorem Of.empty : Of [] {} where
  get_iff d v := by cases d <;> simp [get, given]
  once i d h := by
    obtain ⟨⟨v, hv⟩, -⟩ := h
    exact absurd (given_lt hv) (Nat.not_lt_zero i)

/-- A line that gives nothing. -/
theorem Of.skip {front : List (List Char)} {line : List Char} {f : Found} (h : Of front f)
    (hl : directive? line = none) : Of (front ++ [line]) f := by
  have hsame : ∀ i x, given (front ++ [line]) i = some x ↔ given front i = some x := by
    intro i x
    rw [given_snoc, hl]
    simp
  refine ⟨fun d v => ?_, fun i d hi => h.once i d ?_⟩
  · rw [h.get_iff]
    exact exists_congr fun i => (hsame i _).symm
  · obtain ⟨⟨v, hv⟩, j, hj, w, hw⟩ := hi
    exact ⟨⟨v, (hsame i _).1 hv⟩, j, hj, w, (hsame j _).1 hw⟩

/-- A line that gives what no line before it gives. -/
theorem Of.set {front : List (List Char)} {line : List Char} {f : Found} {d : Directive}
    {v : String} (h : Of front f) (hl : directive? line = some (d, v)) (hd : f.get d = none) :
    Of (front ++ [line]) (f.set d v) := by
  have hnew : ∀ j w, given front j ≠ some (d, w) := by
    intro j w hj
    rw [(h.get_iff d w).2 ⟨j, hj⟩] at hd
    cases hd
  refine ⟨fun e w => ?_, fun i e hi => ?_⟩
  · rw [get_set]
    simp only [given_snoc, hl]
    by_cases he : e = d
    · subst he
      rw [if_pos rfl]
      constructor
      · intro hw
        cases hw
        exact ⟨front.length, .inr ⟨rfl, rfl⟩⟩
      · rintro ⟨i, hi | ⟨-, hi⟩⟩
        · exact absurd hi (hnew i w)
        · cases hi
          rfl
    · rw [if_neg he, h.get_iff]
      refine exists_congr fun i => ⟨Or.inl, fun hi => hi.resolve_right fun hx => ?_⟩
      cases hx.2
      exact he rfl
  · obtain ⟨⟨a, ha⟩, j, hj, b, hb⟩ := hi
    rw [given_snoc, hl] at ha hb
    -- the earlier of the two lines is one of `front`
    have hb' : given front j = some (e, b) := by
      rcases hb with hb | ⟨rfl, -⟩
      · exact hb
      · rcases ha with ha | ⟨rfl, -⟩
        · exact absurd (given_lt ha) (by omega)
        · omega
    rcases ha with ha | ⟨-, ha⟩
    · exact h.once i e ⟨⟨a, ha⟩, j, hj, b, hb'⟩
    · cases ha
      exact hnew j b hb'

end Found

/-- What collecting the lines behind `front` comes to: the values of all lines, or the first line
that gives what an earlier one gives. -/
theorem collect_outcome (front rest : List (List Char)) {f : Found} (h : f.Of front) :
    (∃ f', collect front.length f rest = .ok f' ∧ f'.Of (front ++ rest)) ∨
      ∃ d i, collect front.length f rest = .error (.duplicate d i) ∧ Again (front ++ rest) i d ∧
        ∀ j < i, ∀ e, ¬ Again (front ++ rest) j e := by
  induction rest generalizing front f with
  | nil => exact .inl ⟨f, rfl, by rwa [List.append_nil]⟩
  | cons line rest ih =>
    have hlen : (front ++ [line]).length = front.length + 1 := List.length_append
    have happ : front ++ line :: rest = front ++ [line] ++ rest := by simp
    cases hl : directive? line with
    | none =>
      have step : collect front.length f (line :: rest) = collect (front.length + 1) f rest := by
        rw [collect, hl]
      rw [step, happ, ← hlen]
      exact ih (front ++ [line]) (h.skip hl)
    | some x =>
      obtain ⟨d, v⟩ := x
      cases hd : f.get d with
      | none =>
        have step : collect front.length f (line :: rest) =
            collect (front.length + 1) (f.set d v) rest := by
          simp [collect, hl, hd]
        rw [step, happ, ← hlen]
        exact ih (front ++ [line]) (h.set hl hd)
      | some w =>
        obtain ⟨j, hj⟩ := (h.get_iff d w).1 hd
        refine .inr ⟨d, front.length, by simp [collect, hl, hd],
          ⟨⟨v, ?_⟩, j, given_lt hj, w, ?_⟩, ?_⟩
        · rw [given_length, hl]
        · rw [given_append (given_lt hj), hj]
        · intro i hi e he
          exact h.once i e ((again_append hi _ e).1 he)

/-! ## Outcomes -/

theorem InHeader.mono {text : List Char} {i j : Nat} (h : InHeader text i) (hj : j ≤ i) :
    InHeader text j := fun k hk => h k (Nat.le_trans hk hj)

theorem repeats_iff {text : List Char} {i : Nat} {d : Directive} :
    Repeats text i d ↔ Again (headerLines text) i d := by
  unfold Repeats Again
  simp only [gives_iff, given]

/-- Without repetition a directive is given one value, on one line. -/
theorem Gives.unique {text : List Char} (h : Unrepeated text) {i j : Nat} {d : Directive}
    {v w : String} (hi : Gives text i d v) (hj : Gives text j d w) : v = w := by
  rcases Nat.lt_trichotomy i j with hlt | rfl | hlt
  · exact absurd ⟨⟨w, hj⟩, i, hlt, v, hi⟩ (h j d)
  · rw [gives_iff] at hi hj
    rw [hi] at hj
    cases hj
    rfl
  · exact absurd ⟨⟨v, hi⟩, j, hlt, w, hj⟩ (h i d)

/-- What reading a header comes to, by the lines of it that give something. -/
def Outcome (text : List Char) : Except HeaderError Directives → Prop
  | .error (.duplicate d i) => Repeats text i d ∧ ∀ j < i, ∀ e, ¬ Repeats text j e
  | .error (.missing .schema) => Unrepeated text ∧ ∀ i v, ¬ Gives text i .schema v
  | .error (.missing .message) =>
    Unrepeated text ∧ (∃ i v, Gives text i .schema v) ∧ ∀ i v, ¬ Gives text i .message v
  | .ok r =>
    Unrepeated text ∧ (∃ i, Gives text i .schema r.schema) ∧ ∃ i, Gives text i .message r.message

theorem Outcome.unrepeated {text : List Char} {o : Except HeaderError Directives}
    (h : Outcome text o) (hd : ∀ d i, o ≠ .error (.duplicate d i)) : Unrepeated text := by
  match o with
  | .error (.duplicate d i) => exact absurd rfl (hd d i)
  | .error (.missing .schema) => exact h.1
  | .error (.missing .message) => exact h.1
  | .ok _ => exact h.1

/-- A line that repeats a directive rules the other outcomes out. -/
theorem Outcome.eq_duplicate {text : List Char} {d : Directive} {i : Nat}
    {o : Except HeaderError Directives} (h : Outcome text (.error (.duplicate d i)))
    (ho : Outcome text o) : o = .error (.duplicate d i) := by
  by_cases hd : ∃ e j, o = .error (.duplicate e j)
  · obtain ⟨e, j, rfl⟩ := hd
    rcases Nat.lt_trichotomy i j with hlt | rfl | hlt
    · exact absurd h.1 (ho.2 i hlt d)
    · obtain ⟨⟨⟨v, hv⟩, -⟩, -⟩ := h
      obtain ⟨⟨⟨w, hw⟩, -⟩, -⟩ := ho
      rw [gives_iff] at hv hw
      rw [hv] at hw
      cases hw
      rfl
    · exact absurd ho.1 (h.2 j hlt e)
  · exact absurd h.1 (ho.unrepeated (fun e j he => hd ⟨e, j, he⟩) i d)

/-- A text has one outcome. -/
theorem Outcome.unique {text : List Char} {a b : Except HeaderError Directives}
    (ha : Outcome text a) (hb : Outcome text b) : a = b := by
  match a, b with
  | .error (.duplicate d i), b => exact (ha.eq_duplicate hb).symm
  | a, .error (.duplicate d i) => exact hb.eq_duplicate ha
  | .error (.missing .schema), .error (.missing .schema) => rfl
  | .error (.missing .message), .error (.missing .message) => rfl
  | .error (.missing .schema), .error (.missing .message) =>
    obtain ⟨i, v, h⟩ := hb.2.1
    exact absurd h (ha.2 i v)
  | .error (.missing .message), .error (.missing .schema) =>
    obtain ⟨i, v, h⟩ := ha.2.1
    exact absurd h (hb.2 i v)
  | .error (.missing .schema), .ok r =>
    obtain ⟨i, h⟩ := hb.2.1
    exact absurd h (ha.2 i _)
  | .ok r, .error (.missing .schema) =>
    obtain ⟨i, h⟩ := ha.2.1
    exact absurd h (hb.2 i _)
  | .error (.missing .message), .ok r =>
    obtain ⟨i, h⟩ := hb.2.2
    exact absurd h (ha.2.2 i _)
  | .ok r, .error (.missing .message) =>
    obtain ⟨i, h⟩ := ha.2.2
    exact absurd h (hb.2.2 i _)
  | .ok r, .ok t =>
    obtain ⟨hu, ⟨i, hi⟩, j, hj⟩ := ha
    obtain ⟨-, ⟨k, hk⟩, l, hl⟩ := hb
    congr 1
    cases r
    cases t
    congr 1
    · exact hi.unique hu hk
    · exact hj.unique hu hl

/-- Reading a header comes to its outcome. -/
theorem outcome_extract (text : List Char) : Outcome text (extract text) := by
  have hc := collect_outcome [] (headerLines text) Found.Of.empty
  rw [List.length_nil, List.nil_append] at hc
  rcases hc with ⟨f, hf, hof⟩ | ⟨d, i, hf, hrep, hmin⟩
  · have hu : Unrepeated text := fun i d h => hof.once i d (repeats_iff.1 h)
    have hgives : ∀ d v, f.get d = some v ↔ ∃ i, Gives text i d v := by
      intro d v
      rw [hof.get_iff]
      exact exists_congr fun i => gives_iff.symm
    have hnone : ∀ d, f.get d = none → ∀ i v, ¬ Gives text i d v := by
      intro d hd i v h
      rw [(hgives d v).2 ⟨i, h⟩] at hd
      cases hd
    cases hs : f.get .schema with
    | none =>
      have he : extract text = .error (.missing .schema) := by
        have hs' : f.schema = none := hs
        simp [extract, hf, hs', bind, Except.bind]
      rw [he]
      exact ⟨hu, hnone _ hs⟩
    | some s =>
      have hs' : f.schema = some s := hs
      obtain ⟨i, hi⟩ := (hgives _ _).1 hs
      cases hm : f.get .message with
      | none =>
        have hm' : f.message = none := hm
        have he : extract text = .error (.missing .message) := by
          simp [extract, hf, hs', hm', bind, Except.bind]
        rw [he]
        exact ⟨hu, ⟨i, s, hi⟩, hnone _ hm⟩
      | some m =>
        have hm' : f.message = some m := hm
        have he : extract text = .ok ⟨s, m⟩ := by
          simp [extract, hf, hs', hm', bind, Except.bind]
        rw [he]
        exact ⟨hu, ⟨i, hi⟩, (hgives _ _).1 hm⟩
  · have he : extract text = .error (.duplicate d i) := by
      simp [extract, hf, bind, Except.bind]
    rw [he]
    exact ⟨repeats_iff.2 hrep, fun j hj e h => hmin j hj e (repeats_iff.1 h)⟩

theorem extract_eq_iff {text : List Char} {o : Except HeaderError Directives} :
    extract text = o ↔ Outcome text o :=
  ⟨fun h => h ▸ outcome_extract text, fun h => (outcome_extract text).unique h⟩

/-- Texts that agree up to a line behind the header give the same. -/
theorem gives_congr {text text' : List Char} {n : Nat} (hn : ¬ InHeader text n)
    (h : ∀ i ≤ n, (Text.lines text')[i]? = (Text.lines text)[i]?) (i : Nat) (d : Directive)
    (v : String) : Gives text' i d v ↔ Gives text i d v := by
  have hin : ∀ i, i ≤ n → (InHeader text' i ↔ InHeader text i) := by
    intro i hi
    unfold InHeader
    refine forall_congr' fun j => forall_congr' fun hj => ?_
    rw [h j (Nat.le_trans hj hi)]
  by_cases hi : i ≤ n
  · unfold Gives
    rw [hin i hi, h i hi]
  · have hni : n ≤ i := by omega
    exact ⟨fun hg => absurd ((hin n (Nat.le_refl n)).1 (hg.1.mono hni)) hn,
      fun hg => absurd (hg.1.mono hni) hn⟩

theorem outcome_congr {text text' : List Char}
    (h : ∀ i d v, Gives text' i d v ↔ Gives text i d v) (o : Except HeaderError Directives) :
    Outcome text' o ↔ Outcome text o := by
  have hr : ∀ i d, Repeats text' i d ↔ Repeats text i d := by
    intro i d
    unfold Repeats
    simp only [h]
  have hu : Unrepeated text' ↔ Unrepeated text := by
    unfold Unrepeated
    simp only [hr]
  match o with
  | .error (.duplicate d i) => simp only [Outcome, hr]
  | .error (.missing .schema) => simp only [Outcome, hu, h]
  | .error (.missing .message) => simp only [Outcome, hu, h]
  | .ok r => simp only [Outcome, hu, h]

/-- **What the header of a text gives**: its outcome by the lines of the header; the failure of a
repeated directive carries the line of the repetition; neither what follows the header, nor
comments, nor the order of the directives matter. -/
theorem extract_reads_header (text : List Char) :
    (∀ o, extract text = o ↔ Outcome text o) ∧
    (∀ d i, Outcome text (.error (.duplicate d i)) →
      (extract text).mapError HeaderError.toFailure =
        .error ⟨.duplicateDirective i, "duplicate " ++ d.name ++ " at line " ++ toString i,
          some { line := some (i + 1) }, none⟩) ∧
    (∀ d, Outcome text (.error (.missing d)) →
      (extract text).mapError HeaderError.toFailure =
        .error ⟨.missingDirective, "could not find " ++ d.name ++ " comment", none, none⟩) ∧
    (∀ n text', ¬ InHeader text n →
      (∀ i ≤ n, (Text.lines text')[i]? = (Text.lines text)[i]?) → extract text' = extract text) ∧
    (∀ r text', extract text = .ok r → Unrepeated text' →
      (∀ d v, (∃ i, Gives text' i d v) ↔ ∃ i, Gives text i d v) → extract text' = .ok r) := by
  refine ⟨fun o => extract_eq_iff, fun d i h => ?_, fun d h => ?_, fun n text' hn hl => ?_,
    fun r text' hr hu hg => ?_⟩
  · rw [extract_eq_iff.2 h]
    rfl
  · rw [extract_eq_iff.2 h]
    rfl
  · exact extract_eq_iff.2 ((outcome_congr (gives_congr hn hl) _).2 (outcome_extract text))
  · obtain ⟨-, hs, hm⟩ := extract_eq_iff.1 hr
    exact extract_eq_iff.2 ⟨hu, (hg _ _).2 hs, (hg _ _).2 hm⟩

end ProtoCheck.Header
