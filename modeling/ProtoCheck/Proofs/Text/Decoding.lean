import ProtoCheck.Proofs.Text.Utf8

/-!
# What reading bytes keeps

No part that a character begins with holds a line feed, but for the line feed itself, and a line
feed ends a part that lacks something. So reading with replacement can be done line by line.

* `Replaced`, `decodeLossy_eq_iff` : reading with replacement, told without the pieces;
* `decode?_eq_ok_iff` : strict reading reads the bytes of texts and nothing else;
  `decodeLossy_of_decode?` : both readings of them are the same;
* `Illformed.append` : a byte that continues no character does not change what is in front of it;
* `lines_decodeLossy` : the lines of what is read are the lines of the bytes, read one by one;
* `exists_of_byteLines` : where a line of bytes stands.
-/

namespace ProtoCheck.Utf8

/-! ## Texts -/

theorem encodeChar_ne_nil (c : Char) : encodeChar c ≠ [] := by
  obtain ⟨b, ts, hc, -⟩ := exists_encodeChar_eq c
  rw [hc]
  exact List.cons_ne_nil b ts

theorem scan_cons (b : UInt8) (rest : Bytes) :
    scan (b :: rest) = piece b rest :: scan ((b :: rest).drop (piece b rest).size) := by
  have hpos : 0 < (piece b rest).size := by
    rcases piece_cases b rest with ⟨c, -, hp⟩ | ⟨n, r, hn, hp⟩
    · rw [hp]
      exact List.length_pos_iff.2 (encodeChar_ne_nil c)
    · rw [hp]
      exact hn.pos
  obtain ⟨k, hk⟩ := Nat.exists_eq_add_one_of_ne_zero (Nat.ne_of_gt hpos)
  rw [scan, hk, List.drop_succ_cons, Nat.add_sub_cancel]

theorem scan_encodeChar (c : Char) (more : Bytes) :
    scan (encodeChar c ++ more) = .char c :: scan more := by
  obtain ⟨b, ts, hc, -⟩ := exists_encodeChar_eq c
  have hp : piece b (ts ++ more) = .char c := piece_of_isPrefix (by
    rw [hc]
    exact List.prefix_append (b :: ts) more)
  have hsize : (Piece.char c).size = (b :: ts).length := congrArg List.length hc
  rw [hc, List.cons_append, scan_cons, hp, hsize, ← List.cons_append, List.drop_left]

theorem Illformed.unique {bs : Bytes} {n m : Nat} (hn : Illformed bs n) (hm : Illformed bs m) :
    n = m := by
  have hle : ∀ {i j}, Illformed bs i → Illformed bs j → j ≤ i := by
    intro i j hi hj
    by_contra hlt
    have hpos := hi.pos
    exact hi.longest j (by omega) hj.le_length (hj.begins.resolve_left (by omega))
  exact Nat.le_antisymm (hle hm hn) (hle hn hm)

theorem scan_of_illformed {bs : Bytes} {n : Nat} (h : Illformed bs n) :
    ∃ r, scan bs = .bad n r :: scan (bs.drop n) := by
  obtain ⟨b, rest, rfl⟩ : ∃ b rest, bs = b :: rest :=
    List.exists_cons_of_length_pos (Nat.lt_of_lt_of_le h.pos h.le_length)
  rcases piece_cases b rest with ⟨c, hc, -⟩ | ⟨m, r, hm, hp⟩
  · exact absurd hc (h.unencoded c)
  · obtain rfl := h.unique hm
    exact ⟨r, by rw [scan_cons, hp]; rfl⟩

/-! ## Reading -/

/-- The text of bytes with replacement: characters for the bytes that encode them, and the
replacement character for each longest beginning of none. -/
inductive Replaced : Bytes → List Char → Prop
  | nil : Replaced [] []
  | char (c : Char) {bs : Bytes} {t : List Char} :
    Replaced bs t → Replaced (encodeChar c ++ bs) (c :: t)
  | bad {bs : Bytes} {n : Nat} {t : List Char} :
    Illformed bs n → Replaced (bs.drop n) t → Replaced bs (Char.ofNat 0xFFFD :: t)

theorem Replaced.decodeLossy_eq {bs : Bytes} {t : List Char} (h : Replaced bs t) :
    decodeLossy bs = t := by
  unfold decodeLossy
  induction h with
  | nil => rw [scan]; rfl
  | char c _ ih => rw [scan_encodeChar, List.map_cons, ih]; rfl
  | bad hn _ ih =>
    obtain ⟨r, hr⟩ := scan_of_illformed hn
    rw [hr, List.map_cons, ih]
    rfl

theorem replaced_decodeLossy (bs : Bytes) : Replaced bs (decodeLossy bs) := by
  induction hlen : bs.length using Nat.strong_induction_on generalizing bs with
  | _ len ih =>
    cases bs with
    | nil =>
      rw [decodeLossy, scan]
      exact .nil
    | cons b rest =>
      have hlossy : decodeLossy (b :: rest) = (piece b rest).lenient ::
          decodeLossy ((b :: rest).drop (piece b rest).size) := by
        rw [decodeLossy, scan_cons, List.map_cons, decodeLossy]
      rcases piece_cases b rest with ⟨c, ⟨more, hmore⟩, hp⟩ | ⟨n, r, hn, hp⟩
      · have hdrop : (b :: rest).drop (Piece.char c).size = more := by
          rw [← hmore]
          exact List.drop_left
        have hlt : more.length < len := by
          rw [← hlen, ← hmore, List.length_append]
          have := List.length_pos_iff.2 (encodeChar_ne_nil c)
          omega
        rw [hlossy, hp, hdrop, ← hmore]
        exact .char c (ih _ hlt more rfl)
      · have hlt : ((b :: rest).drop n).length < len := by
          rw [← hlen, List.length_drop]
          have := hn.pos
          have := hn.le_length
          omega
        rw [hlossy, hp]
        exact .bad hn (ih _ hlt _ rfl)

theorem decodeLossy_eq_iff {bs : Bytes} {t : List Char} : decodeLossy bs = t ↔ Replaced bs t :=
  ⟨fun h => h ▸ replaced_decodeLossy bs, Replaced.decodeLossy_eq⟩

theorem scan_encode (t : List Char) : scan (encode t) = t.map .char := by
  induction t with
  | nil => rw [encode, List.flatMap_nil, scan, List.map_nil]
  | cons c t ih =>
    unfold encode at ih ⊢
    rw [List.flatMap_cons, scan_encodeChar, ih, List.map_cons]

/-- Strict reading ends well when there are only characters. -/
theorem strict_eq_ok_iff {bs : Bytes} {offset : Nat} {ps : List Piece} {t : List Char} :
    strict bs offset ps = .ok t ↔ ps = t.map .char := by
  induction ps generalizing offset t with
  | nil =>
    rw [strict, Except.ok.injEq, eq_comm, eq_comm (a := []), List.map_eq_nil_iff]
  | cons p ps ih =>
    cases p with
    | bad n r =>
      refine ⟨fun h => (nomatch h), fun h => ?_⟩
      cases t with
      | nil => exact nomatch h
      | cons c t => exact nomatch (List.cons.inj h).1
    | char c =>
      rw [strict]
      constructor
      · intro h
        cases hs : strict bs (offset + (Piece.char c).size) ps with
        | error e =>
          rw [hs] at h
          exact nomatch h
        | ok u =>
          rw [hs] at h
          obtain rfl : c :: u = t := Except.ok.inj h
          rw [ih.1 hs, List.map_cons]
      · intro h
        cases t with
        | nil => exact nomatch h
        | cons d t =>
          obtain ⟨hc, hps⟩ := List.cons.inj h
          obtain rfl := Piece.char.inj hc
          rw [ih.2 hps]
          rfl

/-- What strict reading reads, the other one reads as well. -/
theorem decodeLossy_of_decode? {bs : Bytes} {t : List Char} (h : decode? bs = .ok t) :
    decodeLossy bs = t := by
  rw [decodeLossy, strict_eq_ok_iff.1 h, List.map_map]
  exact List.map_id t

theorem encode_of_scan {bs : Bytes} {t : List Char} (h : scan bs = t.map .char) :
    bs = encode t := by
  induction t generalizing bs with
  | nil =>
    cases bs with
    | nil => rfl
    | cons b rest =>
      rw [scan_cons] at h
      exact absurd h (List.cons_ne_nil _ _)
  | cons c t ih =>
    cases bs with
    | nil =>
      rw [scan] at h
      exact absurd h.symm (List.cons_ne_nil _ _)
    | cons b rest =>
      rw [scan_cons, List.map_cons, List.cons.injEq] at h
      obtain ⟨hp, hrest⟩ := h
      rcases piece_cases b rest with ⟨d, ⟨more, hmore⟩, hd⟩ | ⟨n, r, -, hbad⟩
      · obtain rfl := Piece.char.inj (hd.symm.trans hp)
        have hdrop : (b :: rest).drop (Piece.char d).size = more := by
          rw [← hmore]
          exact List.drop_left
        rw [hp, hdrop] at hrest
        rw [← hmore, ih hrest]
        rfl
      · exact Piece.noConfusion (hbad.symm.trans hp)

/-- Strict reading reads the bytes of texts. -/
theorem decode?_eq_ok_iff {bs : Bytes} {t : List Char} : decode? bs = .ok t ↔ bs = encode t :=
  ⟨fun h => encode_of_scan (strict_eq_ok_iff.1 h), fun h => h ▸ strict_eq_ok_iff.2 (scan_encode t)⟩

/-! ## Lines -/

/-- The bytes between line feeds. -/
def byteLines (bs : Bytes) : List Bytes := Text.pieces (· == 0x0A) bs

theorem le_of_begins {b : UInt8} {ts : Bytes} (h : Begins (b :: ts)) :
    ∀ t ∈ ts, 0x80 ≤ t.toNat := by
  obtain ⟨k, low, high, hb, hs, ht⟩ := begins_cons_iff.1 h
  have hcases := header?_cases hb
  cases ts with
  | nil => exact fun t ht => absurd ht List.not_mem_nil
  | cons s ts =>
    have hrange := hs s rfl
    simp only [List.length_cons] at hcases
    refine List.forall_mem_cons.2 ⟨by omega, fun t hmem => ?_⟩
    exact (isTail_iff.1 (ht t hmem)).1

/-- A byte that continues no character does not change what is in front of it. -/
theorem Illformed.append {bs : Bytes} {n : Nat} (h : Illformed bs n) {s : UInt8}
    (hs : s.toNat < 0x80) (more : Bytes) : Illformed (bs ++ s :: more) n := by
  obtain ⟨b, rest, rfl⟩ : ∃ b rest, bs = b :: rest :=
    List.exists_cons_of_length_pos (Nat.lt_of_lt_of_le h.pos h.le_length)
  have hstop : ∀ cs, Begins cs → cs <+: b :: rest ++ s :: more → cs <+: b :: rest := by
    intro cs hcs hpre
    rcases List.prefix_or_prefix_of_prefix hpre (List.prefix_append _ _) with hle | ⟨us, rfl⟩
    · exact hle
    · cases us with
      | nil => rw [List.append_nil]
      | cons u us =>
        rw [List.prefix_append_right_inj, List.cons_prefix_cons] at hpre
        have := le_of_begins hcs u (by simp)
        rw [hpre.1] at this
        omega
  refine ⟨fun c hc => h.unencoded c (hstop _ ⟨c, List.prefix_refl _⟩ hc), h.pos, ?_, ?_, ?_⟩
  · exact Nat.le_trans h.le_length (by rw [List.length_append]; exact Nat.le_add_right _ _)
  · rw [List.take_append_of_le_length h.le_length]
    exact h.begins
  · intro m hm hle hbegins
    have hpre := hstop _ hbegins (List.take_prefix _ _)
    have hlen : m ≤ (b :: rest).length := by
      have := hpre.length_le
      rw [List.length_take] at this
      omega
    rw [List.take_append_of_le_length hlen] at hbegins
    exact h.longest m hm hlen hbegins

theorem Replaced.append_newline {bs more : Bytes} {t u : List Char} (h : Replaced bs t)
    (hu : Replaced more u) : Replaced (bs ++ 0x0A :: more) (t ++ '\n' :: u) := by
  induction h with
  | nil => exact Replaced.char '\n' hu
  | char c _ ih =>
    rw [List.append_assoc]
    exact .char c ih
  | @bad bs n t hn _ ih =>
    refine .bad (hn.append (by decide) more) ?_
    rw [List.drop_append_of_le_length hn.le_length]
    exact ih

theorem Replaced.newline_notMem {bs : Bytes} {t : List Char} (h : Replaced bs t)
    (hbs : 0x0A ∉ bs) : '\n' ∉ t := by
  induction h with
  | nil => exact List.not_mem_nil
  | char c _ ih =>
    rw [List.mem_append, not_or] at hbs
    rw [List.mem_cons, not_or]
    refine ⟨?_, ih hbs.2⟩
    rintro rfl
    exact hbs.1 (by decide)
  | bad _ _ ih =>
    rw [List.mem_cons, not_or]
    exact ⟨by decide, ih fun hmem => hbs (List.mem_of_mem_drop hmem)⟩

/-- The lines of bytes, one by one. -/
theorem byteLines_cases (bs : Bytes) :
    (0x0A ∉ bs ∧ byteLines bs = [bs]) ∨
      ∃ line more, bs = line ++ 0x0A :: more ∧ 0x0A ∉ line ∧
        byteLines bs = line :: byteLines more := by
  by_cases hmem : (0x0A : UInt8) ∈ bs
  · obtain ⟨line, more, rfl, hline⟩ := List.eq_append_cons_of_mem hmem
    refine .inr ⟨line, more, rfl, hline, ?_⟩
    exact Text.pieces_append_of_notMem hline more
  · exact .inl ⟨hmem, Text.pieces_of_notMem hmem⟩

/-- Reading with replacement keeps the lines: each is read as if it stood alone. -/
theorem lines_decodeLossy (bs : Bytes) :
    Text.lines (decodeLossy bs) = (byteLines bs).map decodeLossy := by
  induction hlen : bs.length using Nat.strong_induction_on generalizing bs with
  | _ len ih =>
    rcases byteLines_cases bs with ⟨hline, hlines⟩ | ⟨line, more, rfl, hline, hlines⟩
    · have hnot := (replaced_decodeLossy bs).newline_notMem hline
      rw [hlines, Text.lines, Text.pieces_of_notMem hnot, List.map_singleton]
    · have hnot := (replaced_decodeLossy line).newline_notMem hline
      have hread : decodeLossy (line ++ 0x0A :: more) =
          decodeLossy line ++ '\n' :: decodeLossy more :=
        ((replaced_decodeLossy line).append_newline (replaced_decodeLossy more)).decodeLossy_eq
      have hlt : more.length < len := by
        rw [← hlen, List.length_append, List.length_cons]
        omega
      have hmore : Text.pieces (· == '\n') (decodeLossy more) = (byteLines more).map decodeLossy :=
        ih more.length hlt more rfl
      rw [hread, hlines, Text.lines, Text.pieces_append_of_notMem hnot, hmore,
        List.map_cons]

/-- Bytes between two others make up a line: it holds no line feed, and where there is something on
a side of it, a line feed stands between. -/
structure IsLine (before line after : Bytes) : Prop where
  feed_notMem : 0x0A ∉ line
  before_eq : before = [] ∨ before.getLast? = some 0x0A
  after_eq : after = [] ∨ after.head? = some 0x0A

/-- Where a line of bytes stands: as many line feeds are in front of it as there are lines. -/
theorem exists_of_byteLines {bs : Bytes} {i : Nat} {line : Bytes}
    (h : (byteLines bs)[i]? = some line) :
    ∃ before after, bs = before ++ line ++ after ∧ IsLine before line after ∧
      before.count 0x0A = i := by
  induction i generalizing bs with
  | zero =>
    rcases byteLines_cases bs with ⟨hline, hlines⟩ | ⟨l, more, rfl, hline, hlines⟩
    · rw [hlines] at h
      obtain rfl := Option.some.inj h
      exact ⟨[], [], by simp, ⟨hline, .inl rfl, .inl rfl⟩, rfl⟩
    · rw [hlines] at h
      obtain rfl := Option.some.inj h
      exact ⟨[], 0x0A :: more, by simp, ⟨hline, .inl rfl, .inr rfl⟩, rfl⟩
  | succ i ih =>
    rcases byteLines_cases bs with ⟨hline, hlines⟩ | ⟨l, more, rfl, hline, hlines⟩
    · rw [hlines] at h
      exact nomatch h
    · rw [hlines, List.getElem?_cons_succ] at h
      obtain ⟨before, after, rfl, hl, hcount⟩ := ih h
      refine ⟨l ++ 0x0A :: before, after, by simp, ⟨hl.feed_notMem, .inr ?_, hl.after_eq⟩, ?_⟩
      · rcases hl.before_eq with rfl | hlast
        · simp
        · rw [List.getLast?_append, List.getLast?_cons, hlast]
          rfl
      · rw [List.count_append, List.count_cons_self, hcount, List.count_eq_zero_of_not_mem hline,
          Nat.zero_add]

end ProtoCheck.Utf8
