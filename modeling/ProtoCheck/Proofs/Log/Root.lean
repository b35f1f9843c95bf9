import ProtoCheck.Log.Root

/-!
# Which stream a record goes to

Every configuration drops the handlers that it finds, so that only the last one counts. The bounds
of its two handlers meet at the threshold of the error stream, so that a record that the root lets
through passes one of them, and one only.

* `Root.configureAll_concat` : only the last configuration counts;
* `Root.takers_configure` : the one handler that writes a record;
* `Root.received_out`, `Root.received_err` : what each stream receives;
* `Routing.stream?_eq`, `Root.text_configure` : a configured root writes what its routing says;
* `Root.receives_once` : all of this after any configurations.
-/

namespace ProtoCheck.Log

/-! ## Handlers -/

theorem Handler.passes_iff {h : Handler} {n : Int} :
    h.passes n = true ↔ h.least ≤ n ∧ ∀ bound ∈ h.below, n < bound := by
  unfold Handler.passes
  rw [Bool.and_eq_true, decide_eq_true_iff, Option.all_eq_true]
  simp

section Handlers
variable (r : Routing) (f : Format) {n : Int}

theorem passes_outHandler_iff :
    (r.outHandler f).passes n = true ↔ Level.debug.value ≤ n ∧ n < r.threshold := by
  rw [Handler.passes_iff]
  simp [Routing.outHandler]

theorem passes_errHandler_iff : (r.errHandler f).passes n = true ↔ r.threshold ≤ n := by
  rw [Handler.passes_iff]
  simp [Routing.errHandler]

theorem debug_le_threshold : Level.debug.value ≤ r.threshold := Int.le_max_right _ _

/-- Of the two handlers of a routing a level passes one, unless it is below `DEBUG`. -/
theorem filter_passes (n : Int) : [r.outHandler f, r.errHandler f].filter (·.passes n) =
    if Level.debug.value ≤ n then [if n < r.threshold then r.outHandler f else r.errHandler f]
    else [] := by
  have hout := passes_outHandler_iff r f (n := n)
  have herr := passes_errHandler_iff r f (n := n)
  have hle := debug_le_threshold r
  rw [List.filter_cons, List.filter_cons, List.filter_nil]
  by_cases hdebug : Level.debug.value ≤ n
  · rw [if_pos hdebug]
    by_cases hbelow : n < r.threshold
    · have hnot : ¬ (r.errHandler f).passes n = true := mt herr.1 (by omega)
      rw [if_pos (hout.2 ⟨hdebug, hbelow⟩), if_neg hnot, if_pos hbelow]
    · have hnot : ¬ (r.outHandler f).passes n = true := mt hout.1 fun h => hbelow h.2
      rw [if_neg hnot, if_pos (herr.2 (by omega)), if_neg hbelow]
  · have hnot : ¬ (r.outHandler f).passes n = true := mt hout.1 fun h => hdebug h.1
    have hnot' : ¬ (r.errHandler f).passes n = true := mt herr.1 (by omega)
    rw [if_neg hdebug, if_neg hnot, if_neg hnot']

end Handlers

theorem Routing.stream?_eq (r : Routing) (n : Int) : r.stream? n =
    if max r.level Level.debug.value ≤ n then
      some (if n < r.threshold then .out else .err)
    else none := by
  have hpos : 0 < Level.debug.value := by decide
  have hle := debug_le_threshold r
  unfold Routing.stream? Routing.enabled
  rw [List.find?_cons, List.find?_cons, List.find?_nil]
  unfold Routing.accepts
  by_cases hlet : max r.level Level.debug.value ≤ n
  · have hen : (decide (0 < n) && decide (r.level ≤ n)) = true := by
      rw [Bool.and_eq_true, decide_eq_true_iff, decide_eq_true_iff]
      omega
    rw [if_pos hen, if_pos hlet]
    by_cases hbelow : n < r.threshold
    · simp [hbelow, show Level.debug.value ≤ n by omega]
    · simp [hbelow, show r.threshold ≤ n by omega]
  · rw [if_neg hlet]
    split
    · rename_i hen
      rw [Bool.and_eq_true, decide_eq_true_iff, decide_eq_true_iff] at hen
      simp [show ¬ Level.debug.value ≤ n by omega, show ¬ r.threshold ≤ n by omega]
    · rfl

namespace Root

/-! ## Configured roots -/

theorem enabled_iff {root : Root} {n : Int} : root.enabled n = true ↔ 0 < n ∧ root.level ≤ n := by
  unfold enabled
  rw [Bool.and_eq_true, decide_eq_true_iff, decide_eq_true_iff]

section Configure
variable (root : Root) (r : Routing) (f : Format)

theorem configure_eq : root.configure r f = ⟨r.level, [r.outHandler f, r.errHandler f]⟩ := rfl

/-- Only the last configuration counts. -/
theorem configureAll_concat (before : List (Routing × Format)) :
    root.configureAll (before ++ [(r, f)]) = root.configure r f := by
  unfold configureAll
  rw [List.foldl_append, List.foldl_cons, List.foldl_nil, configure_eq, configure_eq]

/-- A record at `DEBUG` or above that the root lets through is written by one handler. -/
theorem takers_configure (n : Int) : (root.configure r f).takers n =
    if max r.level Level.debug.value ≤ n then
      [if n < r.threshold then r.outHandler f else r.errHandler f]
    else [] := by
  have hpos : 0 < Level.debug.value := by decide
  have hen : (root.configure r f).enabled n = true ↔ 0 < n ∧ r.level ≤ n := enabled_iff
  have hhandlers : (root.configure r f).handlers = [r.outHandler f, r.errHandler f] := rfl
  unfold takers
  rw [hhandlers, filter_passes]
  by_cases hn : max r.level Level.debug.value ≤ n
  · rw [if_pos (hen.2 (by omega)), if_pos hn, if_pos (by omega)]
  · rw [if_neg hn]
    split
    · rename_i h
      have hle := (hen.1 h).2
      exact if_neg (by omega)
    · rfl

/-! ## What the streams receive -/

/-- A stream receives the records of the levels for which a handler writes to it. -/
theorem received_of_takers {s : Stream} {p : Int → Prop} [DecidablePred p]
    (h : ∀ n, (((root.configure r f).takers n).filter (·.stream == s)).map (·.format) =
      if p n then [f] else []) (records : List Record) :
    (root.configure r f).received records s =
      (records.filter fun rec => p rec.level).map fun rec => (rec, f) := by
  unfold received
  induction records with
  | nil => rfl
  | cons rec rest ih =>
    have hrec : (((root.configure r f).takers rec.level).filter (·.stream == s)).map
        (fun h => (rec, h.format)) = (if p rec.level then [f] else []).map (Prod.mk rec) := by
      rw [← h, List.map_map]
      rfl
    rw [List.flatMap_cons, ih, hrec, List.filter_cons]
    by_cases hp : p rec.level
    · rw [if_pos hp, if_pos (decide_eq_true hp)]
      rfl
    · rw [if_neg hp, if_neg (by simpa using hp)]
      rfl

theorem received_out (records : List Record) : (root.configure r f).received records .out =
    (records.filter fun rec => max r.level Level.debug.value ≤ rec.level ∧
      rec.level < max r.errLevel Level.debug.value).map fun rec => (rec, f) := by
  refine received_of_takers root r f
    (p := fun n => max r.level Level.debug.value ≤ n ∧ n < r.threshold) (fun n => ?_) records
  rw [takers_configure]
  by_cases hlet : max r.level Level.debug.value ≤ n
  · by_cases hbelow : n < r.threshold
    · rw [if_pos hlet, if_pos hbelow, if_pos ⟨hlet, hbelow⟩]
      rfl
    · rw [if_pos hlet, if_neg hbelow, if_neg fun h => hbelow h.2]
      rfl
  · rw [if_neg hlet, if_neg fun h => hlet h.1]
    rfl

theorem received_err (records : List Record) : (root.configure r f).received records .err =
    (records.filter fun rec => max (max r.level r.errLevel) Level.debug.value ≤ rec.level).map
      fun rec => (rec, f) := by
  have hthreshold : r.threshold = max r.errLevel Level.debug.value := rfl
  refine received_of_takers root r f
    (p := fun n => max (max r.level r.errLevel) Level.debug.value ≤ n) (fun n => ?_) records
  rw [takers_configure]
  by_cases hlet : max r.level Level.debug.value ≤ n
  · by_cases hbelow : n < r.threshold
    · rw [if_pos hlet, if_pos hbelow, if_neg (by omega)]
      rfl
    · rw [if_pos hlet, if_neg hbelow, if_pos (by omega)]
      rfl
  · rw [if_neg hlet, if_neg (by omega)]
    rfl

/-- A configured root writes what its routing says. -/
theorem text_configure (records : List Record) (s : Stream) :
    (root.configure r f).text records s = r.emit f.line records s := by
  have hreceived : (root.configure r f).received records s =
      (records.filter fun rec => r.stream? rec.level = some s).map fun rec => (rec, f) := by
    refine received_of_takers root r f (p := fun n => r.stream? n = some s) (fun n => ?_) records
    rw [takers_configure, Routing.stream?_eq]
    by_cases hlet : max r.level Level.debug.value ≤ n
    · rw [if_pos hlet, if_pos hlet]
      by_cases hbelow : n < r.threshold
      · rw [if_pos hbelow, if_pos hbelow]
        cases s <;> rfl
      · rw [if_neg hbelow, if_neg hbelow]
        cases s <;> rfl
    · rw [if_neg hlet, if_neg hlet]
      rfl
  have hsame : (records.filter fun rec => r.stream? rec.level = some s) =
      records.filter fun rec => r.stream? rec.level == some s := by
    refine List.filter_congr fun rec _ => ?_
    rw [Bool.eq_iff_iff, decide_eq_true_iff, beq_iff_eq]
  unfold text Routing.emit
  rw [hreceived, List.map_map, hsame]
  rfl

end Configure

/-- **Each record goes to one stream.** After any configurations standard output receives the
records from the level of the last one and from `DEBUG` on that stay below its threshold of the
error stream, which is `DEBUG` at least; the error stream receives those from all three on. So each
record at `DEBUG` or above that the root lets through is written by one handler, and it does not
matter what was configured before. -/
theorem receives_once (root : Root) (before : List (Routing × Format)) (r : Routing) (f : Format)
    (records : List Record) :
    (root.configureAll (before ++ [(r, f)])).received records .out =
      (records.filter fun rec => max r.level Level.debug.value ≤ rec.level ∧
        rec.level < max r.errLevel Level.debug.value).map (fun rec => (rec, f)) ∧
    (root.configureAll (before ++ [(r, f)])).received records .err =
      (records.filter fun rec =>
        max (max r.level r.errLevel) Level.debug.value ≤ rec.level).map (fun rec => (rec, f)) ∧
    (∀ n, ((root.configureAll (before ++ [(r, f)])).takers n).length =
      if max r.level Level.debug.value ≤ n then 1 else 0) ∧
    (∀ s, (root.configureAll (before ++ [(r, f)])).text records s = r.emit f.line records s) ∧
    (root.configureAll (before ++ [(r, f)])).handlers.length = 2 ∧
    ∀ root' before', (root' : Root).configureAll (before' ++ [(r, f)]) =
      root.configureAll (before ++ [(r, f)]) := by
  rw [configureAll_concat]
  refine ⟨received_out root r f records, received_err root r f records, fun n => ?_,
    text_configure root r f records, rfl, fun root' before' => ?_⟩
  · rw [takers_configure]
    split <;> rfl
  · rw [configureAll_concat, configure_eq, configure_eq]

end Root

end ProtoCheck.Log
