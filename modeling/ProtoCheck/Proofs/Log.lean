import ProtoCheck.Log

/-!
# Where records go

The program writes records of two levels only: those that trace a run, and warnings. Where the error
stream begins with the warnings, each level has one stream.

* `Setting.named_levelName` : a level that is shown by its name is read back;
* `exists_verbosityLevel`, `debug_lt_verbosityLevel_iff` : the levels of verbosity flags;
* `Record.Usual` : records that trace or warn, `linesOf` : the lines of those of one level;
* `Routing.emit_out`, `Routing.emit_err` : what such records put on the two streams.
-/

namespace ProtoCheck.Log

/-! ## Levels -/

/-- A level that is shown by its name is read back. -/
theorem Setting.named_levelName (l : Level) :
    Setting.named (levelName l.value) = .level l.value := by
  cases l <;> decide

/-- A setting that is a level is one of those with names. -/
theorem Setting.exists_level {text : String} {n : Int} (h : Setting.named text = .level n) :
    ∃ l : Level, n = l.value := by
  unfold Setting.named at h
  dsimp only at h
  split at h
  · exact nomatch h
  · split at h
    · exact nomatch h
    · exact ⟨_, (Setting.level.inj h).symm⟩

/-- Verbosity flags turn a level with a name into one with a name. -/
theorem exists_verbosityLevel (verbosity : Int) (l : Level) :
    ∃ l' : Level, verbosityLevel verbosity l.value = l'.value := by
  unfold verbosityLevel
  split
  · exact ⟨l, rfl⟩
  · split
    · by_cases h : l.value ≤ Level.info.value
      · exact ⟨l, Int.min_eq_left h⟩
      · exact ⟨.info, Int.min_eq_right (by omega)⟩
    · exact ⟨.debug, rfl⟩

/-- Records that trace a run are left out when they were before, and one flag at most is given. -/
theorem debug_lt_verbosityLevel_iff {verbosity : Nat} {n : Int} :
    Level.debug.value < verbosityLevel verbosity n ↔ verbosity ≤ 1 ∧ Level.debug.value < n := by
  have hinfo : Level.debug.value < Level.info.value := by decide
  unfold verbosityLevel
  split
  · omega
  · split
    · omega
    · omega

/-! ## Streams -/

/-- A record that traces a run, or a warning. -/
def Record.Usual (r : Record) : Prop :=
  r.level = Level.debug.value ∨ r.level = Level.warning.value

theorem Channel.usual_debug (c : Channel) (text : String) : (c.debug text).Usual := .inl rfl

theorem Channel.usual_warn (c : Channel) (text : String) : (c.warn text).Usual := .inr rfl

/-- The lines of the records of one level. -/
def linesOf (l : Level) (line : Record → String) (records : List Record) : String :=
  String.join ((records.filter fun r => r.level == l.value).map fun r => line r ++ "\n")

namespace Routing

/-- The usual routing with another level. -/
def usual (n : Int) : Routing := { Routing.default with level := n }

theorem stream?_debug (n : Int) : (usual n).stream? Level.debug.value =
    if n ≤ Level.debug.value then some .out else none := by
  have hfound : [Stream.out, Stream.err].find? ((usual n).accepts Level.debug.value) =
      some .out := rfl
  have henabled : (usual n).enabled Level.debug.value = decide (n ≤ Level.debug.value) := rfl
  unfold stream?
  rw [hfound, henabled]
  simp

theorem stream?_warning (n : Int) : (usual n).stream? Level.warning.value =
    if n ≤ Level.warning.value then some .err else none := by
  have hfound : [Stream.out, Stream.err].find? ((usual n).accepts Level.warning.value) =
      some .err := rfl
  have henabled : (usual n).enabled Level.warning.value = decide (n ≤ Level.warning.value) := rfl
  unfold stream?
  rw [hfound, henabled]
  simp

/-- Records that trace a run go to standard output and warnings to the error stream, where they are
not left out. -/
theorem stream?_of_usual {rec : Record} (h : rec.Usual) (n : Int) :
    ((usual n).stream? rec.level = some .out ↔
      rec.level = Level.debug.value ∧ n ≤ Level.debug.value) ∧
    ((usual n).stream? rec.level = some .err ↔
      rec.level = Level.warning.value ∧ n ≤ Level.warning.value) := by
  have hne : Level.debug.value ≠ Level.warning.value := by decide
  rcases h with hl | hl
  · rw [hl, stream?_debug]
    simp [hne]
  · rw [hl, stream?_warning]
    simp [hne.symm]

section Emit
variable {r : Routing} {s : Stream} {l : Level} {line : Record → String} {records : List Record}

/-- A stream gets the lines of one level when it takes the records of that level, and no others. -/
theorem emit_of_stream {p : Prop} [Decidable p]
    (h : ∀ rec ∈ records, r.stream? rec.level = some s ↔ rec.level = l.value ∧ p) :
    r.emit line records s = if p then linesOf l line records else "" := by
  unfold emit
  split
  · rename_i hp
    unfold linesOf
    congr 2
    apply List.filter_congr
    intro rec hrec
    rw [Bool.eq_iff_iff, beq_iff_eq, beq_iff_eq, h rec hrec]
    exact and_iff_left hp
  · rename_i hp
    have hnone : (records.filter fun rec => r.stream? rec.level == some s) = [] := by
      rw [List.filter_eq_nil_iff]
      intro rec hrec
      rw [beq_iff_eq, h rec hrec]
      exact fun hs => hp hs.2
    rw [hnone]
    rfl

variable (h : ∀ rec ∈ records, rec.Usual) (n : Int)
include h

theorem emit_out : (usual n).emit line records .out =
    if n ≤ Level.debug.value then linesOf .debug line records else "" :=
  emit_of_stream fun rec hrec => (stream?_of_usual (h rec hrec) n).1

theorem emit_err : (usual n).emit line records .err =
    if n ≤ Level.warning.value then linesOf .warning line records else "" :=
  emit_of_stream fun rec hrec => (stream?_of_usual (h rec hrec) n).2

end Emit

end Routing

/-- A record leaves a line. -/
theorem linesOf_cons_ne_empty {l : Level} {r : Record} (h : r.level = l.value)
    (line : Record → String) (records : List Record) : linesOf l line (r :: records) ≠ "" := by
  unfold linesOf
  rw [List.filter_cons_of_pos (by rw [h, beq_iff_eq]), List.map_cons, String.join_cons]
  simp

end ProtoCheck.Log
