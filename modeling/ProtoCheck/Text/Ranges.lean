/-!
# Sets of characters as tables of code point ranges

* `inRanges` : membership in a table of closed ranges.
-/

namespace ProtoCheck.Text

/-- Whether `n` lies in one of the closed ranges of `table`. -/
def inRanges (table : List (Nat × Nat)) (n : Nat) : Bool :=
  table.any fun r => r.1 ≤ n && n ≤ r.2

end ProtoCheck.Text
