import ProtoCheck.Log.Format

/-!
# The root of the loggers

A logger without a level of its own leaves everything to the root, which has a level and handlers. A
record that the level lets through is written by each handler that it passes.

* `Handler`, `Handler.passes` : where a handler writes, and which records;
* `Routing.outHandler`, `Routing.errHandler` : the handlers of the two streams;
* `Root`, `Root.takers` : the handlers that write a record;
* `Root.configure`, `Root.configureAll` : put routings in force;
* `Root.received`, `Root.text` : what records put on a stream.
-/

namespace ProtoCheck.Log

/-- A handler: the stream that it writes to, the least level that it takes, the level that its
records stay below where it has such a bound, and the format of its lines. -/
structure Handler where
  stream : Stream
  least : Int
  below : Option Int := none
  format : Format
  deriving DecidableEq, Repr

/-- Whether records of a level pass a handler. -/
def Handler.passes (h : Handler) (n : Int) : Bool := h.least ≤ n && h.below.all (n < ·)

/-- The handler of standard output takes the records below the threshold of the error stream. -/
def Routing.outHandler (r : Routing) (format : Format) : Handler :=
  { stream := .out, least := Level.debug.value, below := some r.threshold, format }

/-- The handler of the error stream takes the others. -/
def Routing.errHandler (r : Routing) (format : Format) : Handler :=
  { stream := .err, least := r.threshold, format }

/-- The root of the loggers. -/
structure Root where
  level : Int
  handlers : List Handler
  deriving DecidableEq, Repr

namespace Root

/-- The root as it is before anything is configured. -/
def initial : Root := ⟨Level.warning.value, []⟩

/-- The root without its handlers. -/
def cleared (root : Root) : Root := { root with handlers := [] }

/-- The root with one more handler. -/
def add (root : Root) (h : Handler) : Root := { root with handlers := root.handlers ++ [h] }

/-- Puts a routing in force. The handlers that are there give way to one for each stream. -/
def configure (root : Root) (r : Routing) (format : Format) : Root :=
  (({ root.cleared with level := r.level }).add (r.outHandler format)).add (r.errHandler format)

/-- Puts several routings in force, one after the other. -/
def configureAll (root : Root) (calls : List (Routing × Format)) : Root :=
  calls.foldl (fun root c => root.configure c.1 c.2) root

/-- Whether the level of the root lets records through; those up to zero are never logged. -/
def enabled (root : Root) (n : Int) : Bool := 0 < n && root.level ≤ n

/-- The handlers that write the records of a level. -/
def takers (root : Root) (n : Int) : List Handler :=
  if root.enabled n then root.handlers.filter (·.passes n) else []

/-- The records that a stream receives, each with the format that it is written in. -/
def received (root : Root) (records : List Record) (s : Stream) : List (Record × Format) :=
  records.flatMap fun r =>
    ((root.takers r.level).filter (·.stream == s)).map fun h => (r, h.format)

/-- What the records put on a stream. -/
def text (root : Root) (records : List Record) (s : Stream) : String :=
  String.join ((root.received records s).map fun x => x.2.line x.1 ++ "\n")

end Root

end ProtoCheck.Log
