import SpiController.Instance
import SpiController.Port.Operation

/-!
# Reports on the steps of a session

A session performs steps on a port, one after the other. Every step has a `Report`: the answer or
the fault, the accesses made, the signals sent to the clock and reset controller, and the state
afterwards. A step that faults changes nothing, and the session goes on.

The port drives an instance, and its accesses go through that instance. A step that goes to the
registers directly makes its accesses past it; the report keeps the two kinds apart.
-/

namespace SpiController

/-- What a step of a session answers. -/
inductive Answer where
  | reply (reply : Reply)
  | text (text : String)
  | writes (entries : List (Address × Word))
  /-- The instance that the port drives. -/
  | identity (name : String) (line : Line)
  deriving DecidableEq, Repr

/-- What one step of a session did. -/
structure Report (σ : Type) where
  answer : Except Fault Answer
  /-- The accesses made through the instance that the port drives. -/
  accesses : List Access
  /-- The accesses made to the registers directly. -/
  direct : List Access
  signals : List (Line × Signal)
  state : σ

namespace Report

variable {σ ι α : Type}

/-- The report on a program that was run through an instance, with its result as the answer. -/
def ofRun (answer : α → Answer) (driven : Instance) (run : Run σ α) : Report σ where
  answer := .ok (answer run.result)
  accesses := run.accesses
  direct := []
  signals := run.signals.map fun signal => (driven.line, signal)
  state := run.state

/-- The same step taken on the registers directly, past the instance. -/
def pastInstance (report : Report σ) : Report σ :=
  { report with accesses := [], direct := report.accesses ++ report.direct }

/-- The report on a step that makes no access. -/
def offBus (answer : Except Fault Answer) (state : σ) : Report σ where
  answer := answer
  accesses := []
  direct := []
  signals := []
  state := state

/-- The reports on the steps of a session, each step starting where the one before it ended. -/
def session (perform : σ → ι → Report σ) (s : σ) : List ι → List (Report σ)
  | [] => []
  | step :: rest => perform s step :: session perform (perform s step).state rest

end Report

/-- The instance that a port drives, as an answer. -/
def Instance.identity (driven : Instance) : Answer :=
  .identity driven.name driven.line

end SpiController
