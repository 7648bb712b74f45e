/-!
# Faults

Two computations have no value for some of their inputs: the mask of a line whose bit lies outside
its 32-bit register, and a cycle count that outgrows its 32-bit counter.
-/

namespace SpiController

/-- Why a computation has no value. -/
inductive Fault where
  /-- A bit position outside the word that it is shifted into. -/
  | shiftOutOfRange
  /-- A sum that does not fit its counter. -/
  | counterOverflow
  deriving DecidableEq, Repr

/-- The wording of a fault. -/
def Fault.message : Fault → String
  | .shiftOutOfRange => "attempt to shift left with overflow"
  | .counterOverflow => "attempt to add with overflow"

end SpiController
