import SpiController.Simulator.Bus

/-!
# What happens to a simulated peripheral

Past the bus, a simulated peripheral changes by stimuli: the other side delivers a word, the clock
runs, the hardware raises a flag or sets a register, or whoever watches it forgets the writes.
-/

namespace SpiController.Simulator

/-- A change that does not come over the bus. -/
inductive Stimulus where
  | deliver (word : Word)
  | clock (cycles : BitVec 32)
  | raise (flag : StatusFlag)
  | poke (address : Address) (value : Word)
  | forgetWrites
  deriving DecidableEq, Repr

/-- The state after a stimulus. -/
def stimulate (s : Simulator) : Stimulus → Except Fault Simulator
  | .deliver word => .ok (s.deliver word)
  | .clock cycles => s.clock cycles
  | .raise flag => .ok (s.raise flag)
  | .poke address value => .ok (s.poke address value)
  | .forgetWrites => .ok s.forgetWrites

end SpiController.Simulator
