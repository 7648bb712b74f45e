import SpiController.MemoryBlock
import SpiController.Session.Report

/-!
# Sessions on a peripheral in memory

The steps are requests over the bus, changes of a whole slot from outside, and inspections. The
block shows itself by reads of its own registers, past the instance that the port drives.
-/

namespace SpiController.MemoryBlock

/-- What is done in a session on registers in memory. -/
inductive Step where
  | request (request : Request)
  /-- A slot is set from outside, all of its bits. -/
  | poke (address : Address) (value : BitVec 32)
  /-- The block is shown as text. -/
  | description
  /-- The port is shown as text. -/
  | portDescription
  /-- The instance is taken back from the port. -/
  | identity
  deriving DecidableEq, Repr

/-- Perform one step on the registers of a peripheral. -/
def perform (peripheral : Peripheral) (b : MemoryBlock) : Step → Report MemoryBlock
  | .request request => .ofRun .reply (.chip peripheral) (request.program.run b)
  | .poke address value => .offBus (.ok (.reply .none)) (b.poke address value)
  | .description => (Report.ofRun .text (.chip peripheral) (description.run b)).pastInstance
  | .portDescription => .offBus (.ok (.text (Port.describe (Labelled.label peripheral)))) b
  | .identity => .offBus (.ok (Instance.chip peripheral).identity) b

/-- Perform the steps of a session. -/
def session (peripheral : Peripheral) (b : MemoryBlock) (steps : List Step) :
    List (Report MemoryBlock) :=
  Report.session (perform peripheral) b steps

end SpiController.MemoryBlock
