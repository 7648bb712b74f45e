import SpiController.InterruptSource
import SpiController.Port.Control

/-!
# Status and interrupts of a port

Every operation that tells something about the status reads the status register, which counts for
the sequences that clear the error flags. Clearing a flag is one write of the status register, and
it clears the CRC error, whichever flag or source it is asked for.
-/

namespace SpiController.Port

/-- All status flags at once. -/
def status : Program Status := do
  let bits ← Program.readRegister .status
  return ⟨bits⟩

/-- Whether the status shows a flag. It is read as a whole, with all the effects of that. -/
def readStatusFlag (flag : StatusFlag) : Program Bool := do
  let reading ← status
  return reading.isSet flag

/-! ## Interrupt sources -/

/-- Let a source interrupt. -/
def enableInterrupt (source : InterruptSource) : Program Unit :=
  Program.modifyRegister .control2 fun content => content ||| source.enableMask

/-- Keep a source from interrupting. -/
def disableInterrupt (source : InterruptSource) : Program Unit :=
  Program.modifyRegister .control2 fun content => content &&& ~~~source.enableMask

/-- Whether a source may interrupt. The error sources answer alike, since they share their enable
bit. -/
def isInterruptEnabled (source : InterruptSource) : Program Bool := do
  let content ← Program.readRegister .control2
  return content &&& source.enableMask != 0

/-- A source is pending when it is enabled and the status register shares a bit with it. Both
registers are read, whatever the first of them says. -/
def readInterruptFlag (source : InterruptSource) : Program Bool := do
  let content ← Program.readRegister .control2
  let bits ← Program.readRegister .status
  return content &&& source.enableMask != 0 && bits &&& source.bits != 0

/-! ## Clearing flags -/

/-- Clear the CRC error. A one written to a status bit is ignored, so nothing is read first. -/
def clearCrcError : Program Unit :=
  Program.writeRegister .status (~~~StatusFlag.crcError.mask)

/-- Clear a status flag as far as writing can: the CRC error. -/
def clearStatusFlag (_ : StatusFlag) : Program Unit :=
  clearCrcError

/-- Clear an interrupt source as far as writing can: the CRC error. -/
def clearInterruptFlag (_ : InterruptSource) : Program Unit :=
  clearCrcError

end SpiController.Port
