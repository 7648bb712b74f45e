import SpiController.Config.Encoding
import SpiController.Program

/-!
# Control of a port

The operations that set up a port: clock and reset line, configuration, enable, DMA requests, slave
select, frame length, line direction and CRC control. None of them waits for the hardware or looks
at the status register.
-/

namespace SpiController

/-- A DMA request line. -/
inductive DmaRequest where
  /-- Requests a word when there is room for one to send. -/
  | tx
  /-- Requests a read when a word was received. -/
  | rx
  deriving DecidableEq, Ord, Repr

instance : Labelled DmaRequest where
  all := [.tx, .rx]
  label
    | .tx => "Tx"
    | .rx => "Rx"
  find_label request := by cases request <;> decide

/-- The bit of control register 2 that enables a DMA request line. -/
def DmaRequest.field : DmaRequest → Field .flag
  | .tx => Control2.txDma
  | .rx => Control2.rxDma

namespace Port

/-- Read the register of a field and give the value of the field. -/
def readField {kind : FieldKind} (field : Field kind) : Program kind.Value := do
  let content ← Program.readRegister field.register
  return field.read content

/-- Set a field and leave the rest of its register as it is. -/
def writeField {kind : FieldKind} (field : Field kind) (value : kind.Value) : Program Unit :=
  Program.modifyRegister field.register (field.write value)

/-! ## Clock and reset line -/

/-- Return every register to its reset value by pulsing the reset line. -/
def reset : Program Unit := do
  Program.emit (.reset true)
  Program.emit (.reset false)

/-- Turn the clock of the peripheral on or off. -/
def setClockEnabled (enabled : Bool) : Program Unit :=
  Program.emit (.clock enabled)

/-! ## Configuration -/

/-- Store a configuration. Enable and CRC control are left alone, so this does not enable the
peripheral. -/
def configure (config : Config) : Program Unit := do
  Program.modifyRegister .control1 config.apply
  Program.writeRegister .crcPolynomial config.crcPolynomial

/-- The configuration that is stored in the registers. -/
def config : Program Config := do
  let content ← Program.readRegister .control1
  let crcPolynomial ← Program.readRegister .crcPolynomial
  return Config.decode content crcPolynomial

/-! ## Enable -/

/-- Let the peripheral take part in transfers. -/
def enable : Program Unit :=
  writeField Control1.enabled true

/-- Keep the peripheral from transfers. The rest of the configuration stays. -/
def disable : Program Unit :=
  writeField Control1.enabled false

/-- Whether the peripheral is enabled. -/
def isEnabled : Program Bool :=
  readField Control1.enabled

/-! ## DMA requests -/

/-- Let a DMA request line ask for transfers. -/
def enableDma (request : DmaRequest) : Program Unit :=
  writeField request.field true

/-- Keep a DMA request line from asking for transfers. -/
def disableDma (request : DmaRequest) : Program Unit :=
  writeField request.field false

/-! ## Slave select -/

/-- Set the internal slave select, which counts under software management. -/
def setSoftwareSelect : Program Unit :=
  writeField Control1.internalSelect true

/-- Clear the internal slave select. -/
def resetSoftwareSelect : Program Unit :=
  writeField Control1.internalSelect false

/-- Drive the slave select line, as a master. -/
def enableSelectOutput : Program Unit :=
  writeField Control2.selectOutput true

/-- Stop driving the slave select line. -/
def disableSelectOutput : Program Unit :=
  writeField Control2.selectOutput false

/-! ## Frames and lines -/

/-- Change the frame length: one write clears the length bit, a second one sets the new length. -/
def setFrameLength (length : FrameLength) : Program Unit := do
  writeField Control1.frame16 false
  Program.modifyRegister .control1 fun content => content ||| length.bits

/-- Set the direction of the single line of the half duplex modes. -/
def setLineDirection (direction : LineDirection) : Program Unit :=
  Program.modifyRegister .control1 direction.apply

/-! ## CRC -/

/-- Compute CRCs over the words sent and received. -/
def enableCrc : Program Unit :=
  writeField Control1.crcEnabled true

/-- Stop computing CRCs. -/
def disableCrc : Program Unit :=
  writeField Control1.crcEnabled false

/-- Send the CRC after the word that is being sent. -/
def requestCrcTransmit : Program Unit :=
  writeField Control1.crcNext true

/-- The CRC computed over the words sent. -/
def readTxCrc : Program Word :=
  readField WholeWord.txCrc

/-- The CRC computed over the words received. -/
def readRxCrc : Program Word :=
  readField WholeWord.rxCrc

/-- The polynomial that the CRCs are computed with. -/
def readCrcPolynomial : Program Word :=
  readField WholeWord.polynomial

end Port

end SpiController
