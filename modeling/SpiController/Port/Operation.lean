import SpiController.Port.Transfer

/-!
# The operations of a port

`Operation` lists everything that a port can be asked to do, so that a statement about all
operations, or about runs of them, quantifies over one type. `Operation.program` is what the
operation does on the bus, and `Reply` what it answers.
-/

namespace SpiController

/-- What a port can be asked to do. -/
inductive Operation where
  | reset
  | setClockEnabled (enabled : Bool)
  | configure (config : Config)
  | config
  | enable
  | disable
  | isEnabled
  | enableDma (request : DmaRequest)
  | disableDma (request : DmaRequest)
  | transmit (value : Word)
  | receive
  | setSoftwareSelect
  | resetSoftwareSelect
  | enableSelectOutput
  | disableSelectOutput
  | setFrameLength (length : FrameLength)
  | setLineDirection (direction : LineDirection)
  | enableCrc
  | disableCrc
  | requestCrcTransmit
  | readTxCrc
  | readRxCrc
  | readCrcPolynomial
  | readOne
  | writeOne (value : Word)
  | readByte
  | writeByte (value : BitVec 8)
  | readHalfword
  | writeHalfword (value : Word)
  | status
  | readStatusFlag (flag : StatusFlag)
  | enableInterrupt (source : InterruptSource)
  | disableInterrupt (source : InterruptSource)
  | isInterruptEnabled (source : InterruptSource)
  | readInterruptFlag (source : InterruptSource)
  | clearCrcError
  | clearStatusFlag (flag : StatusFlag)
  | clearInterruptFlag (source : InterruptSource)
  deriving DecidableEq, Repr

/-- What an operation answers. -/
inductive Reply where
  /-- The operation has no answer. -/
  | none
  | truth (value : Bool)
  | word (value : Word)
  | config (value : Config)
  | status (value : Status)
  /-- A word was asked for. -/
  | received (outcome : Attempt Word)
  /-- A byte was asked for. -/
  | receivedByte (outcome : Attempt (BitVec 8))
  /-- A word or byte was handed over. -/
  | sent (outcome : Attempt Unit)
  deriving DecidableEq, Repr

/-- A program that ends without an answer. -/
def Program.answerless (p : Program Unit) : Program Reply := do
  p
  return .none

namespace Operation

/-- What an operation does on the bus. -/
def program : Operation → Program Reply
  | reset => Port.reset.answerless
  | setClockEnabled enabled => (Port.setClockEnabled enabled).answerless
  | configure value => (Port.configure value).answerless
  | config => .config <$> Port.config
  | enable => Port.enable.answerless
  | disable => Port.disable.answerless
  | isEnabled => .truth <$> Port.isEnabled
  | enableDma request => (Port.enableDma request).answerless
  | disableDma request => (Port.disableDma request).answerless
  | transmit value => (Port.transmit value).answerless
  | receive => .word <$> Port.receive
  | setSoftwareSelect => Port.setSoftwareSelect.answerless
  | resetSoftwareSelect => Port.resetSoftwareSelect.answerless
  | enableSelectOutput => Port.enableSelectOutput.answerless
  | disableSelectOutput => Port.disableSelectOutput.answerless
  | setFrameLength length => (Port.setFrameLength length).answerless
  | setLineDirection direction => (Port.setLineDirection direction).answerless
  | enableCrc => Port.enableCrc.answerless
  | disableCrc => Port.disableCrc.answerless
  | requestCrcTransmit => Port.requestCrcTransmit.answerless
  | readTxCrc => .word <$> Port.readTxCrc
  | readRxCrc => .word <$> Port.readRxCrc
  | readCrcPolynomial => .word <$> Port.readCrcPolynomial
  | readOne => .received <$> Port.readOne
  | writeOne value => .sent <$> Port.writeOne value
  | readByte => .receivedByte <$> Port.readByte
  | writeByte value => .sent <$> Port.writeByte value
  | readHalfword => .received <$> Port.readHalfword
  | writeHalfword value => .sent <$> Port.writeHalfword value
  | status => .status <$> Port.status
  | readStatusFlag flag => .truth <$> Port.readStatusFlag flag
  | enableInterrupt source => (Port.enableInterrupt source).answerless
  | disableInterrupt source => (Port.disableInterrupt source).answerless
  | isInterruptEnabled source => .truth <$> Port.isInterruptEnabled source
  | readInterruptFlag source => .truth <$> Port.readInterruptFlag source
  | clearCrcError => Port.clearCrcError.answerless
  | clearStatusFlag flag => (Port.clearStatusFlag flag).answerless
  | clearInterruptFlag source => (Port.clearInterruptFlag source).answerless

end Operation

/-- What software asks of a device: an operation of the port, or an access of its own past it. -/
inductive Request where
  | port (operation : Operation)
  | read (address : Address)
  | write (address : Address) (value : Word)
  /-- Read a register, keep the bits of `keep`, set those of `set`, and write it back. -/
  | modify (address : Address) (keep set : Word)
  deriving DecidableEq, Repr

/-- What a request does on the bus. -/
def Request.program : Request → Program Reply
  | port operation => operation.program
  | read address => .word <$> Program.readRegister address
  | write address value => (Program.writeRegister address value).answerless
  | modify address keep set =>
      (Program.modifyRegister address fun value => value &&& keep ||| set).answerless

end SpiController
