import SpiController.Port.Condition

/-!
# Moving words

`transmit` and `receive` access the data register without looking at the status. `readOne` and
`writeOne` read the status first and refuse when it shows an error or when the data register is not
ready. On them stands the full duplex interface for words of a given width: `readWidth` and
`writeWidth`, with 8 and 16 bits as the widths in use. An 8-bit word takes the low half of the data
register.
-/

namespace SpiController

/-- The outcome of moving one word, with the word of type `α` that was read, if one was. -/
inductive Attempt (α : Type) where
  | moved (value : α)
  /-- No word has arrived, or there is no room for one. -/
  | wouldBlock
  | failed (error : TransferError)
  deriving DecidableEq, Repr

/-- The outcome with the word changed. -/
def Attempt.map {α β : Type} (change : α → β) : Attempt α → Attempt β
  | .moved value => .moved (change value)
  | .wouldBlock => .wouldBlock
  | .failed error => .failed error

namespace Port

/-- Put a word in the data register, whether or not there is room. -/
def transmit (value : Word) : Program Unit :=
  Program.writeRegister .data value

/-- Take the word out of the data register, whether or not one has arrived. -/
def receive : Program Word :=
  readField WholeWord.data

/-- Go on with `move` unless the status shows an error, or lacks the flag that says that the data
register is ready. -/
def whenReady {α : Type} (ready : StatusFlag) (move : Program α) : Program (Attempt α) := do
  let reading ← status
  match reading.error with
  | some error => return .failed error
  | none =>
      if reading.isSet ready then
        let result ← move
        return .moved result
      else
        return .wouldBlock

/-- Read one word, if one has arrived. An error is reported; the read of the status that shows it
may be the one that clears it. -/
def readOne : Program (Attempt Word) :=
  whenReady .rxNotEmpty receive

/-- Write one word, if there is room. Errors are reported as for `readOne`. -/
def writeOne (value : Word) : Program (Attempt Unit) :=
  whenReady .txEmpty (transmit value)

/-! ## Words of a given width -/

/-- Read one word and keep its low bits. -/
def readWidth (width : Nat) : Program (Attempt (BitVec width)) := do
  let outcome ← readOne
  return outcome.map fun word => word.setWidth width

/-- Write a word of the given width, with zeros above it. -/
def writeWidth {width : Nat} (value : BitVec width) : Program (Attempt Unit) :=
  writeOne (value.setWidth 16)

/-- Read the low byte of the data register. -/
def readByte : Program (Attempt (BitVec 8)) :=
  readWidth 8

/-- Write the low byte of the data register, with zeros above it. -/
def writeByte (value : BitVec 8) : Program (Attempt Unit) :=
  writeWidth value

/-- Read 16 bits, the whole data register. -/
def readHalfword : Program (Attempt Word) :=
  readWidth 16

/-- Write 16 bits, the whole data register. -/
def writeHalfword (value : Word) : Program (Attempt Unit) :=
  writeWidth value

end Port

end SpiController
