import SpiController.Register.Field

/-!
# The layout of the seven registers

The fields of every register, from the least significant bit up. Bits that no field covers are
reserved, and no bit belongs to two fields.
-/

namespace SpiController

namespace Control1

/-- Sample on the second clock edge. -/
def clockPhase : Field .flag := { register := .control1, name := "cpha", offset := 0 }

/-- The clock idles high. -/
def clockPolarity : Field .flag := { register := .control1, name := "cpol", offset := 1 }

/-- The peripheral drives the clock of a transfer. -/
def master : Field .flag := { register := .control1, name := "master", offset := 2 }

/-- The peripheral clock is divided by this for the clock of a transfer. -/
def divider : Field .divider := { register := .control1, name := "baud", offset := 3 }

/-- The peripheral takes part in transfers. -/
def enabled : Field .flag := { register := .control1, name := "enabled", offset := 6 }

/-- Words are sent from the low end. -/
def lsbFirst : Field .flag := { register := .control1, name := "lsb_first", offset := 7 }

/-- The slave select used under software management. -/
def internalSelect : Field .flag := { register := .control1, name := "internal_ss", offset := 8 }

/-- Slave select is managed by software. -/
def softwareSelect : Field .flag := { register := .control1, name := "software_nss", offset := 9 }

/-- Receive only, with two data lines. -/
def rxOnly : Field .flag := { register := .control1, name := "rx_only", offset := 10 }

/-- Frames have 16 bits. -/
def frame16 : Field .flag := { register := .control1, name := "frame_16bit", offset := 11 }

/-- The next word sent is the CRC. -/
def crcNext : Field .flag := { register := .control1, name := "crc_next", offset := 12 }

/-- CRCs are computed over the words sent and received. -/
def crcEnabled : Field .flag := { register := .control1, name := "crc_enabled", offset := 13 }

/-- The single data line is an output. -/
def bidiOutput : Field .flag := { register := .control1, name := "bidi_output", offset := 14 }

/-- There is a single data line for both directions. -/
def bidiMode : Field .flag := { register := .control1, name := "bidi_mode", offset := 15 }

/-- The fields of control register 1, which take up all of its bits. -/
def fields : List AnyField :=
  [⟨_, clockPhase⟩, ⟨_, clockPolarity⟩, ⟨_, master⟩, ⟨_, divider⟩, ⟨_, enabled⟩, ⟨_, lsbFirst⟩,
    ⟨_, internalSelect⟩, ⟨_, softwareSelect⟩, ⟨_, rxOnly⟩, ⟨_, frame16⟩, ⟨_, crcNext⟩,
    ⟨_, crcEnabled⟩, ⟨_, bidiOutput⟩, ⟨_, bidiMode⟩]

end Control1

namespace Control2

/-- DMA is asked to read a word when one was received. -/
def rxDma : Field .flag := { register := .control2, name := "rx_dma", offset := 0 }

/-- DMA is asked for a word when there is room for one to send. -/
def txDma : Field .flag := { register := .control2, name := "tx_dma", offset := 1 }

/-- A master drives the slave select line. -/
def selectOutput : Field .flag := { register := .control2, name := "ss_output", offset := 2 }

/-- Each of the errors interrupts. -/
def errorInterrupt : Field .flag := { register := .control2, name := "err_int", offset := 5 }

/-- A received word interrupts. -/
def rxNotEmptyInterrupt : Field .flag :=
  { register := .control2, name := "rxbne_int", offset := 6 }

/-- Room for a word to send interrupts. -/
def txEmptyInterrupt : Field .flag := { register := .control2, name := "txbe_int", offset := 7 }

/-- The fields of control register 2. Two reserved bits stand between the third and the fourth, and
eight above the last. -/
def fields : List AnyField :=
  [⟨_, rxDma⟩, ⟨_, txDma⟩, ⟨_, selectOutput⟩, ⟨_, errorInterrupt⟩, ⟨_, rxNotEmptyInterrupt⟩,
    ⟨_, txEmptyInterrupt⟩]

end Control2

/-! The hardware raises the status flags; of them a driver can write the CRC error alone. -/

namespace StatusRegister

/-- A received word waits to be read. -/
def rxNotEmpty : Field .flag :=
  { register := .status, name := "rx_not_empty", offset := 0, writable := false }

/-- There is room for a word to send. -/
def txEmpty : Field .flag :=
  { register := .status, name := "tx_empty", offset := 1, writable := false }

/-- The flag of the side channel. -/
def sideChannel : Field .flag :=
  { register := .status, name := "side_channel", offset := 2, writable := false }

/-- A slave had nothing ready to send. -/
def underrun : Field .flag :=
  { register := .status, name := "underrun", offset := 3, writable := false }

/-- The received CRC differs from the computed one. -/
def crcError : Field .flag := { register := .status, name := "crc_error", offset := 4 }

/-- The slave select of a master was pulled low. -/
def modeFault : Field .flag :=
  { register := .status, name := "mode_fault", offset := 5, writable := false }

/-- A word arrived before the one received earlier was read. -/
def overrun : Field .flag :=
  { register := .status, name := "overrun", offset := 6, writable := false }

/-- A transfer is in progress. -/
def busy : Field .flag :=
  { register := .status, name := "busy", offset := 7, writable := false }

/-- The fields of the status register. Above them are eight reserved bits. -/
def fields : List AnyField :=
  [⟨_, rxNotEmpty⟩, ⟨_, txEmpty⟩, ⟨_, sideChannel⟩, ⟨_, underrun⟩, ⟨_, crcError⟩, ⟨_, modeFault⟩,
    ⟨_, overrun⟩, ⟨_, busy⟩]

end StatusRegister

namespace WholeWord

/-- The word to send, or the word received. -/
def data : Field .word := { register := .data, name := "data", offset := 0 }

/-- The polynomial that the CRCs are computed with. -/
def polynomial : Field .word := { register := .crcPolynomial, name := "polynomial", offset := 0 }

/-- The CRC computed over the words received. -/
def rxCrc : Field .word := { register := .rxCrc, name := "crc", offset := 0, writable := false }

/-- The CRC computed over the words sent. -/
def txCrc : Field .word := { register := .txCrc, name := "crc", offset := 0, writable := false }

/-- A field of all sixteen bits is the content of its register. -/
theorem read_eq (f : Field .word) (content : Word) : f.read content = content := by
  have hf : f.offset = 0 := by have := f.fits; simp [FieldKind.width] at this; omega
  simp [Field.read, FieldKind.decode, FieldKind.width, hf]

end WholeWord

namespace Address

/-- The fields of a register, in declared order. -/
def fields : Address → List AnyField
  | .control1 => Control1.fields
  | .control2 => Control2.fields
  | .status => StatusRegister.fields
  | .data => [⟨_, WholeWord.data⟩]
  | .crcPolynomial => [⟨_, WholeWord.polynomial⟩]
  | .rxCrc => [⟨_, WholeWord.rxCrc⟩]
  | .txCrc => [⟨_, WholeWord.txCrc⟩]

/-- The field of a register that goes by the given name. -/
def field? (address : Address) (name : String) : Option AnyField :=
  address.fields.find? fun f => f.2.name == name

theorem register_of_mem_fields (address : Address) :
    ∀ f ∈ address.fields, f.2.register = address := by
  cases address <;> decide

/-- The content that a register value starts from, with every field clear. -/
def cleared (_ : Address) : Word := 0

/-- The fields of a register content as a record. -/
def describe (address : Address) (content : Word) : String :=
  Diagnostic.record (Labelled.label address)
    (address.fields.map fun f => (f.2.name, f.1.describe (f.2.read content)))

end Address

end SpiController
