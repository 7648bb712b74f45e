import SpiController.Label

/-!
# Register addresses

One SPI peripheral has seven registers of 16 bits, each in the low half of a 32-bit slot of its
own. An `Address` names the slot.
-/

namespace SpiController

/-- A 16-bit register content or data word. -/
abbrev Word := BitVec 16

/-- The registers of one peripheral. -/
inductive Address where
  /-- Control register 1: clocking, frame format, enable and CRC control. -/
  | control1
  /-- Control register 2: interrupt enables, DMA requests and select output. -/
  | control2
  /-- The status flags. -/
  | status
  /-- The word to send when written, the received word when read. -/
  | data
  | crcPolynomial
  /-- The CRC computed over received words. -/
  | rxCrc
  /-- The CRC computed over transmitted words. -/
  | txCrc
  deriving DecidableEq, Ord, Repr

instance : Labelled Address where
  all := [.control1, .control2, .status, .data, .crcPolynomial, .rxCrc, .txCrc]
  label
    | .control1 => "Ctrl1"
    | .control2 => "Ctrl2"
    | .status => "Sts"
    | .data => "Data"
    | .crcPolynomial => "CrcPoly"
    | .rxCrc => "RxCrc"
    | .txCrc => "TxCrc"
  find_label address := by cases address <;> decide

namespace Address

/-- Bytes from the start of the block to the slot of a register. -/
def offset : Address → Nat
  | .control1 => 0x00
  | .control2 => 0x04
  | .status => 0x08
  | .data => 0x0c
  | .crcPolynomial => 0x10
  | .rxCrc => 0x14
  | .txCrc => 0x18

/-- Bytes in one slot. -/
def slotSize : Nat := 4

/-- Bytes in the whole block. -/
def blockSize : Nat := (Labelled.all : List Address).length * slotSize

/-- The slots fill the block, one after the other. -/
theorem offsets_eq :
    (Labelled.all : List Address).map offset =
      (List.range (blockSize / slotSize)).map (· * slotSize) := by
  decide

end Address

end SpiController
