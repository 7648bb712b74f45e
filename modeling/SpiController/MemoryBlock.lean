import SpiController.Program
import SpiController.Register.Bank
import SpiController.Register.Layout

/-!
# Registers in plain memory

The register block of a peripheral as the processor sees it: seven slots of 32 bits, of which a
register is the low half. A read has no side effect; a write clears the upper half of its slot.
-/

namespace SpiController

/-- Seven slots of 32 bits. -/
structure MemoryBlock where
  slots : Bank (BitVec 32)
  deriving DecidableEq, Repr

namespace MemoryBlock

/-- The block with every bit zero. -/
def zero : MemoryBlock :=
  ⟨Bank.replicate 0⟩

/-- The register in the low half of a slot. -/
def peek (b : MemoryBlock) (address : Address) : Word :=
  (b.slots.get address).setWidth 16

/-- Set all bits of a slot. -/
def poke (b : MemoryBlock) (address : Address) (value : BitVec 32) : MemoryBlock :=
  ⟨b.slots.set address value⟩

/-- Read a register, which changes nothing. -/
def read (b : MemoryBlock) (address : Address) : Word × MemoryBlock :=
  (b.peek address, b)

/-- Write a register, with zeros above it. -/
def write (b : MemoryBlock) (address : Address) (value : Word) : MemoryBlock :=
  b.poke address (value.setWidth 32)

instance : Device MemoryBlock where
  read := read
  write := write

@[simp]
theorem device_read (b : MemoryBlock) (address : Address) :
    Device.read b address = (b.peek address, b) := rfl

@[simp]
theorem device_write (b : MemoryBlock) (address : Address) (value : Word) :
    Device.write b address value = b.write address value := rfl

/-- Of a slot that is set from outside, the low half is the register. -/
theorem peek_poke (b : MemoryBlock) (a c : Address) (value : BitVec 32) :
    (b.poke a value).peek c = if c = a then value.setWidth 16 else b.peek c := by
  unfold peek poke
  rw [Bank.get_set]
  split
  · rfl
  · rfl

/-- A register reads back the last word written to it, and no write changes another one. -/
theorem peek_write (b : MemoryBlock) (a c : Address) (value : Word) :
    (b.write a value).peek c = if c = a then value else b.peek c := by
  rw [write, peek_poke, BitVec.setWidth_setWidth_of_le value (by omega), BitVec.setWidth_eq]

/-! ## The block as text -/

/-- The text of a block that holds the given registers. It leaves the other registers out. -/
def text (control1 control2 crcPolynomial : Word) : String :=
  Diagnostic.openRecord "RegisterBlock"
    [("ctrl1", Address.control1.describe control1),
      ("ctrl2", Address.control2.describe control2),
      ("crcpoly", Diagnostic.number crcPolynomial.toNat)]

/-- Read the control and polynomial registers and show them. The status and data registers are left
alone: on a peripheral, reading them has side effects. -/
def description : Program String := do
  let control1 ← Program.readRegister .control1
  let control2 ← Program.readRegister .control2
  let crcPolynomial ← Program.readRegister .crcPolynomial
  return text control1 control2 crcPolynomial

/-- Three reads, which change nothing, make up the text. -/
theorem run_description (b : MemoryBlock) :
    description.run b =
      ⟨text (b.peek .control1) (b.peek .control2) (b.peek .crcPolynomial), b,
        [.read .control1 (b.peek .control1), .read .control2 (b.peek .control2),
          .read .crcPolynomial (b.peek .crcPolynomial)], []⟩ := rfl

end MemoryBlock

end SpiController
