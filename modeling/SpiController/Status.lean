import SpiController.Register.Layout
import SpiController.TransferError

/-!
# Status flags

The hardware raises eight flags in the status register. A `Status` is one reading of that register;
`Status.isSet` tells which flags it shows and `Status.error` the most serious error among them.

Writing the status register clears the CRC error at most. The other errors clear after a sequence
of accesses: an overrun when the data register and then the status register is read, an underrun
when the status register is read, a mode fault when the status register is read and control
register 1 is written after that.
-/

namespace SpiController

/-- A condition that the status register shows. -/
inductive StatusFlag where
  /-- A received word waits to be read. -/
  | rxNotEmpty
  /-- There is room for a word to send. -/
  | txEmpty
  | sideChannel
  /-- A slave had nothing ready to send. -/
  | underrun
  /-- The received CRC differs from the computed one. -/
  | crcError
  /-- The slave select of a master was pulled low. -/
  | modeFault
  /-- A word arrived before the one received earlier was read. -/
  | overrun
  /-- A transfer is in progress. -/
  | busy
  deriving DecidableEq, Ord, Repr

instance : Labelled StatusFlag where
  all := [.rxNotEmpty, .txEmpty, .sideChannel, .underrun, .crcError, .modeFault, .overrun, .busy]
  label
    | .rxNotEmpty => "RxNotEmpty"
    | .txEmpty => "TxEmpty"
    | .sideChannel => "SideChannel"
    | .underrun => "Underrun"
    | .crcError => "CrcError"
    | .modeFault => "ModeFault"
    | .overrun => "Overrun"
    | .busy => "Busy"
  find_label flag := by cases flag <;> decide

namespace StatusFlag

/-- The bit of a flag in the status register. -/
def position : StatusFlag → Nat
  | .rxNotEmpty => 0
  | .txEmpty => 1
  | .sideChannel => 2
  | .underrun => 3
  | .crcError => 4
  | .modeFault => 5
  | .overrun => 6
  | .busy => 7

/-- The word with the bit of a flag alone. -/
def mask (flag : StatusFlag) : Word :=
  BitVec.twoPow 16 flag.position

theorem position_lt (flag : StatusFlag) : flag.position < 8 := by
  cases flag <;> decide

theorem position_injective {f g : StatusFlag} (h : f.position = g.position) : f = g := by
  cases f <;> cases g <;> simp_all [position]

@[simp]
theorem position_eq_iff {f g : StatusFlag} : f.position = g.position ↔ f = g :=
  ⟨position_injective, fun h => h ▸ rfl⟩

end StatusFlag

/-- One reading of the status register. -/
structure Status where
  bits : Word
  deriving DecidableEq, Repr

namespace Status

/-- The reading shows the flag. -/
def isSet (s : Status) (flag : StatusFlag) : Bool :=
  s.bits &&& flag.mask != 0

/-- The flags that a reading shows, in declared order. -/
def flags (s : Status) : List StatusFlag :=
  (Labelled.all : List StatusFlag).filter s.isSet

/-- The most serious error of a reading. -/
def error (s : Status) : Option TransferError :=
  if StatusRegister.overrun.read s.bits then some .overrun
  else if StatusRegister.modeFault.read s.bits then some .modeFault
  else if StatusRegister.crcError.read s.bits then some .crc
  else if StatusRegister.underrun.read s.bits then some .underrun
  else none

/-- A flag is its bit. -/
theorem isSet_eq_getLsbD (s : Status) (flag : StatusFlag) :
    s.isSet flag = s.bits.getLsbD flag.position := by
  have h : BitVec.twoPow 16 flag.position ≠ 0#16 := by cases flag <;> decide
  rw [isSet, StatusFlag.mask, BitVec.and_twoPow]
  cases s.bits.getLsbD flag.position with
  | true => simpa using h
  | false => simp

@[simp]
theorem mem_flags (s : Status) (flag : StatusFlag) : flag ∈ s.flags ↔ s.isSet flag = true := by
  simp [flags, Labelled.mem_all]

end Status

end SpiController
