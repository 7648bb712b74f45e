import SpiController.Status

/-!
# Interrupt sources

A status condition interrupts when its enable bit is set in control register 2. A source is one
word that holds both: its status bit where the status register has it, and its enable bit eight
places above where control register 2 has it. The error sources share one enable bit.
-/

namespace SpiController

/-- A condition that can ask for an interrupt. -/
inductive InterruptSource where
  | txEmpty
  | rxNotEmpty
  /-- Any error. It has an enable bit and no status bit of its own. -/
  | error
  | overrun
  | crcError
  | modeFault
  | underrun
  deriving DecidableEq, Ord, Repr

instance : Labelled InterruptSource where
  all := [.txEmpty, .rxNotEmpty, .error, .overrun, .crcError, .modeFault, .underrun]
  label
    | .txEmpty => "TxEmpty"
    | .rxNotEmpty => "RxNotEmpty"
    | .error => "Error"
    | .overrun => "Overrun"
    | .crcError => "CrcError"
    | .modeFault => "ModeFault"
    | .underrun => "Underrun"
  find_label source := by cases source <;> decide

namespace InterruptSource

/-- The enable bit and the status bit of a source in one word. -/
def bits : InterruptSource → Word
  | .txEmpty => 0x8002
  | .rxNotEmpty => 0x4001
  | .error => 0x2000
  | .overrun => 0x2040
  | .crcError => 0x2010
  | .modeFault => 0x2020
  | .underrun => 0x2008

/-- How far the enable bit of a source lies above its place in control register 2. -/
def enableShift : Nat := 8

/-- The bit of control register 2 that enables a source. -/
def enableMask (source : InterruptSource) : Word :=
  source.bits >>> enableShift

/-- The status flag of the same name; the error source has none. -/
def flag? : InterruptSource → Option StatusFlag
  | .txEmpty => some .txEmpty
  | .rxNotEmpty => some .rxNotEmpty
  | .error => none
  | .overrun => some .overrun
  | .crcError => some .crcError
  | .modeFault => some .modeFault
  | .underrun => some .underrun

/-- The two halves of a source: its enable bit above, the mask of its flag below. -/
theorem bits_eq (source : InterruptSource) :
    source.bits =
      source.enableMask <<< enableShift ||| (source.flag?.map StatusFlag.mask).getD 0 := by
  cases source <;> decide

end InterruptSource

end SpiController
