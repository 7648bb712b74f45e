import SpiController.Label

/-!
# Transfer errors

The four errors that a peripheral reports about a transfer, and the coarser kinds that code for any
serial bus tells apart.
-/

namespace SpiController

/-- What went wrong in a transfer. -/
inductive TransferError where
  /-- A received word was lost. -/
  | overrun
  /-- The slave select of a master was pulled low. -/
  | modeFault
  /-- The received CRC differs from the computed one. -/
  | crc
  /-- A slave had nothing ready to send. -/
  | underrun
  deriving DecidableEq, Ord, Repr

instance : Labelled TransferError where
  all := [.overrun, .modeFault, .crc, .underrun]
  label
    | .overrun => "Overrun"
    | .modeFault => "ModeFault"
    | .crc => "Crc"
    | .underrun => "Underrun"
  find_label error := by cases error <;> decide

/-- The kinds of error that any serial bus has. -/
inductive ErrorKind where
  | overrun
  | modeFault
  | other
  deriving DecidableEq, Ord, Repr

instance : Labelled ErrorKind where
  all := [.overrun, .modeFault, .other]
  label
    | .overrun => "Overrun"
    | .modeFault => "ModeFault"
    | .other => "Other"
  find_label kind := by cases kind <;> decide

namespace TransferError

/-- The kind that an error belongs to. A failed CRC and an underrun have none of their own. -/
def kind : TransferError → ErrorKind
  | .overrun => .overrun
  | .modeFault => .modeFault
  | .crc => .other
  | .underrun => .other

/-- The wording of an error. -/
def message (error : TransferError) : String :=
  "SPI Error " ++ Labelled.label error

end TransferError

end SpiController
