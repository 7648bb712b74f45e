import SpiController.Simulator.Basic

/-!
# The simulated peripheral as text

All parts of the state in one line: the registers, the transfer, the two clear sequences and the
writes made so far.
-/

namespace SpiController.Simulator

/-- The state as text. Nothing is read over the bus for it. -/
def describe (s : Simulator) : String :=
  Diagnostic.record "Sim"
    [("ctrl1", word s.control1),
      ("ctrl2", word s.control2),
      ("sts", word s.status),
      ("crcpoly", word s.crcPolynomial),
      ("rxcrc", word s.rxCrc),
      ("txcrc", word s.txCrc),
      ("tx", Diagnostic.slot (Diagnostic.optional (s.inFlight.map number))),
      ("rx", word s.data),
      ("cycles", Diagnostic.slot (Diagnostic.number s.elapsed.toNat)),
      ("overrun_data_read", Diagnostic.slot (Diagnostic.flag s.overrunDataRead)),
      ("mode_fault_sts_read", Diagnostic.slot (Diagnostic.flag s.modeFaultStatusRead)),
      ("writes", Diagnostic.sharedSlot (Diagnostic.list (s.writes.map fun entry =>
        Diagnostic.pair (Labelled.label entry.1) (number entry.2))))]
where
  number (value : Word) : String := Diagnostic.number value.toNat
  word (value : Word) : String := Diagnostic.slot (number value)

end SpiController.Simulator
