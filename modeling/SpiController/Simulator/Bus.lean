import SpiController.Simulator.Basic

/-!
# Register access to the simulated peripheral

A read returns the content of the register and then has its effect; a write is logged, whether or
not the hardware takes it. The effects are those of the status register (underrun, overrun and mode
fault), of the data register in both directions, and of control register 1 on a mode fault.
-/

namespace SpiController.Simulator

/-! ## The clear sequences of overrun and mode fault -/

/-- A status read clears an overrun if the data register was read before. -/
def settleOverrun (s : Simulator) : Simulator :=
  if s.flag .overrun && s.overrunDataRead then
    { s.lower .overrun with overrunDataRead := false }
  else s

/-- A data read is noted while an overrun is raised. -/
def noteOverrun (s : Simulator) : Simulator :=
  if s.flag .overrun then { s with overrunDataRead := true } else s

/-- A write of control register 1 clears a mode fault if the status register was read before. -/
def settleModeFault (s : Simulator) : Simulator :=
  if s.flag .modeFault && s.modeFaultStatusRead then
    { s.lower .modeFault with modeFaultStatusRead := false }
  else s

/-- A status read is noted while a mode fault is raised. -/
def noteModeFault (s : Simulator) : Simulator :=
  if s.flag .modeFault then { s with modeFaultStatusRead := true } else s

/-! ## Reading -/

/-- What reading the status register does to overrun, mode fault and underrun. -/
def afterStatusRead (s : Simulator) : Simulator :=
  s.settleOverrun.noteModeFault.lower .underrun

/-- What reading the data register does: the receive buffer is empty. -/
def afterDataRead (s : Simulator) : Simulator :=
  (s.lower .rxNotEmpty).noteOverrun

/-- What reading a register does. -/
def afterRead (s : Simulator) : Address → Simulator
  | .status => s.afterStatusRead
  | .data => s.afterDataRead
  | .control1 | .control2 | .crcPolynomial | .rxCrc | .txCrc => s

/-- Read a register: its content, and the state after the effect of the read. -/
def read (s : Simulator) (address : Address) : Word × Simulator :=
  (s.peek address, s.afterRead address)

/-! ## Writing -/

/-- Store control register 1. -/
def storeControl1 (s : Simulator) (value : Word) : Simulator :=
  { s with control1 := value }.settleModeFault

/-- Store the status register: a zero clears the CRC error, all other bits are ignored. -/
def storeStatus (s : Simulator) (value : Word) : Simulator :=
  if (Status.mk value).isSet .crcError then s else s.lower .crcError

/-- Store the data register: the word is in flight from now on, in place of any other. -/
def storeData (s : Simulator) (value : Word) : Simulator :=
  let loaded := { s with inFlight := some value, elapsed := 0 }.lower .txEmpty
  if s.enabled then loaded.raise .busy else loaded

/-- What the hardware does with a word written to a register. The computed CRCs are read only. -/
def store (s : Simulator) (address : Address) (value : Word) : Simulator :=
  match address with
  | .control1 => s.storeControl1 value
  | .control2 => { s with control2 := value }
  | .status => s.storeStatus value
  | .data => s.storeData value
  | .crcPolynomial => { s with crcPolynomial := value }
  | .rxCrc | .txCrc => s

/-- Write a register. -/
def write (s : Simulator) (address : Address) (value : Word) : Simulator :=
  { s with writes := s.writes ++ [(address, value)] }.store address value

instance : Device Simulator where
  read := read
  write := write

@[simp]
theorem device_read (s : Simulator) (address : Address) :
    Device.read s address = (s.peek address, s.afterRead address) := rfl

@[simp]
theorem device_write (s : Simulator) (address : Address) (value : Word) :
    Device.write s address value = s.write address value := rfl

/-- Every write is logged, whether or not the hardware takes it. -/
theorem writes_write (s : Simulator) (address : Address) (value : Word) :
    (s.write address value).writes = s.writes ++ [(address, value)] := by
  have hstore : ∀ t : Simulator, (t.store address value).writes = t.writes := by
    intro t
    cases address with
    | control1 =>
        simp only [store, storeControl1, settleModeFault]
        split <;> rfl
    | status =>
        simp only [store, storeStatus]
        split <;> rfl
    | data =>
        simp only [store, storeData]
        split <;> rfl
    | control2 => rfl
    | crcPolynomial => rfl
    | rxCrc => rfl
    | txCrc => rfl
  exact hstore _

end SpiController.Simulator
