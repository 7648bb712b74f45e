import SpiController.Port.Transfer
import SpiController.Register.Bank

/-!
# A simulated peripheral

The registers of a peripheral together with what the hardware does to them. A word written to the
data register is in flight until the clock has run for a whole frame; the frame is then looped back
into the receive buffer. Error flags are raised by the hardware, and cleared by the access
sequences that `SpiController.Status` describes.

`Simulator` is the state, with the flags and the transfer rules as functions on it; the two
directions of register access are in `SpiController.Simulator.Bus`.
-/

namespace SpiController

/-- The state of a simulated peripheral. The data register of the bank holds the received word. -/
structure Simulator extends Bank Word where
  /-- The word that is being sent. -/
  inFlight : Option Word
  /-- Clock cycles that the word in flight has seen. -/
  elapsed : BitVec 32
  /-- The data register was read after an overrun: the next status read clears it. -/
  overrunDataRead : Bool
  /-- The status register was read after a mode fault: the next write of control register 1 clears
  it. -/
  modeFaultStatusRead : Bool
  /-- Every register write, oldest first. -/
  writes : List (Address × Word)
  deriving DecidableEq, Repr

namespace Simulator

/-- The state after a reset: room for a word to send, CRC polynomial 7, all else zero. -/
def initial : Simulator where
  toBank := { Bank.replicate 0 with
    status := StatusFlag.txEmpty.mask
    crcPolynomial := 7 }
  inFlight := none
  elapsed := 0
  overrunDataRead := false
  modeFaultStatusRead := false
  writes := []

/-- The content of a register, without the effects of a read. -/
def peek (s : Simulator) (address : Address) : Word :=
  s.toBank.get address

/-- Set a register from the hardware side, without the effects of a write. -/
def poke (s : Simulator) (address : Address) (value : Word) : Simulator :=
  { s with toBank := s.toBank.set address value }

/-- Forget the writes made so far. -/
def forgetWrites (s : Simulator) : Simulator :=
  { s with writes := [] }

@[simp]
theorem peek_poke (s : Simulator) (a c : Address) (value : Word) :
    (s.poke a value).peek c = if c = a then value else s.peek c :=
  Bank.get_set s.toBank a c value

/-! ## Flags -/

/-- The status register shows the flag. -/
def flag (s : Simulator) (flag : StatusFlag) : Bool :=
  (Status.mk s.status).isSet flag

/-- Set a status flag. -/
def raise (s : Simulator) (flag : StatusFlag) : Simulator :=
  { s with status := s.status ||| flag.mask }

/-- Clear a status flag. -/
def lower (s : Simulator) (flag : StatusFlag) : Simulator :=
  { s with status := s.status &&& ~~~flag.mask }

theorem flag_eq_getLsbD (s : Simulator) (f : StatusFlag) :
    s.flag f = s.status.getLsbD f.position :=
  Status.isSet_eq_getLsbD ⟨s.status⟩ f

@[simp]
theorem flag_raise (s : Simulator) (f g : StatusFlag) :
    (s.raise f).flag g = (s.flag g || g == f) := by
  have hf := f.position_lt
  have hp : decide (f.position = g.position) = (g == f) := by
    rw [Bool.eq_iff_iff, decide_eq_true_iff, beq_iff_eq, StatusFlag.position_eq_iff, eq_comm]
  simp only [flag_eq_getLsbD, raise, StatusFlag.mask, BitVec.getLsbD_or, BitVec.getLsbD_twoPow, hp]
  simp [show f.position < 16 by omega]

@[simp]
theorem flag_lower (s : Simulator) (f g : StatusFlag) :
    (s.lower f).flag g = (s.flag g && g != f) := by
  have hf := f.position_lt
  have hg := g.position_lt
  have hp : decide (f.position = g.position) = (g == f) := by
    rw [Bool.eq_iff_iff, decide_eq_true_iff, beq_iff_eq, StatusFlag.position_eq_iff, eq_comm]
  simp only [flag_eq_getLsbD, lower, StatusFlag.mask, BitVec.getLsbD_and, BitVec.getLsbD_not,
    BitVec.getLsbD_twoPow, hp]
  simp [show f.position < 16 by omega, show g.position < 16 by omega, bne]

/-! ## Transfers -/

/-- The peripheral is enabled. -/
def enabled (s : Simulator) : Bool :=
  Control1.enabled.read s.control1

/-- The frame length that control register 1 asks for. -/
def frameLength (s : Simulator) : FrameLength :=
  .ofControl s.control1

/-- A word arrives from the other side. It fills the receive buffer, as far as a frame carries it;
if the word before it was not read yet, it is lost, which the overrun flag reports. -/
def deliver (s : Simulator) (word : Word) : Simulator :=
  if s.flag .rxNotEmpty then s.raise .overrun
  else { s with data := word &&& s.frameLength.wordMask }.raise .rxNotEmpty

/-- The frame of `word` is over: there is room for the next word, a request to send the CRC next is
done, and the word arrives back. -/
def complete (s : Simulator) (word : Word) : Simulator :=
  { (s.raise .txEmpty).lower .busy with
    elapsed := 0
    inFlight := none
    control1 := Control1.crcNext.write false s.control1 }.deliver word

/-- Run the clock for some cycles. Only an enabled peripheral with a word in flight takes notice;
its frame is over once the cycles since its start reach the frame length. The count of cycles has to
fit its 32 bits. -/
def clock (s : Simulator) (cycles : BitVec 32) : Except Fault Simulator :=
  match s.enabled, s.inFlight with
  | true, some word =>
      if s.elapsed.uaddOverflow cycles then
        .error .counterOverflow
      else if s.elapsed + cycles < s.frameLength.cycles then
        .ok { s with elapsed := s.elapsed + cycles }
      else
        .ok (s.complete word)
  | _, _ => .ok s

/-- The clock does nothing to a disabled peripheral. -/
theorem clock_of_disabled (s : Simulator) (cycles : BitVec 32) (h : s.enabled = false) :
    s.clock cycles = .ok s := by
  simp [clock, h]

/-- The clock does nothing while no word is in flight. -/
theorem clock_of_idle (s : Simulator) (cycles : BitVec 32) (h : s.inFlight = none) :
    s.clock cycles = .ok s := by
  simp [clock, h]

/-- The clock faults exactly when a word is in flight on an enabled peripheral and the count of its
cycles would outgrow 32 bits. -/
theorem clock_eq_error_iff (s : Simulator) (cycles : BitVec 32) (fault : Fault) :
    s.clock cycles = .error fault ↔
      s.enabled = true ∧ s.inFlight.isSome = true ∧ s.elapsed.uaddOverflow cycles = true ∧
        fault = .counterOverflow := by
  cases he : s.enabled with
  | false => simp [clock_of_disabled s cycles he]
  | true =>
      cases hw : s.inFlight with
      | none => simp [clock_of_idle s cycles hw]
      | some word =>
          simp only [clock, he, hw]
          split
          next h => simp [h, eq_comm]
          next h =>
            split
            · simp [h]
            · simp [h]

end Simulator

end SpiController
