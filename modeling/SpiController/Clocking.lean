import SpiController.Fault
import SpiController.Label
import SpiController.Diagnostic

/-!
# Clock and reset lines

Clock gates and resets belong to a controller that all peripherals of the chip share. A peripheral
owns one `Line` of it: the same bit position in the clock enable register and in the reset register
of its bus. A driver asks for a change of that line by a `Signal`.
-/

namespace SpiController

/-- The peripheral bus that a device is attached to. -/
inductive Bus where
  | apb1
  | apb2
  deriving DecidableEq, Ord, Repr

instance : Labelled Bus where
  all := [.apb1, .apb2]
  label
    | .apb1 => "Apb1"
    | .apb2 => "Apb2"
  find_label bus := by cases bus <;> decide

/-- One clock enable and reset line. -/
structure Line where
  bus : Bus
  bit : BitVec 8
  deriving DecidableEq, Ord, Repr

namespace Line

/-- The bit of a line in the 32-bit registers of its bus; positions from 32 on have none. -/
def mask (line : Line) : Except Fault (BitVec 32) :=
  if line.bit.toNat < 32 then .ok (BitVec.twoPow 32 line.bit.toNat) else .error .shiftOutOfRange

theorem mask_eq_ok_iff (line : Line) (m : BitVec 32) :
    line.mask = .ok m ↔ line.bit.toNat < 32 ∧ m = BitVec.twoPow 32 line.bit.toNat := by
  rw [mask]
  split
  next h => simp [h, eq_comm]
  next h => simp [h]

theorem mask_eq_error_iff (line : Line) (e : Fault) :
    line.mask = .error e ↔ 32 ≤ line.bit.toNat ∧ e = .shiftOutOfRange := by
  rw [mask]
  split
  next h => simp [Nat.not_le.2 h]
  next h => simp [Nat.not_lt.1 h, eq_comm]

/-- A line as text, by its bus and bit. -/
def describe (line : Line) : String :=
  Diagnostic.record "Line"
    [("bus", Labelled.label line.bus), ("bit", Diagnostic.number line.bit.toNat)]

end Line

/-- A request to the clock and reset controller for the line of one peripheral. -/
inductive Signal where
  /-- Hold the peripheral in reset, or release it. -/
  | reset (asserted : Bool)
  /-- Turn the peripheral's clock on or off. -/
  | clock (enabled : Bool)
  deriving DecidableEq, Repr

end SpiController
