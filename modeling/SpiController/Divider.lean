import SpiController.Label

/-!
# Baud rate dividers

The serial clock is the peripheral clock divided by a power of two from 2 to 256, which three bits
of control register 1 select.
-/

namespace SpiController

/-- A clock rate in hertz. -/
abbrev Hertz := BitVec 32

/-- The number that the peripheral clock is divided by. -/
inductive Divider where
  | div2
  | div4
  | div8
  | div16
  | div32
  | div64
  | div128
  | div256
  deriving DecidableEq, Ord, Repr

/-- The dividers, from the fastest serial clock to the slowest. -/
instance : Labelled Divider where
  all := [.div2, .div4, .div8, .div16, .div32, .div64, .div128, .div256]
  label
    | .div2 => "Div2"
    | .div4 => "Div4"
    | .div8 => "Div8"
    | .div16 => "Div16"
    | .div32 => "Div32"
    | .div64 => "Div64"
    | .div128 => "Div128"
    | .div256 => "Div256"
  find_label divider := by cases divider <;> decide

namespace Divider

/-- The three bits that select a divider. -/
def code : Divider → BitVec 3
  | .div2 => 0
  | .div4 => 1
  | .div8 => 2
  | .div16 => 3
  | .div32 => 4
  | .div64 => 5
  | .div128 => 6
  | .div256 => 7

/-- The divider that three bits select. -/
def ofCode (code : BitVec 3) : Divider :=
  match code.toNat with
  | 0 => .div2
  | 1 => .div4
  | 2 => .div8
  | 3 => .div16
  | 4 => .div32
  | 5 => .div64
  | 6 => .div128
  | _ => .div256

@[simp]
theorem ofCode_code (d : Divider) : ofCode d.code = d := by
  cases d <;> rfl

@[simp]
theorem code_ofCode (c : BitVec 3) : (ofCode c).code = c := by
  revert c
  decide

/-- The divider in the low three bits of a byte, whatever the bits above hold. -/
def ofByte (byte : BitVec 8) : Divider :=
  ofCode (byte.setWidth 3)

/-- Two to the power of one more than the code. -/
def divisor (d : Divider) : BitVec 32 :=
  2#32 <<< d.code.toNat

theorem toNat_divisor (d : Divider) : d.divisor.toNat = 2 <<< d.code.toNat := by
  cases d <;> rfl

/-- The serial clock that a peripheral clock gives, rounded down to whole hertz. -/
def output (d : Divider) (clock : Hertz) : Hertz :=
  clock / d.divisor

/-- Dividing `clock` does not exceed `target`. The product is taken in 64 bits, where it fits. -/
def keepsWithin (d : Divider) (clock target : Hertz) : Bool :=
  decide (clock.setWidth 64 ≤ target.setWidth 64 * d.divisor.setWidth 64)

/-- The divider of the fastest serial clock that does not exceed `target`, if there is one. -/
def fastestWithin? (clock target : Hertz) : Option Divider :=
  (Labelled.all : List Divider).find? fun d => d.keepsWithin clock target

end Divider

end SpiController
