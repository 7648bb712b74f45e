import SpiController.Clocking

/-!
# Peripherals of the chip

The two SPI peripherals are alike but for where their registers live and which clock and reset line
they own. A port drives one of them, or a simulated peripheral that stands in for one.
-/

namespace SpiController

/-- The SPI peripherals of the chip. -/
inductive Peripheral where
  | spi1
  | spi2
  deriving DecidableEq, Ord, Repr

instance : Labelled Peripheral where
  all := [.spi1, .spi2]
  label
    | .spi1 => "SPI1"
    | .spi2 => "SPI2"
  find_label peripheral := by cases peripheral <;> decide

/-- The address of the first register of a peripheral. -/
def Peripheral.baseAddress : Peripheral → BitVec 32
  | .spi1 => 0x40013000
  | .spi2 => 0x40003800

/-- What a port drives. -/
inductive Instance where
  | chip (peripheral : Peripheral)
  | simulated
  deriving DecidableEq, Repr

namespace Instance

/-- The name that an instance goes by in messages. -/
def name : Instance → String
  | .chip peripheral => Labelled.label peripheral
  | .simulated => "SIM"

/-- The clock and reset line that an instance owns. -/
def line : Instance → Line
  | .chip .spi1 => ⟨.apb2, 12⟩
  | .chip .spi2 => ⟨.apb1, 14⟩
  | .simulated => ⟨.apb2, 12⟩

/-- Every line has a bit in the registers of its bus. -/
theorem line_bit_lt (i : Instance) : i.line.bit.toNat < 32 := by
  cases i with
  | chip peripheral => cases peripheral <;> decide
  | simulated => decide

end Instance

/-- The text of a port that drives something with the given text. -/
def Port.describe (driven : String) : String :=
  Diagnostic.record "Port" [("spi", driven)]

end SpiController
