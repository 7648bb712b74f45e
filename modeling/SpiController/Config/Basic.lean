import SpiController.Divider
import SpiController.Register.Address

/-!
# Configurations

What a user chooses about a port: the data lines, the role, the frame, the clock and the slave
select. All of it but the CRC polynomial is stored in control register 1.
-/

namespace SpiController

/-- Which data lines there are and which way words travel on them. -/
inductive Direction where
  /-- Two lines, both directions at once. -/
  | fullDuplex
  /-- Two lines, receiving only. -/
  | rxOnly
  /-- One line, receiving. -/
  | halfDuplexRx
  /-- One line, sending. -/
  | halfDuplexTx
  deriving DecidableEq, Ord, Repr

instance : Labelled Direction where
  all := [.fullDuplex, .rxOnly, .halfDuplexRx, .halfDuplexTx]
  label
    | .fullDuplex => "FullDuplex"
    | .rxOnly => "RxOnly"
    | .halfDuplexRx => "HalfDuplexRx"
    | .halfDuplexTx => "HalfDuplexTx"
  find_label direction := by cases direction <;> decide

/-- Which side of the bus drives the clock. -/
inductive Role where
  | master
  | slave
  deriving DecidableEq, Ord, Repr

instance : Labelled Role where
  all := [.master, .slave]
  label
    | .master => "Master"
    | .slave => "Slave"
  find_label role := by cases role <;> decide

/-- The number of bits in a frame. -/
inductive FrameLength where
  | bits8
  | bits16
  deriving DecidableEq, Ord, Repr

instance : Labelled FrameLength where
  all := [.bits8, .bits16]
  label
    | .bits8 => "Bits8"
    | .bits16 => "Bits16"
  find_label length := by cases length <;> decide

namespace FrameLength

/-- Clock cycles in one frame. -/
def cycles : FrameLength → BitVec 32
  | .bits8 => 8
  | .bits16 => 16

/-- The bits of a data word that a frame carries. -/
def wordMask : FrameLength → Word
  | .bits8 => 0x00ff
  | .bits16 => 0xffff

theorem cycles_le (length : FrameLength) : length.cycles.toNat ≤ 16 := by
  cases length <;> decide

/-- A frame carries one bit per clock cycle. -/
theorem wordMask_eq (length : FrameLength) :
    length.wordMask = (BitVec.allOnes length.cycles.toNat).setWidth 16 := by
  cases length <;> rfl

end FrameLength

/-- The level of the clock between transfers. -/
inductive Polarity where
  | idleLow
  | idleHigh
  deriving DecidableEq, Ord, Repr

instance : Labelled Polarity where
  all := [.idleLow, .idleHigh]
  label
    | .idleLow => "IdleLow"
    | .idleHigh => "IdleHigh"
  find_label polarity := by cases polarity <;> decide

/-- The clock edge on which data is sampled. -/
inductive Phase where
  | firstEdge
  | secondEdge
  deriving DecidableEq, Ord, Repr

instance : Labelled Phase where
  all := [.firstEdge, .secondEdge]
  label
    | .firstEdge => "FirstEdge"
    | .secondEdge => "SecondEdge"
  find_label phase := by cases phase <;> decide

/-- Clock polarity and phase together. -/
structure Mode where
  polarity : Polarity
  phase : Phase
  deriving DecidableEq, Ord, Repr

namespace Mode

/-- The clock idles low, and the first edge samples. -/
def mode0 : Mode := ⟨.idleLow, .firstEdge⟩

/-- The clock idles low, and the second edge samples. -/
def mode1 : Mode := ⟨.idleLow, .secondEdge⟩

/-- The clock idles high, and the first edge samples. -/
def mode2 : Mode := ⟨.idleHigh, .firstEdge⟩

/-- The clock idles high, and the second edge samples. -/
def mode3 : Mode := ⟨.idleHigh, .secondEdge⟩

/-- The four modes by the number that data sheets give them. -/
def ofLabel? : String → Option Mode
  | "MODE_0" => some mode0
  | "MODE_1" => some mode1
  | "MODE_2" => some mode2
  | "MODE_3" => some mode3
  | _ => none

end Mode

/-- Where the slave select comes from. -/
inductive SelectSource where
  /-- From the pin. -/
  | hardware
  /-- From the internal slave select bit. -/
  | software
  deriving DecidableEq, Ord, Repr

instance : Labelled SelectSource where
  all := [.hardware, .software]
  label
    | .hardware => "Hardware"
    | .software => "Software"
  find_label source := by cases source <;> decide

/-- Which end of a word goes over the line first. -/
inductive BitOrder where
  | msbFirst
  | lsbFirst
  deriving DecidableEq, Ord, Repr

instance : Labelled BitOrder where
  all := [.msbFirst, .lsbFirst]
  label
    | .msbFirst => "MsbFirst"
    | .lsbFirst => "LsbFirst"
  find_label order := by cases order <;> decide

/-- The direction of the single data line of the half duplex modes. -/
inductive LineDirection where
  | rx
  | tx
  deriving DecidableEq, Ord, Repr

instance : Labelled LineDirection where
  all := [.rx, .tx]
  label
    | .rx => "Rx"
    | .tx => "Tx"
  find_label direction := by cases direction <;> decide

/-- A complete configuration. The defaults make a full duplex slave with 8-bit frames in mode 0,
hardware slave select, the fastest clock, most significant bit first and CRC polynomial 7. -/
structure Config where
  direction : Direction := .fullDuplex
  role : Role := .slave
  frameLength : FrameLength := .bits8
  polarity : Polarity := .idleLow
  phase : Phase := .firstEdge
  select : SelectSource := .hardware
  divider : Divider := .div2
  bitOrder : BitOrder := .msbFirst
  crcPolynomial : Word := 7
  deriving DecidableEq, Repr

namespace Config

/-- The configuration that all settings start from. -/
def standard : Config := {}

/-- Clock polarity and phase of a configuration. -/
def mode (c : Config) : Mode := ⟨c.polarity, c.phase⟩

end Config

end SpiController
