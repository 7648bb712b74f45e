import SpiController.Config.Basic
import SpiController.Register.Layout

/-!
# Configurations in control register 1

`Config.encode` gives the register bits of a configuration and `Config.decode` reads a
configuration from a register content. `Config.apply` replaces the configuration in a register
content: peripheral enable and the two CRC control bits stay, all other bits are replaced.
-/

namespace SpiController

namespace Direction

/-- The bits of a direction. Receiving only has one of its own; the half duplex modes have the one
for a single line, and to send on it another one. -/
def bits : Direction → Word
  | .fullDuplex => 0x0000
  | .rxOnly => 0x0400
  | .halfDuplexRx => 0x8000
  | .halfDuplexTx => 0xc000

/-- The direction that a register content stands for. The single line mode wins over receiving only
when both are set. -/
def ofControl (content : Word) : Direction :=
  if Control1.bidiMode.read content then
    if Control1.bidiOutput.read content then .halfDuplexTx else .halfDuplexRx
  else
    if Control1.rxOnly.read content then .rxOnly else .fullDuplex

end Direction

namespace Role

/-- The bits of a role. A master also sets the internal slave select, so that slave select under
software management does not raise a mode fault at once. -/
def bits : Role → Word
  | .master => 0x0104
  | .slave => 0x0000

/-- The role that a register content stands for, whatever the internal slave select is. -/
def ofControl (content : Word) : Role :=
  if Control1.master.read content then .master else .slave

end Role

namespace FrameLength

/-- The bit of a frame length, set for the longer one. -/
def bits : FrameLength → Word
  | .bits8 => 0x0000
  | .bits16 => 0x0800

/-- The frame length that a register content stands for. -/
def ofControl (content : Word) : FrameLength :=
  if Control1.frame16.read content then .bits16 else .bits8

end FrameLength

namespace Polarity

/-- The bit of a polarity, set for a clock that idles high. -/
def bits : Polarity → Word
  | .idleLow => 0x0000
  | .idleHigh => 0x0002

/-- The polarity that a register content stands for. -/
def ofControl (content : Word) : Polarity :=
  if Control1.clockPolarity.read content then .idleHigh else .idleLow

end Polarity

namespace Phase

/-- The bit of a phase, set for sampling on the second edge. -/
def bits : Phase → Word
  | .firstEdge => 0x0000
  | .secondEdge => 0x0001

/-- The phase that a register content stands for. -/
def ofControl (content : Word) : Phase :=
  if Control1.clockPhase.read content then .secondEdge else .firstEdge

end Phase

namespace SelectSource

/-- The bit of a slave select source, set for management by software. -/
def bits : SelectSource → Word
  | .hardware => 0x0000
  | .software => 0x0200

/-- The slave select source that a register content stands for. -/
def ofControl (content : Word) : SelectSource :=
  if Control1.softwareSelect.read content then .software else .hardware

end SelectSource

namespace Divider

/-- The bits of a divider: its code, from bit 3 up. -/
def bits (d : Divider) : Word :=
  d.code.setWidth 16 <<< 3

/-- The divider that a register content stands for. Every code is that of a divider. -/
def ofControl (content : Word) : Divider :=
  Control1.divider.read content

end Divider

namespace BitOrder

/-- The bit of a bit order, set when words go out from the low end. -/
def bits : BitOrder → Word
  | .msbFirst => 0x0000
  | .lsbFirst => 0x0080

/-- The bit order that a register content stands for. -/
def ofControl (content : Word) : BitOrder :=
  if Control1.lsbFirst.read content then .lsbFirst else .msbFirst

end BitOrder

namespace LineDirection

/-- The word combined with control register 1: sending is a bit to set, receiving is a mask of the
bits to keep. -/
def bits : LineDirection → Word
  | .rx => 0xbfff
  | .tx => 0x4000

/-- The register content with the direction of the single line replaced. -/
def apply (direction : LineDirection) (content : Word) : Word :=
  match direction with
  | .rx => content &&& rx.bits
  | .tx => content ||| tx.bits

end LineDirection

namespace Config

/-- The bits that applying a configuration keeps: peripheral enable, CRC next and CRC enable. -/
def preserveMask : Word := 0x3040

/-- The bits of control register 1 for a configuration. -/
def encode (c : Config) : Word :=
  c.direction.bits ||| c.role.bits ||| c.frameLength.bits ||| c.polarity.bits |||
    c.phase.bits ||| c.select.bits ||| c.divider.bits ||| c.bitOrder.bits

/-- The register content with its configuration replaced. -/
def apply (c : Config) (content : Word) : Word :=
  content &&& preserveMask ||| c.encode

/-- The configuration that the contents of control register 1 and of the polynomial register
stand for. -/
def decode (content crcPolynomial : Word) : Config where
  direction := .ofControl content
  role := .ofControl content
  frameLength := .ofControl content
  polarity := .ofControl content
  phase := .ofControl content
  select := .ofControl content
  divider := .ofControl content
  bitOrder := .ofControl content
  crcPolynomial := crcPolynomial

/-- All choices at their first value, with the slave role, have no bit set. -/
@[simp]
theorem encode_standard : standard.encode = 0 := by decide

/-- A configuration as text. -/
def describe (c : Config) : String :=
  Diagnostic.record "Config"
    [("direction", Labelled.label c.direction),
      ("role", Labelled.label c.role),
      ("frame_length", Labelled.label c.frameLength),
      ("polarity", Labelled.label c.polarity),
      ("phase", Labelled.label c.phase),
      ("nss", Labelled.label c.select),
      ("baud", Labelled.label c.divider),
      ("bit_order", Labelled.label c.bitOrder),
      ("crc_polynomial", Diagnostic.number c.crcPolynomial.toNat)]

end Config

end SpiController
