import SpiController.Diagnostic
import SpiController.Divider
import SpiController.Register.Address

/-!
# Register fields

A field is a run of bits in one register together with the kind of value that the bits stand for.
The laws at the end say what a write does: the field reads back the value written, every bit
outside the field is kept, a later write replaces an earlier one, and writes to disjoint fields
commute.
-/

namespace SpiController

/-- The kinds of values that fields hold. -/
inductive FieldKind where
  /-- One bit. -/
  | flag
  /-- Three bits that select a baud rate divider. -/
  | divider
  /-- All sixteen bits of the register. -/
  | word
  deriving DecidableEq, Repr

namespace FieldKind

/-- The type of the values of a field. -/
@[reducible]
def Value : FieldKind → Type
  | .flag => Bool
  | .divider => Divider
  | .word => Word

/-- The number of bits of a field. -/
def width : FieldKind → Nat
  | .flag => 1
  | .divider => 3
  | .word => 16

/-- The bits of a field that has the given value. -/
def encode : (kind : FieldKind) → kind.Value → BitVec kind.width
  | .flag, value => BitVec.ofBool value
  | .divider, value => value.code
  | .word, value => value

/-- The value that the bits of a field stand for. All bits stand for one. -/
def decode : (kind : FieldKind) → BitVec kind.width → kind.Value
  | .flag, bits => BitVec.getLsbD bits 0
  | .divider, bits => Divider.ofCode bits
  | .word, bits => bits

@[simp]
theorem decode_encode (kind : FieldKind) (value : kind.Value) :
    kind.decode (kind.encode value) = value := by
  cases kind with
  | flag => cases value <;> rfl
  | divider => exact Divider.ofCode_code value
  | word => rfl

@[simp]
theorem encode_decode (kind : FieldKind) (bits : BitVec kind.width) :
    kind.encode (kind.decode bits) = bits := by
  cases kind with
  | flag =>
      have h : ∀ b : BitVec 1, BitVec.ofBool (b.getLsbD 0) = b := by decide
      exact h bits
  | divider => exact Divider.code_ofCode bits
  | word => rfl

/-- The text of a value in a diagnostic. -/
def describe : (kind : FieldKind) → kind.Value → String
  | .flag, value => Diagnostic.flag value
  | .divider, value => Labelled.label value
  | .word, value => Diagnostic.number (BitVec.toNat value)

end FieldKind

/-- A run of bits in a register, from bit `offset` on. -/
structure Field (kind : FieldKind) where
  register : Address
  name : String
  offset : Nat
  /-- A driver may write the field. -/
  writable : Bool := true
  fits : offset + kind.width ≤ 16 := by decide

namespace Field

variable {kind other : FieldKind}

/-- The bits of the field. -/
def mask (f : Field kind) : Word :=
  (BitVec.allOnes kind.width).setWidth 16 <<< f.offset

/-- The value of the field in a register content. -/
def read (f : Field kind) (content : Word) : kind.Value :=
  kind.decode (content.extractLsb' f.offset kind.width)

/-- The register content with the field set to `value`. -/
def write (f : Field kind) (value : kind.Value) (content : Word) : Word :=
  (content &&& ~~~f.mask) ||| (kind.encode value).setWidth 16 <<< f.offset

/-- Bit `i` of the register belongs to the field. -/
def Covers (f : Field kind) (i : Nat) : Prop :=
  f.offset ≤ i ∧ i < f.offset + kind.width

instance (f : Field kind) (i : Nat) : Decidable (f.Covers i) :=
  inferInstanceAs (Decidable (_ ∧ _))

/-- Two fields of which one ends before the other starts. -/
def Disjoint (f : Field kind) (g : Field other) : Prop :=
  f.offset + kind.width ≤ g.offset ∨ g.offset + other.width ≤ f.offset

instance (f : Field kind) (g : Field other) : Decidable (f.Disjoint g) :=
  inferInstanceAs (Decidable (_ ∨ _))

/-! ## Bits -/

theorem getLsbD_mask (f : Field kind) (i : Nat) : f.mask.getLsbD i = decide (f.Covers i) := by
  have := f.fits
  simp only [mask, BitVec.getLsbD_shiftLeft, BitVec.getLsbD_setWidth, BitVec.getLsbD_allOnes]
  by_cases h : f.Covers i
  · rw [Covers] at h
    have h1 : i < 16 := by omega
    have h2 : ¬ i < f.offset := by omega
    have h3 : i - f.offset < 16 := by omega
    have h4 : i - f.offset < kind.width := by omega
    simp [Covers, h, h1, h2, h3, h4]
  · rw [decide_eq_false h]
    by_cases h1 : i < f.offset
    · simp [h1]
    · have h2 : ¬ i - f.offset < kind.width := by rw [Covers] at h; omega
      simp [h2]

/-- A write sets the bits of the field and keeps all others. -/
theorem getLsbD_write (f : Field kind) (value : kind.Value) (content : Word) (i : Nat) :
    (f.write value content).getLsbD i =
      if f.Covers i then (kind.encode value).getLsbD (i - f.offset) else content.getLsbD i := by
  have := f.fits
  by_cases hi : i < 16
  · simp only [write, BitVec.getLsbD_or, BitVec.getLsbD_and, BitVec.getLsbD_not, getLsbD_mask,
      BitVec.getLsbD_shiftLeft, BitVec.getLsbD_setWidth]
    by_cases h : f.Covers i
    · have h1 : ¬ i < f.offset := by rw [Covers] at h; omega
      have h2 : i - f.offset < 16 := by omega
      simp [h, hi, h1, h2]
    · by_cases h1 : i < f.offset
      · simp [h, hi, h1]
      · have h2 : (kind.encode value).getLsbD (i - f.offset) = false :=
          BitVec.getLsbD_of_ge _ _ (by rw [Covers] at h; omega)
        simp [h, hi, h2]
  · have h1 : ¬ f.Covers i := by rw [Covers]; omega
    rw [if_neg h1, BitVec.getLsbD_of_ge _ _ (by omega), BitVec.getLsbD_of_ge _ _ (by omega)]

/-- A flag is its bit. -/
theorem read_flag (f : Field .flag) (content : Word) :
    f.read content = content.getLsbD f.offset := by
  simp [read, FieldKind.decode, FieldKind.width]

/-- Writing a flag sets its bit and keeps all others. -/
theorem getLsbD_write_flag (f : Field .flag) (value : Bool) (content : Word) (i : Nat) :
    (f.write value content).getLsbD i = if i = f.offset then value else content.getLsbD i := by
  rw [getLsbD_write]
  by_cases h : i = f.offset
  · have hc : f.Covers i := by simp [Covers, FieldKind.width]; omega
    rw [if_pos h, if_pos hc, h, Nat.sub_self]
    cases value <;> rfl
  · have hc : ¬ f.Covers i := by simp [Covers, FieldKind.width]; omega
    rw [if_neg h, if_neg hc]

/-! ## Laws of writing -/

@[simp]
theorem read_write (f : Field kind) (value : kind.Value) (content : Word) :
    f.read (f.write value content) = value := by
  have h : (f.write value content).extractLsb' f.offset kind.width = kind.encode value := by
    apply BitVec.eq_of_getLsbD_eq
    intro i hi
    have hc : f.Covers (f.offset + i) := ⟨by omega, by omega⟩
    simp [getLsbD_write, hc, hi]
  rw [read, h, FieldKind.decode_encode]

/-- Writing the value that is there changes nothing. -/
@[simp]
theorem write_read (f : Field kind) (content : Word) :
    f.write (f.read content) content = content := by
  apply BitVec.eq_of_getLsbD_eq
  intro i _
  rw [getLsbD_write, read, FieldKind.encode_decode]
  split
  next h =>
    have h1 : i - f.offset < kind.width := by rw [Covers] at h; omega
    have h2 : f.offset + (i - f.offset) = i := by rw [Covers] at h; omega
    simp [h1, h2]
  next => rfl

/-- A later write replaces an earlier one. -/
@[simp]
theorem write_write (f : Field kind) (first second : kind.Value) (content : Word) :
    f.write second (f.write first content) = f.write second content := by
  apply BitVec.eq_of_getLsbD_eq
  intro i _
  simp only [getLsbD_write]
  split <;> rfl

/-- A write leaves the value of a disjoint field as it was. -/
theorem read_write_of_disjoint {f : Field kind} {g : Field other} (h : f.Disjoint g)
    (value : kind.Value) (content : Word) : g.read (f.write value content) = g.read content := by
  rw [read]
  congr 1
  apply BitVec.eq_of_getLsbD_eq
  intro i hi
  have hc : ¬ f.Covers (g.offset + i) := by rw [Covers]; rw [Disjoint] at h; omega
  simp [getLsbD_write, hc]

theorem write_comm_of_disjoint {f : Field kind} {g : Field other} (h : f.Disjoint g)
    (value : kind.Value) (value' : other.Value) (content : Word) :
    g.write value' (f.write value content) = f.write value (g.write value' content) := by
  apply BitVec.eq_of_getLsbD_eq
  intro i _
  simp only [getLsbD_write]
  by_cases hf : f.Covers i
  · have hg : ¬ g.Covers i := by rw [Covers] at hf ⊢; rw [Disjoint] at h; omega
    simp [hf, hg]
  · simp [hf]

end Field

/-- A field whose kind is left open. -/
abbrev AnyField := (kind : FieldKind) × Field kind

end SpiController
