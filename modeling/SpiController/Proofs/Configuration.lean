import SpiController.Config.Encoding

/-!
# What control register 1 says about a configuration

Applying a configuration gives a value to every bit of control register 1 but three
(`Config.getLsbD_apply`), whatever the register held. Decoding looks at twelve of these bits
(`Config.decode_congr`) and finds the configuration again (`Config.decode_apply`).
-/

namespace SpiController

/-- A field is read from the bits that it covers. -/
theorem Field.read_congr {kind : FieldKind} (f : Field kind) {content other : Word}
    (h : ∀ i, f.Covers i → content.getLsbD i = other.getLsbD i) :
    f.read content = f.read other := by
  rw [read, read]
  congr 1
  apply BitVec.eq_of_getLsbD_eq
  intro i hi
  have hcovers : f.Covers (f.offset + i) := ⟨by omega, by omega⟩
  simp [hi, h _ hcovers]

/-! ## The bits of the parts -/

/-- A flag that is written over a clear register is the only bit there. -/
theorem Field.getLsbD_of_eq_write (f : Field .flag) {value : Bool} {bits : Word}
    (h : bits = f.write value 0) (i : Nat) : bits.getLsbD i = (decide (i = f.offset) && value) := by
  rw [h, getLsbD_write_flag]
  by_cases hi : i = f.offset
  · simp [hi]
  · simp [hi]

theorem Direction.getLsbD_bits (direction : Direction) (i : Nat) :
    direction.bits.getLsbD i =
      (decide (i = 10) && direction == .rxOnly || decide (i = 14) && direction == .halfDuplexTx ||
        decide (i = 15) && (direction == .halfDuplexRx || direction == .halfDuplexTx)) := by
  have h : direction.bits =
      Control1.rxOnly.write (direction == .rxOnly) 0 |||
        Control1.bidiOutput.write (direction == .halfDuplexTx) 0 |||
        Control1.bidiMode.write (direction == .halfDuplexRx || direction == .halfDuplexTx) 0 := by
    cases direction <;> decide
  rw [h, BitVec.getLsbD_or, BitVec.getLsbD_or, Control1.rxOnly.getLsbD_of_eq_write rfl,
    Control1.bidiOutput.getLsbD_of_eq_write rfl, Control1.bidiMode.getLsbD_of_eq_write rfl]
  rfl

theorem Role.getLsbD_bits (role : Role) (i : Nat) :
    role.bits.getLsbD i =
      (decide (i = 2) && role == .master || decide (i = 8) && role == .master) := by
  have h : role.bits =
      Control1.master.write (role == .master) 0 |||
        Control1.internalSelect.write (role == .master) 0 := by
    cases role <;> decide
  rw [h, BitVec.getLsbD_or, Control1.master.getLsbD_of_eq_write rfl,
    Control1.internalSelect.getLsbD_of_eq_write rfl]
  rfl

theorem FrameLength.getLsbD_bits (length : FrameLength) (i : Nat) :
    length.bits.getLsbD i = (decide (i = 11) && length == .bits16) :=
  Control1.frame16.getLsbD_of_eq_write (by cases length <;> decide) i

theorem Polarity.getLsbD_bits (polarity : Polarity) (i : Nat) :
    polarity.bits.getLsbD i = (decide (i = 1) && polarity == .idleHigh) :=
  Control1.clockPolarity.getLsbD_of_eq_write (by cases polarity <;> decide) i

theorem Phase.getLsbD_bits (phase : Phase) (i : Nat) :
    phase.bits.getLsbD i = (decide (i = 0) && phase == .secondEdge) :=
  Control1.clockPhase.getLsbD_of_eq_write (by cases phase <;> decide) i

theorem SelectSource.getLsbD_bits (source : SelectSource) (i : Nat) :
    source.bits.getLsbD i = (decide (i = 9) && source == .software) :=
  Control1.softwareSelect.getLsbD_of_eq_write (by cases source <;> decide) i

theorem BitOrder.getLsbD_bits (order : BitOrder) (i : Nat) :
    order.bits.getLsbD i = (decide (i = 7) && order == .lsbFirst) :=
  Control1.lsbFirst.getLsbD_of_eq_write (by cases order <;> decide) i

theorem Divider.getLsbD_bits (d : Divider) (i : Nat) :
    d.bits.getLsbD i =
      (decide (i = 3) && d.code.getLsbD 0 || decide (i = 4) && d.code.getLsbD 1 ||
        decide (i = 5) && d.code.getLsbD 2) := by
  rw [bits, BitVec.getLsbD_shiftLeft, BitVec.getLsbD_setWidth]
  match i with
  | 0 | 1 | 2 | 3 | 4 | 5 => simp
  | i + 6 =>
      simp

/-! ## The bits of a configuration -/

namespace Config

/-- What each bit of control register 1 stands for. -/
theorem getLsbD_encode (c : Config) (i : Nat) :
    c.encode.getLsbD i =
      match i with
      | 0 => c.phase == .secondEdge
      | 1 => c.polarity == .idleHigh
      | 2 => c.role == .master
      | 3 => c.divider.code.getLsbD 0
      | 4 => c.divider.code.getLsbD 1
      | 5 => c.divider.code.getLsbD 2
      | 7 => c.bitOrder == .lsbFirst
      | 8 => c.role == .master
      | 9 => c.select == .software
      | 10 => c.direction == .rxOnly
      | 11 => c.frameLength == .bits16
      | 14 => c.direction == .halfDuplexTx
      | 15 => c.direction == .halfDuplexRx || c.direction == .halfDuplexTx
      | _ => false := by
  have h : c.encode.getLsbD i =
      (c.direction.bits.getLsbD i || c.role.bits.getLsbD i || c.frameLength.bits.getLsbD i ||
        c.polarity.bits.getLsbD i || c.phase.bits.getLsbD i || c.select.bits.getLsbD i ||
        c.divider.bits.getLsbD i || c.bitOrder.bits.getLsbD i) := by
    simp only [encode, BitVec.getLsbD_or]
  rw [h, Direction.getLsbD_bits, Role.getLsbD_bits, FrameLength.getLsbD_bits,
    Polarity.getLsbD_bits, Phase.getLsbD_bits, SelectSource.getLsbD_bits, Divider.getLsbD_bits,
    BitOrder.getLsbD_bits]
  split
  -- the bits that no part sets
  case h_14 => grind
  all_goals simp

theorem getLsbD_preserveMask (i : Nat) :
    preserveMask.getLsbD i = decide (i = 6 ∨ i = 12 ∨ i = 13) := by
  have h : preserveMask = BitVec.twoPow 16 6 ||| BitVec.twoPow 16 12 ||| BitVec.twoPow 16 13 := by
    decide
  rw [h, BitVec.getLsbD_or, BitVec.getLsbD_or, BitVec.getLsbD_twoPow, BitVec.getLsbD_twoPow,
    BitVec.getLsbD_twoPow]
  simp [eq_comm, Bool.or_assoc]

/-- Applying a configuration keeps three bits and gives all others their value. -/
theorem getLsbD_apply (c : Config) (content : Word) (i : Nat) :
    (c.apply content).getLsbD i =
      if preserveMask.getLsbD i then content.getLsbD i else c.encode.getLsbD i := by
  rw [apply, BitVec.getLsbD_or, BitVec.getLsbD_and]
  cases h : preserveMask.getLsbD i with
  | false => simp
  | true =>
      -- no configuration sets one of the bits that are kept
      have hencode : c.encode.getLsbD i = false := by
        rw [getLsbD_preserveMask, decide_eq_true_iff] at h
        rw [getLsbD_encode]
        rcases h with rfl | rfl | rfl <;> rfl
      simp [hencode]

/-! ## Decoding -/

theorem divider_encode (c : Config) : Control1.divider.read c.encode = c.divider := by
  have h : c.encode.extractLsb' 3 3 = c.divider.code := by
    apply BitVec.eq_of_getLsbD_eq
    intro i hi
    have hcases : i = 0 ∨ i = 1 ∨ i = 2 := by omega
    rw [BitVec.getLsbD_extractLsb', getLsbD_encode]
    rcases hcases with rfl | rfl | rfl
    · rfl
    · rfl
    · rfl
  exact (congrArg Divider.ofCode h).trans (Divider.ofCode_code _)

/-- A configuration is found again in its bits. -/
theorem decode_encode (c : Config) : decode c.encode c.crcPolynomial = c := by
  have hdivider := c.divider_encode
  obtain ⟨direction, role, length, polarity, phase, select, divider, order, crcPolynomial⟩ := c
  simp only [decode, Config.mk.injEq]
  refine ⟨?_, ?_, ?_, ?_, ?_, ?_, hdivider, ?_, trivial⟩
  · simp only [Direction.ofControl, Field.read_flag, getLsbD_encode, Control1.bidiMode,
      Control1.bidiOutput, Control1.rxOnly]
    cases direction <;> rfl
  · simp only [Role.ofControl, Field.read_flag, getLsbD_encode, Control1.master]
    cases role <;> rfl
  · simp only [FrameLength.ofControl, Field.read_flag, getLsbD_encode, Control1.frame16]
    cases length <;> rfl
  · simp only [Polarity.ofControl, Field.read_flag, getLsbD_encode, Control1.clockPolarity]
    cases polarity <;> rfl
  · simp only [Phase.ofControl, Field.read_flag, getLsbD_encode, Control1.clockPhase]
    cases phase <;> rfl
  · simp only [SelectSource.ofControl, Field.read_flag, getLsbD_encode, Control1.softwareSelect]
    cases select <;> rfl
  · simp only [BitOrder.ofControl, Field.read_flag, getLsbD_encode, Control1.lsbFirst]
    cases order <;> rfl

/-- The bits of control register 1 that tell nothing about a configuration: the ones that it keeps,
and the internal slave select. -/
def ignored : List Nat :=
  [6, 8, 12, 13]

/-- Only the bits that tell something about a configuration are looked at. -/
theorem decode_congr {content other : Word}
    (h : ∀ i, i ∉ ignored → content.getLsbD i = other.getLsbD i) (crcPolynomial : Word) :
    decode content crcPolynomial = decode other crcPolynomial := by
  have hflag : ∀ field : Field .flag, field.offset ∉ ignored →
      field.read content = field.read other := by
    intro field hfield
    rw [Field.read_flag, Field.read_flag, h _ hfield]
  have hdivider : Control1.divider.read content = Control1.divider.read other := by
    apply Field.read_congr
    rintro i ⟨hlow, hhigh⟩
    apply h
    simp only [Control1.divider, FieldKind.width] at hlow hhigh
    simp only [ignored, List.mem_cons, List.not_mem_nil, or_false]
    omega
  simp only [decode, Direction.ofControl, Role.ofControl, FrameLength.ofControl, Polarity.ofControl,
    Phase.ofControl, SelectSource.ofControl, Divider.ofControl, BitOrder.ofControl, hdivider]
  rw [hflag Control1.bidiMode (by decide), hflag Control1.bidiOutput (by decide),
    hflag Control1.rxOnly (by decide), hflag Control1.master (by decide),
    hflag Control1.frame16 (by decide), hflag Control1.clockPolarity (by decide),
    hflag Control1.clockPhase (by decide), hflag Control1.softwareSelect (by decide),
    hflag Control1.lsbFirst (by decide)]

/-- An applied configuration is found again, whatever it was applied to. -/
theorem decode_apply (c : Config) (content : Word) :
    decode (c.apply content) c.crcPolynomial = c := by
  have h : ∀ i, i ∉ ignored → (c.apply content).getLsbD i = c.encode.getLsbD i := by
    intro i hi
    have hreplaced : ¬ preserveMask.getLsbD i = true := by
      rw [getLsbD_preserveMask, decide_eq_true_iff]
      simp only [ignored, List.mem_cons, List.not_mem_nil, or_false] at hi
      omega
    rw [getLsbD_apply, if_neg hreplaced]
  rw [decode_congr h, decode_encode]

end Config

end SpiController
