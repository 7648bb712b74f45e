import SpiController.Proofs.StoredConfiguration

/-!
# Between configurations and register contents

A configuration that is stored can be read back (`configuration_round_trip`). Of the register it is
stored in it replaces all bits but three, so that only the last one of several configurations
counts.

The other way round something can be lost: what decoding a content and applying the result leaves
is that content with three of its bits made to agree with others (`Config.getLsbD_apply_decode`).
The contents that survive are the canonical ones, which are those that some configuration leaves
(`configuration_of_content`).
-/

namespace SpiController

/-- Two contents that agree on the bits of a mask have the same part under it. -/
theorem and_eq_and_of_getLsbD {content other mask : Word}
    (h : ∀ i, mask.getLsbD i = true → content.getLsbD i = other.getLsbD i) :
    content &&& mask = other &&& mask := by
  apply BitVec.eq_of_getLsbD_eq
  intro i _
  rw [BitVec.getLsbD_and, BitVec.getLsbD_and]
  cases hmask : mask.getLsbD i with
  | false => rw [Bool.and_false, Bool.and_false]
  | true => rw [h i hmask]

namespace Config

/-! ## Applying a configuration -/

/-- The bits that a configuration keeps are those of the content. -/
theorem apply_and_preserveMask (c : Config) (content : Word) :
    c.apply content &&& preserveMask = content &&& preserveMask := by
  apply and_eq_and_of_getLsbD
  intro i hi
  rw [getLsbD_apply, if_pos hi]

/-- All other bits are those of the configuration. -/
theorem apply_and_not_preserveMask (c : Config) (content : Word) :
    c.apply content &&& ~~~preserveMask = c.encode &&& ~~~preserveMask := by
  apply and_eq_and_of_getLsbD
  intro i hi
  have hreplaced : ¬ preserveMask.getLsbD i = true := by
    intro hkept
    simp [hkept] at hi
  rw [getLsbD_apply, if_neg hreplaced]

/-- Only the bits that are kept count. -/
theorem apply_and_eq_apply (c : Config) (content : Word) :
    c.apply (content &&& preserveMask) = c.apply content := by
  rw [apply, apply, BitVec.and_assoc, BitVec.and_self]

/-- Of two configurations only the later one counts. -/
theorem apply_apply (c d : Config) (content : Word) :
    d.apply (c.apply content) = d.apply content := by
  rw [← apply_and_eq_apply, apply_and_preserveMask, apply_and_eq_apply]

/-! ## Decoding a content that no configuration left -/

/-- A choice between two values tells the bit that it was made by. -/
private theorem choice_beq {α : Type} [BEq α] [LawfulBEq α] {yes no : α} (hne : no ≠ yes)
    (value : Bool) : ((if value = true then yes else no) == yes) = value := by
  cases value with
  | false => exact beq_eq_false_iff_ne.2 hne
  | true => exact beq_self_eq_true yes

theorem code_divider_decode (content crcPolynomial : Word) {i : Nat} (h : i < 3) :
    (decode content crcPolynomial).divider.code.getLsbD i = content.getLsbD (3 + i) := by
  have hcode : (decode content crcPolynomial).divider.code = content.extractLsb' 3 3 :=
    Divider.code_ofCode _
  rw [hcode, BitVec.getLsbD_extractLsb']
  simp [h]

/-- The bits of the direction that is decoded from a content. -/
theorem direction_decode_beq (content crcPolynomial : Word) :
    let direction := (decode content crcPolynomial).direction
    (direction == .rxOnly) = (content.getLsbD 10 && !content.getLsbD 15) ∧
      (direction == .halfDuplexTx) = (content.getLsbD 14 && content.getLsbD 15) ∧
      (direction == .halfDuplexRx || direction == .halfDuplexTx) = content.getLsbD 15 := by
  simp only [decode, Direction.ofControl, Field.read_flag, Control1.bidiMode, Control1.bidiOutput,
    Control1.rxOnly]
  cases content.getLsbD 15 with
  | false => cases content.getLsbD 10 <;> simp
  | true => cases content.getLsbD 14 <;> simp

/-- The configuration that is decoded from a content has its bits, but the internal slave select
follows the role, receiving only needs two lines, an output needs a single line, and the bits that
configurations leave out are clear. -/
theorem getLsbD_encode_decode (content crcPolynomial : Word) (i : Nat) :
    (decode content crcPolynomial).encode.getLsbD i =
      match i with
      | 6 | 12 | 13 => false
      | 8 => content.getLsbD 2
      | 10 => content.getLsbD 10 && !content.getLsbD 15
      | 14 => content.getLsbD 14 && content.getLsbD 15
      | i => content.getLsbD i := by
  obtain ⟨hrxOnly, houtput, hsingle⟩ := direction_decode_beq content crcPolynomial
  have hmaster : ((decode content crcPolynomial).role == .master) = content.getLsbD 2 :=
    (choice_beq (by decide) _).trans (Control1.master.read_flag content)
  rw [getLsbD_encode]
  match i with
  | 0 => exact (choice_beq (by decide) _).trans (Control1.clockPhase.read_flag content)
  | 1 => exact (choice_beq (by decide) _).trans (Control1.clockPolarity.read_flag content)
  | 2 => exact hmaster
  | 3 => exact code_divider_decode content crcPolynomial (by decide)
  | 4 => exact code_divider_decode content crcPolynomial (by decide)
  | 5 => exact code_divider_decode content crcPolynomial (by decide)
  | 7 => exact (choice_beq (by decide) _).trans (Control1.lsbFirst.read_flag content)
  | 8 => exact hmaster
  | 9 => exact (choice_beq (by decide) _).trans (Control1.softwareSelect.read_flag content)
  | 10 => exact hrxOnly
  | 11 => exact (choice_beq (by decide) _).trans (Control1.frame16.read_flag content)
  | 14 => exact houtput
  | 15 => exact hsingle
  | 6 | 12 | 13 => rfl
  | i + 16 => exact (BitVec.getLsbD_of_ge content (i + 16) (by omega)).symm

/-- Applying it again changes at most the internal slave select and two bits of the direction. -/
theorem getLsbD_apply_decode (content crcPolynomial : Word) (i : Nat) :
    ((decode content crcPolynomial).apply content).getLsbD i =
      match i with
      | 8 => content.getLsbD 2
      | 10 => content.getLsbD 10 && !content.getLsbD 15
      | 14 => content.getLsbD 14 && content.getLsbD 15
      | i => content.getLsbD i := by
  rw [getLsbD_apply, getLsbD_preserveMask, getLsbD_encode_decode]
  by_cases hkept : i = 6 ∨ i = 12 ∨ i = 13
  · rw [decide_eq_true hkept, if_pos rfl]
    rcases hkept with rfl | rfl | rfl <;> rfl
  · rw [decide_eq_false hkept, if_neg Bool.false_ne_true]
    split
    · exact absurd (.inl rfl) hkept
    · exact absurd (.inr (.inl rfl)) hkept
    · exact absurd (.inr (.inr rfl)) hkept
    · rfl
    · rfl
    · rfl
    -- past these bits the two tables agree
    · simp

/-- Nine bits are not changed by decoding: those of the divider and of the parts that have a bit of
their own. -/
theorem encode_decode_and (content crcPolynomial : Word) :
    (decode content crcPolynomial).encode &&& 0x0abf = content &&& 0x0abf := by
  apply and_eq_and_of_getLsbD
  intro i hi
  rw [getLsbD_encode_decode]
  -- the six bits with an entry of their own are not in the mask
  split
  case h_7 => rfl
  all_goals exact absurd hi (by decide)

/-- A configuration has none of the bits that it leaves out. -/
theorem encode_and_preserveMask (c : Config) : c.encode &&& preserveMask = 0 := by
  have hzero : c.apply 0 = c.encode := by simp [apply]
  rw [← hzero, apply_and_preserveMask]
  exact BitVec.zero_and

/-! ## Canonical contents -/

/-- The bits that a configuration is not read from agree with those that it is read from: the
internal slave select with the role, and the three bits of the direction with each other. -/
structure Canonical (content : Word) : Prop where
  /-- The internal slave select goes with the role of a master. -/
  select : content.getLsbD 8 = content.getLsbD 2
  /-- A single line is not said to be receive only. -/
  single : ¬ (content.getLsbD 15 = true ∧ content.getLsbD 10 = true)
  /-- Only a single line is said to be an output. -/
  output : content.getLsbD 14 = true → content.getLsbD 15 = true

theorem canonical_apply (c : Config) (content : Word) : Canonical (c.apply content) := by
  have hbit : ∀ i, ¬ (i = 6 ∨ i = 12 ∨ i = 13) →
      (c.apply content).getLsbD i = c.encode.getLsbD i := by
    intro i hi
    rw [getLsbD_apply, getLsbD_preserveMask, decide_eq_false hi, if_neg Bool.false_ne_true]
  have h8 : (c.apply content).getLsbD 8 = (c.role == .master) :=
    (hbit 8 (by decide)).trans (c.getLsbD_encode 8)
  have h2 : (c.apply content).getLsbD 2 = (c.role == .master) :=
    (hbit 2 (by decide)).trans (c.getLsbD_encode 2)
  have h10 : (c.apply content).getLsbD 10 = (c.direction == .rxOnly) :=
    (hbit 10 (by decide)).trans (c.getLsbD_encode 10)
  have h14 : (c.apply content).getLsbD 14 = (c.direction == .halfDuplexTx) :=
    (hbit 14 (by decide)).trans (c.getLsbD_encode 14)
  have h15 : (c.apply content).getLsbD 15 =
      (c.direction == .halfDuplexRx || c.direction == .halfDuplexTx) :=
    (hbit 15 (by decide)).trans (c.getLsbD_encode 15)
  constructor
  · rw [h8, h2]
  · rw [h15, h10]
    cases c.direction <;> decide
  · rw [h14, h15]
    cases c.direction <;> decide

/-- A content survives decoding and applying exactly when it is canonical. -/
theorem apply_decode_eq_iff (content crcPolynomial : Word) :
    (decode content crcPolynomial).apply content = content ↔ Canonical content := by
  constructor
  · intro h
    rw [← h]
    exact canonical_apply _ _
  · rintro ⟨hselect, hsingle, houtput⟩
    apply BitVec.eq_of_getLsbD_eq
    intro i _
    rw [getLsbD_apply_decode]
    split
    · exact hselect.symm
    · cases h15 : content.getLsbD 15 with
      | false => exact Bool.and_true _
      | true =>
          have h10 : content.getLsbD 10 = false :=
            Bool.eq_false_iff.2 fun h10 => hsingle ⟨h15, h10⟩
          rw [h10, Bool.false_and]
    · cases h14 : content.getLsbD 14 with
      | false => exact Bool.false_and _
      | true => rw [houtput h14, Bool.and_true]
    · rfl

instance (content : Word) : Decidable (Canonical content) :=
  decidable_of_iff _ (apply_decode_eq_iff content 0)

-- a single line that is said to be receive only too
example : ¬ Canonical 0x8400 := by decide

/-- The canonical contents are those that some configuration leaves. -/
theorem canonical_iff_exists_apply (content : Word) :
    Canonical content ↔ ∃ (c : Config) (other : Word), content = c.apply other := by
  constructor
  · intro h
    exact ⟨decode content 0, content, ((apply_decode_eq_iff content 0).2 h).symm⟩
  · rintro ⟨c, other, rfl⟩
    exact canonical_apply c other

end Config

/-! ## Over the port -/

namespace Port

open PlainRegisters

variable {σ : Type} [Device σ] [PlainRegisters σ]

theorem result_readField {kind : FieldKind} (field : Field kind) (s : σ) :
    ((readField field).run s).result = field.read (content s field.register) := by
  rw [← read_fst]
  rfl

theorem result_config (s : σ) : (config.run s).result = Config.stored (content s) := by
  have h := Operation.result_config s
  rw [Operation.program, Program.run_map] at h
  exact Reply.config.inj h

/-- Between the two states the configuration was stored, and the enable bit and the two CRC control
bits were left alone. -/
structure Configured (c : Config) (before after : σ) : Prop where
  config : (config.run after).result = c
  isEnabled : (isEnabled.run after).result = (isEnabled.run before).result
  crcNext : Control1.crcNext.read (content after .control1) =
    Control1.crcNext.read (content before .control1)
  crcEnabled : Control1.crcEnabled.read (content after .control1) =
    Control1.crcEnabled.read (content before .control1)

/-- What storing a configuration makes of the plain registers. -/
theorem content_configure (c : Config) (s : σ) :
    content ((configure c).run s).state .control1 = c.apply (content s .control1) ∧
      content ((configure c).run s).state .crcPolynomial = c.crcPolynomial := by
  have hquiet : (Device.read s .control1).2 = s := read_plain s (by decide)
  have hstate : ((configure c).run s).state =
      Device.write (Device.write s .control1 (c.apply (content s .control1))) .crcPolynomial
        c.crcPolynomial := by
    simp [configure, hquiet, read_fst]
  rw [hstate]
  constructor
  · rw [content_write _ _ (by decide) (by decide), content_write _ _ (by decide) (by decide)]
    rfl
  · rw [content_write _ _ (by decide) (by decide)]
    rfl

theorem configured_configure (c : Config) (s : σ) : Configured c s ((configure c).run s).state := by
  obtain ⟨hcontrol, hpolynomial⟩ := content_configure c s
  have hkept : ∀ field : Field .flag, Config.preserveMask.getLsbD field.offset = true →
      field.read (c.apply (content s .control1)) = field.read (content s .control1) := by
    intro field hfield
    rw [Field.read_flag, Field.read_flag, Config.getLsbD_apply, if_pos hfield]
  refine ⟨?_, ?_, ?_, ?_⟩
  · rw [result_config, Config.stored, hcontrol, hpolynomial, Config.decode_apply]
  · rw [isEnabled, result_readField, result_readField]
    change Control1.enabled.read (content _ .control1) = _
    rw [hcontrol]
    exact hkept Control1.enabled (by decide)
  · rw [hcontrol]
    exact hkept Control1.crcNext (by decide)
  · rw [hcontrol]
    exact hkept Control1.crcEnabled (by decide)

/-- Reading the configuration and storing it again applies it to the content it was read from. -/
theorem content_configure_config (s : σ) :
    content ((config >>= configure).run s).state .control1 =
        (Config.stored (content s)).apply (content s .control1) ∧
      content ((config >>= configure).run s).state .crcPolynomial = content s .crcPolynomial := by
  have hcontrol : (Device.read s .control1).2 = s := read_plain s (by decide)
  have hpolynomial : (Device.read s .crcPolynomial).2 = s := read_plain s (by decide)
  have hquiet : (config.run s).state = s := by
    simp [config, hcontrol, hpolynomial]
  have hstate : ((config >>= configure).run s).state =
      ((configure (Config.stored (content s))).run s).state := by
    rw [Program.run_bind, ← result_config]
    simp only [hquiet]
  rw [hstate]
  exact content_configure _ s

/-- To do so changes nothing exactly when the content is canonical. -/
theorem content_configure_config_eq_iff (s : σ) :
    content ((config >>= configure).run s).state .control1 = content s .control1 ↔
      Config.Canonical (content s .control1) := by
  rw [(content_configure_config s).1]
  exact Config.apply_decode_eq_iff _ _

end Port

/-! ## Both ways round -/

/-- Whatever control register 1 holds, and whatever state a simulated peripheral or the registers in
memory are in: a configuration that is applied is decoded again; it keeps three bits of the content
and determines all others; a later configuration leaves nothing of an earlier one; and a
configuration that is stored over the port is read back, with enable and CRC control as before. -/
theorem configuration_round_trip (c : Config) :
    (∀ content : Word,
      Config.decode (c.apply content) c.crcPolynomial = c ∧
      c.apply content &&& Config.preserveMask = content &&& Config.preserveMask ∧
      c.apply content &&& ~~~Config.preserveMask = c.encode &&& ~~~Config.preserveMask ∧
      c.apply (content &&& Config.preserveMask) = c.apply content ∧
      ∀ d : Config, d.apply (c.apply content) = d.apply content) ∧
    (∀ s : Simulator, Port.Configured c s ((Port.configure c).run s).state) ∧
    ∀ b : MemoryBlock, Port.Configured c b ((Port.configure c).run b).state := by
  refine ⟨?_, ?_, ?_⟩
  · intro content
    exact ⟨c.decode_apply content, c.apply_and_preserveMask content,
      c.apply_and_not_preserveMask content, c.apply_and_eq_apply content,
      fun d => c.apply_apply d content⟩
  · intro s
    exact Port.configured_configure c s
  · intro b
    exact Port.configured_configure c b

/-- Whatever control register 1 and the polynomial register hold: the configuration that is decoded
has the polynomial, nine bits of the content as they are, and the others made to fit. So to apply it
again, also over the port, changes nothing exactly when the content is canonical. The canonical
contents are those that some configuration leaves. To apply it a second time never changes
anything. -/
theorem configuration_of_content :
    (∀ content crcPolynomial : Word,
      let c := Config.decode content crcPolynomial
      (c.crcPolynomial = crcPolynomial ∧
        c.encode &&& 0x0abf = content &&& 0x0abf ∧
        c.encode.getLsbD 8 = content.getLsbD 2 ∧
        c.encode.getLsbD 15 = content.getLsbD 15 ∧
        (c.encode.getLsbD 14 = true ↔
          content.getLsbD 15 = true ∧ content.getLsbD 14 = true) ∧
        (c.encode.getLsbD 10 = true ↔
          content.getLsbD 10 = true ∧ content.getLsbD 15 = false) ∧
        c.encode &&& Config.preserveMask = 0) ∧
      (c.apply content = content ↔ Config.Canonical content) ∧
      (Config.Canonical content ↔ ∃ (d : Config) (other : Word), content = d.apply other) ∧
      (Config.decode (c.apply content) crcPolynomial).apply (c.apply content) = c.apply content ∧
      Config.decode (c.apply content) crcPolynomial = c) ∧
    (∀ s : Simulator,
      let after := ((Port.config >>= Port.configure).run s).state
      (after.peek .control1 = s.peek .control1 ↔ Config.Canonical (s.peek .control1)) ∧
        after.peek .crcPolynomial = s.peek .crcPolynomial) ∧
    ∀ b : MemoryBlock,
      let after := ((Port.config >>= Port.configure).run b).state
      (after.peek .control1 = b.peek .control1 ↔ Config.Canonical (b.peek .control1)) ∧
        after.peek .crcPolynomial = b.peek .crcPolynomial := by
  refine ⟨?_, ?_, ?_⟩
  · intro content crcPolynomial c
    have hagain : Config.decode (c.apply content) crcPolynomial = c := c.decode_apply content
    have h14 : c.encode.getLsbD 14 = (content.getLsbD 14 && content.getLsbD 15) :=
      Config.getLsbD_encode_decode content crcPolynomial 14
    have h10 : c.encode.getLsbD 10 = (content.getLsbD 10 && !content.getLsbD 15) :=
      Config.getLsbD_encode_decode content crcPolynomial 10
    refine ⟨⟨rfl, Config.encode_decode_and content crcPolynomial,
      Config.getLsbD_encode_decode content crcPolynomial 8,
      Config.getLsbD_encode_decode content crcPolynomial 15, ?_, ?_, c.encode_and_preserveMask⟩,
      Config.apply_decode_eq_iff content crcPolynomial, Config.canonical_iff_exists_apply content,
      ?_, hagain⟩
    · rw [h14, Bool.and_eq_true, and_comm]
    · rw [h10, Bool.and_eq_true, Bool.not_eq_true']
    · rw [hagain, Config.apply_apply]
  · intro s
    exact ⟨Port.content_configure_config_eq_iff s, (Port.content_configure_config s).2⟩
  · intro b
    exact ⟨Port.content_configure_config_eq_iff b, (Port.content_configure_config b).2⟩

end SpiController
