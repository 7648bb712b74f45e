import SpiController.Config.Setting
import SpiController.Proofs.BusTraffic
import SpiController.Proofs.Trace

/-!
# The order of settings

A configuration has nine parts, and a setting gives values to one of them, or to clock polarity and
phase together. Each part ends with the value given last (`Config.get_setAll`). In control
register 1 every part has bits to itself (`Config.Part.mask_and_mask`), which show its value
(`Config.encode_and_mask`). So settings change no bits but those of the parts that they set
(`Config.agreeOutside_encode_setAll`), and settings of different parts can be made in either order
(`Config.set_comm`).
-/

namespace SpiController

namespace Config

/-! ## Parts -/

/-- What a configuration consists of. -/
inductive Part where
  | direction
  | role
  | frameLength
  | polarity
  | phase
  | select
  | divider
  | bitOrder
  | crcPolynomial
  deriving DecidableEq, Repr

namespace Part

/-- The parts in the order in which a configuration lists them. -/
def all : List Part :=
  [direction, role, frameLength, polarity, phase, select, divider, bitOrder, crcPolynomial]

theorem mem_all (part : Part) : part ∈ all := by
  cases part <;> decide

/-- The values that a part takes. -/
@[reducible]
def Value : Part → Type
  | direction => Direction
  | role => Role
  | frameLength => FrameLength
  | polarity => Polarity
  | phase => Phase
  | select => SelectSource
  | divider => Divider
  | bitOrder => BitOrder
  | crcPolynomial => Word

/-- The bits of control register 1 that a value sets. The polynomial has a register of its own. -/
def bits : (part : Part) → part.Value → Word
  | direction, value => value.bits
  | role, value => value.bits
  | frameLength, value => value.bits
  | polarity, value => value.bits
  | phase, value => value.bits
  | select, value => value.bits
  | divider, value => value.bits
  | bitOrder, value => value.bits
  | crcPolynomial, _ => 0

/-- The bits of control register 1 that a part has to itself. -/
def mask : Part → Word
  | direction => 0xc400
  | role => 0x0104
  | frameLength => 0x0800
  | polarity => 0x0002
  | phase => 0x0001
  | select => 0x0200
  | divider => 0x0038
  | bitOrder => 0x0080
  | crcPolynomial => 0x0000

/-- The bits of some parts together. -/
def masks (parts : List Part) : Word :=
  parts.foldr (fun part rest => part.mask ||| rest) 0

theorem getLsbD_masks (parts : List Part) (i : Nat) :
    (masks parts).getLsbD i = parts.any fun part => part.mask.getLsbD i := by
  induction parts with
  | nil => exact BitVec.getLsbD_zero
  | cons part rest ih =>
      have hrest : (masks (part :: rest)).getLsbD i =
          (part.mask.getLsbD i || (masks rest).getLsbD i) := BitVec.getLsbD_or
      rw [hrest, ih, List.any_cons]

/-- A value sets bits of its part only. -/
theorem bits_and_not_mask (part : Part) (value : part.Value) :
    part.bits value &&& ~~~part.mask = 0 := by
  cases part with
  | crcPolynomial => exact BitVec.zero_and
  | direction | role | frameLength | polarity | phase | select | divider | bitOrder =>
      cases value <;> decide

theorem getLsbD_bits_of_mask {part : Part} {i : Nat} (h : part.mask.getLsbD i = false)
    (value : part.Value) : (part.bits value).getLsbD i = false := by
  by_cases hi : i < 16
  · have hbit : (part.bits value &&& ~~~part.mask).getLsbD i = false := by
      rw [bits_and_not_mask]
      exact BitVec.getLsbD_zero
    rw [BitVec.getLsbD_and, BitVec.getLsbD_not, h] at hbit
    simpa [hi] using hbit
  · exact BitVec.getLsbD_of_ge _ i (Nat.le_of_not_lt hi)

/-- Two parts share no bit. -/
theorem mask_and_mask {part other : Part} (h : part ≠ other) : part.mask &&& other.mask = 0 := by
  have hall : ∀ part ∈ all, ∀ other ∈ all, part ≠ other → part.mask &&& other.mask = 0 := by
    decide
  exact hall part part.mem_all other other.mem_all h

/-- A bit that a value sets is a bit of no other part. -/
theorem getLsbD_bits_of_ne {part other : Part} (h : other ≠ part) {i : Nat}
    (hi : part.mask.getLsbD i = true) (value : other.Value) :
    (other.bits value).getLsbD i = false := by
  apply getLsbD_bits_of_mask
  have hbit : (other.mask &&& part.mask).getLsbD i = false := by
    rw [mask_and_mask h]
    exact BitVec.getLsbD_zero
  rw [BitVec.getLsbD_and, hi, Bool.and_true] at hbit
  exact hbit

/-- No part has a bit that configurations keep. -/
theorem mask_and_preserveMask (part : Part) : part.mask &&& preserveMask = 0 := by
  cases part <;> decide

end Part

/-- The value of a part. -/
def get (c : Config) : (part : Part) → part.Value
  | .direction => c.direction
  | .role => c.role
  | .frameLength => c.frameLength
  | .polarity => c.polarity
  | .phase => c.phase
  | .select => c.select
  | .divider => c.divider
  | .bitOrder => c.bitOrder
  | .crcPolynomial => c.crcPolynomial

/-- Two configurations are equal when all of their parts are. -/
theorem ext_get {c d : Config} (h : ∀ part, c.get part = d.get part) : c = d := by
  cases c
  cases d
  rw [Config.mk.injEq]
  exact ⟨h .direction, h .role, h .frameLength, h .polarity, h .phase, h .select, h .divider,
    h .bitOrder, h .crcPolynomial⟩

/-- Each bit of control register 1 is set by one of the parts. -/
theorem getLsbD_encode_eq_any (c : Config) (i : Nat) :
    c.encode.getLsbD i = Part.all.any fun part => (part.bits (c.get part)).getLsbD i := by
  simp [encode, Part.all, Part.bits, get, Bool.or_assoc]

/-- Under the mask of a part control register 1 shows the value of that part. -/
theorem encode_and_mask (c : Config) (part : Part) :
    c.encode &&& part.mask = part.bits (c.get part) := by
  apply BitVec.eq_of_getLsbD_eq
  intro i _
  rw [BitVec.getLsbD_and, getLsbD_encode_eq_any]
  cases hmask : part.mask.getLsbD i with
  | false => rw [Bool.and_false, Part.getLsbD_bits_of_mask hmask]
  | true =>
      rw [Bool.and_true, Bool.eq_iff_iff, List.any_eq_true]
      constructor
      · rintro ⟨other, -, hother⟩
        by_cases h : other = part
        · rw [h] at hother
          exact hother
        · rw [Part.getLsbD_bits_of_ne h hmask] at hother
          cases hother
      · intro hbit
        exact ⟨part, part.mem_all, hbit⟩

end Config

/-! ## Settings -/

namespace Setting

open Config

/-- The value that a setting gives to a part. -/
def gives : Setting → (part : Part) → Option part.Value
  | .direction value, .direction => some value
  | .role value, .role => some value
  | .frameLength value, .frameLength => some value
  | .polarity value, .polarity => some value
  | .phase value, .phase => some value
  | .mode value, .polarity => some value.polarity
  | .mode value, .phase => some value.phase
  | .select value, .select => some value
  | .divider value, .divider => some value
  | .bitOrder value, .bitOrder => some value
  | .crcPolynomial value, .crcPolynomial => some value
  | _, _ => none

/-- The parts that a setting gives a value to. -/
def parts (setting : Setting) : List Part :=
  Part.all.filter fun part => (setting.gives part).isSome

/-- The value that a part is given last. -/
def lastGiven (settings : List Setting) (part : Part) : Option part.Value :=
  (settings.filterMap fun setting => setting.gives part).getLast?

theorem gives_of_notMem_parts {setting : Setting} {part : Part} (h : part ∉ setting.parts) :
    setting.gives part = none := by
  rw [← Option.not_isSome_iff_eq_none]
  intro hgives
  exact h (List.mem_filter.2 ⟨part.mem_all, hgives⟩)

theorem lastGiven_of_notMem_parts {settings : List Setting} {part : Part}
    (h : part ∉ settings.flatMap parts) : lastGiven settings part = none := by
  have hnone : settings.filterMap (fun setting => setting.gives part) = [] := by
    rw [List.filterMap_eq_nil_iff]
    intro setting hsetting
    apply gives_of_notMem_parts
    intro hpart
    exact h (List.mem_flatMap.2 ⟨setting, hsetting, hpart⟩)
  rw [lastGiven, hnone]
  rfl

end Setting

namespace Config

open Setting

/-- A setting gives parts their values, and keeps the others. -/
theorem get_set (c : Config) (setting : Setting) (part : Part) :
    (c.set setting).get part = (setting.gives part).getD (c.get part) := by
  cases setting <;> cases part <;> rfl

/-- A part has the value that it was given last, or the one at the start. -/
theorem get_setAll (c : Config) (settings : List Setting) (part : Part) :
    (c.setAll settings).get part = (lastGiven settings part).getD (c.get part) :=
  value_foldl_of_input set (fun c : Config => c.get part)
    (fun c setting _ => c.get_set setting part) (fun _ _ => trivial)

/-- Settings change no bits but those of the parts that they set. -/
theorem agreeOutside_encode_setAll (c : Config) (settings : List Setting) :
    AgreeOutside (Part.masks (settings.flatMap parts)) c.encode (c.setAll settings).encode := by
  apply agreeOutside_of_getLsbD
  intro i hi
  rw [Part.getLsbD_masks, List.any_eq_false] at hi
  have hparts : ∀ part : Part, (part.bits ((c.setAll settings).get part)).getLsbD i =
      (part.bits (c.get part)).getLsbD i := by
    intro part
    by_cases hset : part ∈ settings.flatMap parts
    · -- the part has been set, but the bit is not one of its own
      have hother : part.mask.getLsbD i = false := Bool.eq_false_iff.2 (hi part hset)
      rw [Part.getLsbD_bits_of_mask hother, Part.getLsbD_bits_of_mask hother]
    · rw [get_setAll, lastGiven_of_notMem_parts hset]
      rfl
  simp only [getLsbD_encode_eq_any, hparts]

/-- Settings of different parts can be made in either order. -/
theorem set_comm (c : Config) {first second : Setting}
    (h : first.parts.Disjoint second.parts) :
    (c.set first).set second = (c.set second).set first := by
  apply ext_get
  intro part
  rw [get_set, get_set, get_set, get_set]
  by_cases hfirst : part ∈ first.parts
  · rw [gives_of_notMem_parts (h hfirst)]
    rfl
  · rw [gives_of_notMem_parts hfirst]
    rfl

theorem setAll_append (c : Config) (earlier later : List Setting) :
    c.setAll (earlier ++ later) = (c.setAll earlier).setAll later :=
  List.foldl_append

/-- Two neighbouring settings of different parts can be exchanged. -/
theorem setAll_exchange (c : Config) (earlier later : List Setting) {first second : Setting}
    (h : first.parts.Disjoint second.parts) :
    c.setAll (earlier ++ first :: second :: later) =
      c.setAll (earlier ++ second :: first :: later) := by
  simp only [setAll_append, setAll_cons]
  rw [set_comm _ h]

/-- Settings act on their own parts, and on the bits of these parts, only. After any settings each
part has the value that it was given last, or the one at the start; mode gives polarity and phase
and is read back from them. The bits of control register 1 outside the masks of the parts that were
set are as they were, and under the mask of a part they show its value. The masks are disjoint, keep
clear of the bits that configurations keep, and together with these make up the whole register. So
neighbouring settings of different parts can be exchanged. -/
theorem settings_keep_to_their_parts (c : Config) (settings : List Setting) :
    (∀ part, (c.setAll settings).get part = (lastGiven settings part).getD (c.get part)) ∧
    (c.setAll settings).mode =
      ⟨(lastGiven settings .polarity).getD c.polarity, (lastGiven settings .phase).getD c.phase⟩ ∧
    (∀ mode, (c.setAll (settings ++ [.mode mode])).mode = mode) ∧
    AgreeOutside (Part.masks (settings.flatMap parts)) c.encode (c.setAll settings).encode ∧
    (∀ part : Part, (c.setAll settings).encode &&& part.mask =
      part.bits ((lastGiven settings part).getD (c.get part))) ∧
    Part.all.map (fun part => (part, part.mask)) =
      [(.direction, 0xc400), (.role, 0x0104), (.frameLength, 0x0800), (.polarity, 0x0002),
        (.phase, 0x0001), (.select, 0x0200), (.divider, 0x0038), (.bitOrder, 0x0080),
        (.crcPolynomial, 0)] ∧
    (∀ part other : Part, part ≠ other → part.mask &&& other.mask = 0) ∧
    (∀ part : Part, part.mask &&& preserveMask = 0) ∧
    Part.masks Part.all ||| preserveMask = BitVec.allOnes 16 ∧
    ∀ earlier first second later, settings = earlier ++ first :: second :: later →
      first.parts.Disjoint second.parts →
        c.setAll (earlier ++ second :: first :: later) = c.setAll settings ∧
        (c.setAll (earlier ++ second :: first :: later)).encode = (c.setAll settings).encode := by
  refine ⟨c.get_setAll settings, ?_, ?_, c.agreeOutside_encode_setAll settings, ?_, rfl,
    fun _ _ => Part.mask_and_mask, Part.mask_and_preserveMask, by decide, ?_⟩
  · have hpolarity := c.get_setAll settings .polarity
    have hphase := c.get_setAll settings .phase
    exact congrArg₂ Mode.mk hpolarity hphase
  · intro mode
    rw [setAll_append]
    exact mode_set_mode _ mode
  · intro part
    rw [encode_and_mask, get_setAll]
  · rintro earlier first second later rfl h
    have hexchange := c.setAll_exchange earlier later h
    exact ⟨hexchange.symm, congrArg encode hexchange.symm⟩

/-- A sender on a single line becomes a master in mode 1, first by way of mode 3. -/
theorem settings_of_master_on_single_line :
    let c : Config := { direction := .halfDuplexTx }
    let settings : List Setting :=
      [.mode .mode3, .role .master, .divider .div8, .polarity .idleLow]
    (c.setAll settings).get .polarity = .idleLow ∧
      (c.setAll settings).get .direction = .halfDuplexTx ∧
      (c.setAll settings).mode = .mode1 ∧
      AgreeOutside 0x013f 0xc000 (c.setAll settings).encode ∧
      (c.setAll settings).encode &&& 0x0038 = 0x0010 ∧
      (Setting.role .master).parts.Disjoint (Setting.divider .div8).parts ∧
      (c.setAll [.mode .mode3, .divider .div8, .role .master, .polarity .idleLow]).encode =
        (c.setAll settings).encode := by
  intro c settings
  obtain ⟨hget, hmode, -, hkept, hshown, -, -, -, -, hexchange⟩ :=
    settings_keep_to_their_parts c settings
  have hmasks : Part.masks (settings.flatMap parts) = 0x013f := by decide
  have hencode : c.encode = 0xc000 := by decide
  have hapart : ∀ part ∈ (Setting.role .master).parts, part ∉ (Setting.divider .div8).parts := by
    decide
  have hdisjoint : (Setting.role .master).parts.Disjoint (Setting.divider .div8).parts :=
    fun part hrole hdivider => hapart part hrole hdivider
  rw [hmasks, hencode] at hkept
  exact ⟨hget .polarity, hget .direction, hmode, hkept, hshown .divider, hdisjoint,
    (hexchange [.mode .mode3] _ _ [.polarity .idleLow] rfl hdisjoint).2⟩

end Config

end SpiController
