import Mathlib.Data.List.Nodup
import Mathlib.Data.List.Pairwise
import SpiController.Status

/-!
# The fields of a register

A register is declared as a list of segments from the least significant bit up, each of them a field
or a number of reserved bits. `Packed` says that the segments follow one another without a gap and
fill the register. Then two fields share no bit (`Packed.pairwise_disjoint`), and every bit belongs
to a field or is reserved (`Packed.covers_or_reserved`), so that a content is known from its fields
and its reserved bits (`Packed.eq_of_read_eq`). The laws of fields hold in every packed declaration
(`Packed.fieldLaws`), and the seven registers have one (`Address.packed_declaration`).
-/

namespace SpiController

/-! ## Single fields -/

/-- Fields that start at different bits are different. -/
theorem AnyField.ne_of_offset_ne {f g : AnyField} (h : f.2.offset ≠ g.2.offset) : f ≠ g := by
  rintro rfl
  exact h rfl

/-- A bit of a field is a bit of its value. -/
theorem Field.getLsbD_of_covers {kind : FieldKind} (f : Field kind) {content : Word} {i : Nat}
    (h : f.Covers i) :
    content.getLsbD i = (kind.encode (f.read content)).getLsbD (i - f.offset) := by
  have hwrite := f.getLsbD_write (f.read content) content i
  rwa [write_read, if_pos h] at hwrite

/-! ## Declarations -/

/-- A part of a register. -/
inductive Segment where
  | field (f : AnyField)
  | reserved (width : Nat)

/-- The segments of a register, from the least significant bit up. -/
abbrev Declaration := List Segment

namespace Declaration

/-- The fields, in declared order. -/
def fields : Declaration → List AnyField
  | [] => []
  | .field f :: rest => f :: fields rest
  | .reserved _ :: rest => fields rest

/-- The reserved bits of segments of which the first one starts at bit `start`. -/
def reservedBits : Declaration → Nat → List Nat
  | [], _ => []
  | .field f :: rest, start => reservedBits rest (start + f.1.width)
  | .reserved width :: rest, start => List.range' start width ++ reservedBits rest (start + width)

theorem le_of_mem_reservedBits {d : Declaration} {start i : Nat} (h : i ∈ reservedBits d start) :
    start ≤ i := by
  induction d generalizing start with
  | nil => cases h
  | cons segment rest ih =>
      cases segment with
      | field f => exact Nat.le_of_add_right_le (ih h)
      | reserved width =>
          rcases List.mem_append.1 h with h | h
          · exact (List.mem_range'_1.1 h).1
          · exact Nat.le_of_add_right_le (ih h)

/-- The first segment starts at bit `start`, every other one where the segment before it ends, and
the last one ends the register. -/
inductive Packed : Nat → Declaration → Prop where
  | nil : Packed 16 []
  | field {start : Nat} {f : AnyField} {rest : Declaration} (here : f.2.offset = start)
      (next : Packed (start + f.1.width) rest) : Packed start (.field f :: rest)
  | reserved {start width : Nat} {rest : Declaration} (next : Packed (start + width) rest) :
      Packed start (.reserved width :: rest)

namespace Packed

variable {start : Nat} {d : Declaration}

theorem le_offset (h : Packed start d) {f : AnyField} (hf : f ∈ fields d) :
    start ≤ f.2.offset := by
  induction h with
  | nil => cases hf
  | field here next ih =>
      rcases List.mem_cons.1 hf with rfl | hf
      · exact Nat.le_of_eq here.symm
      · exact Nat.le_of_add_right_le (ih hf)
  | reserved next ih => exact Nat.le_of_add_right_le (ih hf)

/-- Of two fields the one declared first ends before the other starts. -/
theorem pairwise_disjoint (h : Packed start d) :
    (fields d).Pairwise fun f g => f.2.Disjoint g.2 := by
  induction h with
  | nil => exact .nil
  | field here next ih =>
      rw [← here] at next
      exact .cons (fun g hg => .inl (next.le_offset hg)) ih
  | reserved next ih => exact ih

/-- Every bit belongs to a field or is reserved. -/
theorem covers_or_reserved (h : Packed start d) {i : Nat} (hstart : start ≤ i) (hi : i < 16) :
    (∃ f ∈ fields d, f.2.Covers i) ∨ i ∈ reservedBits d start := by
  induction h with
  | nil => omega
  | @field start f rest here next ih =>
      by_cases hwithin : i < start + f.1.width
      · rw [← here] at hstart hwithin
        exact .inl ⟨f, List.mem_cons_self, hstart, hwithin⟩
      · rcases ih (Nat.le_of_not_lt hwithin) with ⟨g, hg, hcovers⟩ | hreserved
        · exact .inl ⟨g, List.mem_cons_of_mem _ hg, hcovers⟩
        · exact .inr hreserved
  | @reserved start width rest next ih =>
      by_cases hwithin : i < start + width
      · exact .inr (List.mem_append_left _ (List.mem_range'_1.2 ⟨hstart, hwithin⟩))
      · rcases ih (Nat.le_of_not_lt hwithin) with hfield | hreserved
        · exact .inl hfield
        · exact .inr (List.mem_append_right _ hreserved)

/-- No field has a reserved bit. -/
theorem not_covers_of_mem_reservedBits (h : Packed start d) {i : Nat}
    (hi : i ∈ reservedBits d start) {f : AnyField} (hf : f ∈ fields d) : ¬ f.2.Covers i := by
  induction h with
  | nil => cases hf
  | @field start g rest here next ih =>
      have hrest : i ∈ reservedBits rest (start + g.1.width) := hi
      rcases List.mem_cons.1 hf with rfl | hf
      · have hafter := le_of_mem_reservedBits hrest
        rw [Field.Covers]
        omega
      · exact ih hrest hf
  | reserved next ih =>
      rcases List.mem_append.1 hi with hi | hi
      · have hbefore := (List.mem_range'_1.1 hi).2
        have hfield := next.le_offset hf
        rw [Field.Covers]
        omega
      · exact ih hi hf

/-- Two different fields share no bit. -/
theorem disjoint (h : Packed start d) {f g : AnyField} (hf : f ∈ fields d) (hg : g ∈ fields d)
    (hne : f ≠ g) : f.2.Disjoint g.2 := by
  have hsymm : Std.Symm fun f g : AnyField => f.2.Disjoint g.2 := ⟨fun _ _ => Or.symm⟩
  exact h.pairwise_disjoint.forall hf hg hne

theorem nodup_fields (h : Packed start d) : (fields d).Nodup := by
  refine h.pairwise_disjoint.imp fun {f g} hdisjoint heq => ?_
  -- a field has a bit, and so is not apart from itself
  have hwidth : 0 < f.1.width := by cases f.1 <;> decide
  rw [heq, Field.Disjoint] at hdisjoint
  rw [heq] at hwidth
  omega

/-- Contents with the same fields and the same reserved bits are the same. -/
theorem eq_of_read_eq (h : Packed 0 d) {content other : Word}
    (hfields : ∀ f ∈ fields d, f.2.read content = f.2.read other)
    (hreserved : ∀ i ∈ reservedBits d 0, content.getLsbD i = other.getLsbD i) :
    content = other := by
  apply BitVec.eq_of_getLsbD_eq
  intro i hi
  rcases h.covers_or_reserved (Nat.zero_le i) hi with ⟨f, hf, hcovers⟩ | hbit
  · rw [f.2.getLsbD_of_covers hcovers, f.2.getLsbD_of_covers hcovers, hfields f hf]
  · exact hreserved i hbit

end Packed

end Declaration

/-! ## Steps -/

open Declaration

/-- A value for a field of a register. -/
structure FieldStep (d : Declaration) where
  field : AnyField
  declared : field ∈ fields d
  value : field.1.Value

namespace FieldStep

variable {d : Declaration}

/-- The content with the value in the field. -/
def apply (content : Word) (step : FieldStep d) : Word :=
  step.field.2.write step.value content

/-- Steps on different fields can be made in either order. -/
theorem apply_comm (h : Packed 0 d) {step other : FieldStep d} (hne : step.field ≠ other.field)
    (content : Word) :
    other.apply (step.apply content) = step.apply (other.apply content) :=
  Field.write_comm_of_disjoint (h.disjoint step.declared other.declared hne) _ _ content

/-- Steps on different fields can be made in any order. -/
theorem foldl_apply_perm (h : Packed 0 d) {steps other : List (FieldStep d)}
    (hfields : (steps.map (·.field)).Nodup) (hperm : steps.Perm other) (content : Word) :
    steps.foldl apply content = other.foldl apply content := by
  apply hperm.foldl_eq'
  intro first hfirst second hsecond content
  by_cases hsame : first = second
  · rw [hsame]
  · apply apply_comm h
    intro hfield
    exact hsame (List.inj_on_of_nodup_map hfields hfirst hsecond hfield)

/-- A step keeps the bits that its field does not have. -/
theorem getLsbD_apply_of_not_covers {step : FieldStep d} {i : Nat} (h : ¬ step.field.2.Covers i)
    (content : Word) : (step.apply content).getLsbD i = content.getLsbD i := by
  rw [apply, Field.getLsbD_write, if_neg h]

theorem getLsbD_foldl_apply (h : Packed 0 d) {i : Nat} (hi : i ∈ reservedBits d 0)
    (steps : List (FieldStep d)) (content : Word) :
    (steps.foldl apply content).getLsbD i = content.getLsbD i := by
  induction steps generalizing content with
  | nil => rfl
  | cons step rest ih =>
      have hstep := h.not_covers_of_mem_reservedBits hi step.declared
      rw [List.foldl_cons, ih, getLsbD_apply_of_not_covers hstep]

/-- A field that no step gives a value keeps the one that it has. -/
theorem read_foldl_apply_of_notMem (h : Packed 0 d) {f : AnyField} (hf : f ∈ fields d)
    {steps : List (FieldStep d)} (hsteps : f ∉ steps.map (·.field)) (content : Word) :
    f.2.read (steps.foldl apply content) = f.2.read content := by
  induction steps generalizing content with
  | nil => rfl
  | cons step rest ih =>
      rw [List.map_cons, List.mem_cons, not_or] at hsteps
      have hdisjoint := h.disjoint step.declared hf (Ne.symm hsteps.1)
      rw [List.foldl_cons, ih hsteps.2, apply, Field.read_write_of_disjoint hdisjoint]

/-- After steps on different fields, each of these fields has the value that its step gave it. -/
theorem read_foldl_apply (h : Packed 0 d) {steps : List (FieldStep d)}
    (hfields : (steps.map (·.field)).Nodup) {step : FieldStep d} (hstep : step ∈ steps)
    (content : Word) : step.field.2.read (steps.foldl apply content) = step.value := by
  induction steps generalizing content with
  | nil => cases hstep
  | cons first rest ih =>
      rw [List.map_cons, List.nodup_cons] at hfields
      rw [List.foldl_cons]
      rcases List.mem_cons.1 hstep with rfl | hstep
      · -- the steps after it are on other fields
        rw [read_foldl_apply_of_notMem h step.declared hfields.1, apply, Field.read_write]
      · exact ih hfields.2 hstep _

end FieldStep

namespace Declaration

/-- The steps that give every field the value that it has in a content. -/
def values (d : Declaration) (content : Word) : List (FieldStep d) :=
  (fields d).attach.map fun f => ⟨f.1, f.2, f.1.2.read content⟩

theorem map_field_values (d : Declaration) (content : Word) :
    (values d content).map (·.field) = fields d := by
  rw [values, List.map_map]
  exact List.attach_map_subtype_val (fields d)

/-- The values of the fields, put onto the reserved bits, make up the content. -/
theorem Packed.foldl_apply_values {d : Declaration} (h : Packed 0 d) {content start : Word}
    (hstart : ∀ i ∈ reservedBits d 0, start.getLsbD i = content.getLsbD i) :
    (values d content).foldl FieldStep.apply start = content := by
  apply h.eq_of_read_eq
  · intro f hf
    have hnodup : ((values d content).map (·.field)).Nodup := by
      rw [map_field_values]
      exact h.nodup_fields
    have hstep : ⟨f, hf, f.2.read content⟩ ∈ values d content :=
      List.mem_map.2 ⟨⟨f, hf⟩, List.mem_attach _ _, rfl⟩
    exact FieldStep.read_foldl_apply h hnodup hstep start
  · intro i hi
    rw [FieldStep.getLsbD_foldl_apply h hi]
    exact hstart i hi

/-- The laws of the fields of a register, at one content of it. -/
structure FieldLaws (d : Declaration) (content : Word) : Prop where
  /-- A field reads back the value that it was given. -/
  reads_back : ∀ f ∈ fields d, ∀ value : f.1.Value,
    f.2.read (f.2.write value content) = value
  /-- Every other field keeps its value. -/
  keeps_others : ∀ f ∈ fields d, ∀ g ∈ fields d, g ≠ f → ∀ value : f.1.Value,
    g.2.read (f.2.write value content) = g.2.read content
  /-- Every reserved bit is kept. -/
  keeps_reserved : ∀ f ∈ fields d, ∀ value : f.1.Value, ∀ i ∈ reservedBits d 0,
    (f.2.write value content).getLsbD i = content.getLsbD i
  /-- A later value absorbs an earlier one. -/
  absorbed : ∀ f ∈ fields d, ∀ first second : f.1.Value,
    f.2.write second (f.2.write first content) = f.2.write second content
  /-- The value that a field has can be given to it again. -/
  unchanged : ∀ f ∈ fields d, f.2.write (f.2.read content) content = content
  /-- Steps on different fields can be made in any order. -/
  any_order : ∀ steps other : List (FieldStep d), (steps.map (·.field)).Nodup →
    steps.Perm other → steps.foldl FieldStep.apply content = other.foldl FieldStep.apply content
  /-- Taken apart into the values of its fields and the reserved bits, a content can be put
  together again. -/
  assembled : ∀ start : Word,
    (∀ i ∈ reservedBits d 0, start.getLsbD i = content.getLsbD i) →
      (values d content).foldl FieldStep.apply start = content

theorem Packed.fieldLaws {d : Declaration} (h : Packed 0 d) (content : Word) :
    FieldLaws d content where
  reads_back f _ value := f.2.read_write value content
  keeps_others f hf g hg hne value :=
    Field.read_write_of_disjoint (h.disjoint hf hg (Ne.symm hne)) value content
  keeps_reserved f hf value i hi := by
    rw [Field.getLsbD_write, if_neg (h.not_covers_of_mem_reservedBits hi hf)]
  absorbed f _ first second := f.2.write_write first second content
  unchanged f _ := f.2.write_read content
  any_order _ _ hfields hperm := FieldStep.foldl_apply_perm h hfields hperm content
  assembled _ hstart := h.foldl_apply_values hstart

end Declaration

/-! ## The seven registers -/

namespace Address

/-- The registers as they are declared. -/
def declaration : Address → Declaration
  | .control1 => Control1.fields.map .field
  | .control2 =>
      [.field ⟨_, Control2.rxDma⟩, .field ⟨_, Control2.txDma⟩, .field ⟨_, Control2.selectOutput⟩,
        .reserved 2, .field ⟨_, Control2.errorInterrupt⟩,
        .field ⟨_, Control2.rxNotEmptyInterrupt⟩, .field ⟨_, Control2.txEmptyInterrupt⟩,
        .reserved 8]
  | .status => StatusRegister.fields.map .field ++ [.reserved 8]
  | .data => [.field ⟨_, WholeWord.data⟩]
  | .crcPolynomial => [.field ⟨_, WholeWord.polynomial⟩]
  | .rxCrc => [.field ⟨_, WholeWord.rxCrc⟩]
  | .txCrc => [.field ⟨_, WholeWord.txCrc⟩]

theorem fields_declaration (address : Address) : address.declaration.fields = address.fields := by
  cases address <;> rfl

theorem packed_declaration (address : Address) : Packed 0 address.declaration := by
  cases address with
  | control1 =>
      exact .field rfl <| .field rfl <| .field rfl <| .field rfl <| .field rfl <| .field rfl <|
        .field rfl <| .field rfl <| .field rfl <| .field rfl <| .field rfl <| .field rfl <|
        .field rfl <| .field rfl .nil
  | control2 =>
      exact .field rfl <| .field rfl <| .field rfl <| .reserved <| .field rfl <| .field rfl <|
        .field rfl <| .reserved .nil
  | status =>
      exact .field rfl <| .field rfl <| .field rfl <| .field rfl <| .field rfl <| .field rfl <|
        .field rfl <| .field rfl <| .reserved .nil
  | data | crcPolynomial | rxCrc | txCrc => exact .field rfl .nil

end Address

/-- The field of the status register that shows a flag. -/
def StatusFlag.field : StatusFlag → Field .flag
  | .rxNotEmpty => StatusRegister.rxNotEmpty
  | .txEmpty => StatusRegister.txEmpty
  | .sideChannel => StatusRegister.sideChannel
  | .underrun => StatusRegister.underrun
  | .crcError => StatusRegister.crcError
  | .modeFault => StatusRegister.modeFault
  | .overrun => StatusRegister.overrun
  | .busy => StatusRegister.busy

theorem Status.isSet_eq_read (s : Status) (flag : StatusFlag) :
    s.isSet flag = flag.field.read s.bits := by
  have hoffset : flag.field.offset = flag.position := by cases flag <;> rfl
  rw [isSet_eq_getLsbD, Field.read_flag, hoffset]

/-- The divider is read from a byte of which the three low bits count. -/
theorem Control1.read_divider (content : Word) :
    divider.read content = Divider.ofByte ((content >>> 3).setWidth 8) := by
  have hbits : ((content >>> 3).setWidth 8).setWidth 3 = content.extractLsb' 3 3 := by
    apply BitVec.eq_of_getLsbD_eq
    intro i hi
    simp [hi]
  rw [Divider.ofByte, hbits]
  rfl

/-- The registers obey the laws of fields. Each of the seven is filled by its segments, in declared
order from the least significant bit up, and at every content of it the laws hold for each of its
fields, whether or not a driver may write it. Control register 1 has 14 fields, and nothing else.
The divider among them is read from a byte of which the three low bits count. Each status flag has
the field of its name in the status register, and a reading shows the flag when the field is set. -/
theorem registers_obey_field_laws :
    (∀ address : Address, address.declaration.fields = address.fields ∧
      Packed 0 address.declaration ∧ ∀ content, FieldLaws address.declaration content) ∧
    (Control1.fields.length = 14 ∧ ∀ content other : Word,
      (∀ f ∈ Control1.fields, f.2.read content = f.2.read other) → content = other) ∧
    (∀ content, Control1.divider.read content = Divider.ofByte ((content >>> 3).setWidth 8)) ∧
    (StatusRegister.fields =
        (Labelled.all : List StatusFlag).map fun flag => ⟨.flag, flag.field⟩) ∧
    ((Labelled.all : List StatusFlag).map fun flag => (Labelled.label flag, flag.field.name)) =
      [("RxNotEmpty", "rx_not_empty"), ("TxEmpty", "tx_empty"), ("SideChannel", "side_channel"),
        ("Underrun", "underrun"), ("CrcError", "crc_error"), ("ModeFault", "mode_fault"),
        ("Overrun", "overrun"), ("Busy", "busy")] ∧
    ∀ (s : Status) (flag : StatusFlag), s.isSet flag = flag.field.read s.bits := by
  refine ⟨?_, ⟨rfl, ?_⟩, Control1.read_divider, rfl, rfl, Status.isSet_eq_read⟩
  · intro address
    exact ⟨address.fields_declaration, address.packed_declaration,
      address.packed_declaration.fieldLaws⟩
  · intro content other hfields
    apply Address.control1.packed_declaration.eq_of_read_eq
    · rw [Address.control1.fields_declaration]
      exact hfields
    · -- no bit of the register is reserved
      intro i hi
      cases hi

/-- Two steps on control register 2 with every reserved bit set, and the enable bit found from the
fields of control register 1. -/
theorem steps_between_reserved_bits :
    let dma : FieldStep Address.control2.declaration :=
      ⟨⟨_, Control2.txDma⟩, .tail _ (.head _), true⟩
    let interrupt : FieldStep Address.control2.declaration :=
      ⟨⟨_, Control2.errorInterrupt⟩, .tail _ (.tail _ (.tail _ (.head _))), true⟩
    [dma, interrupt].foldl FieldStep.apply 0xff18 =
        [interrupt, dma].foldl FieldStep.apply 0xff18 ∧
      [interrupt, dma].foldl FieldStep.apply 0xff18 = 0xff3a ∧
      Control2.selectOutput.read (dma.apply 0xff1c) = true ∧
      (dma.apply 0xff18).getLsbD 4 = true ∧
      (values Address.control2.declaration 0xff3a).foldl FieldStep.apply 0xff18 = 0xff3a ∧
      Control1.enabled.write true 0 = 0x0040 := by
  intro dma interrupt
  obtain ⟨hregisters, ⟨-, hcontrol1⟩, -⟩ := registers_obey_field_laws
  obtain ⟨-, -, hlaws⟩ := hregisters .control2
  have happart : dma.field ≠ interrupt.field := AnyField.ne_of_offset_ne (by decide)
  have hnodup : ([dma, interrupt].map (·.field)).Nodup := by simp [happart]
  have hselect := (hlaws 0xff1c).keeps_others _ dma.declared ⟨_, Control2.selectOutput⟩
    (.tail _ (.tail _ (.head _))) (AnyField.ne_of_offset_ne (by decide)) true
  have hreserved := (hlaws 0xff18).keeps_reserved _ dma.declared true 4 (by decide)
  have hfields : ∀ f ∈ Control1.fields,
      f.2.read (Control1.enabled.write true 0) = f.2.read 0x0040 := by
    simp only [Control1.fields, List.forall_mem_cons]
    exact ⟨rfl, rfl, rfl, rfl, rfl, rfl, rfl, rfl, rfl, rfl, rfl, rfl, rfl, rfl,
      List.forall_mem_nil _⟩
  exact ⟨(hlaws 0xff18).any_order _ _ hnodup (.swap _ _ []), by decide, hselect, hreserved,
    (hlaws 0xff3a).assembled 0xff18 (by decide), hcontrol1 _ _ hfields⟩

end SpiController
