import Mathlib.Data.List.Forall2
import SpiController.Proofs.BusDiscipline
import SpiController.Proofs.Trace
import SpiController.Session.Memory

/-!
# The upper halves of the slots

A register in memory is the low half of its slot. Nothing that is done with the registers can tell
what the upper halves hold: two blocks with the same registers answer alike, show the same text and
take the same accesses, and they go on having the same registers. This is one law about programs on
two devices (`agrees_ofRun`), since the port is used by programs and the text of a block is read by
one. Within one run, a slot holds the last word written to it with zeros above, and what it held at
the start if nothing was written (`get_foldl_apply`).
-/

namespace SpiController.MemoryBlock

/-! ## Using registers in memory -/

/-- What is done with registers in memory. A program is any finite series of accesses, such as an
operation of the port, a read or a write past it, or a modification by whatever function. -/
inductive Use where
  | run (program : Program Reply)
  /-- Show the block as text, which reads three of its registers. -/
  | print

/-- The report on one use of the registers. -/
def use (peripheral : Peripheral) (b : MemoryBlock) : Use → Report MemoryBlock
  | .run program => .ofRun .reply (.chip peripheral) (program.run b)
  | .print => .ofRun .text (.chip peripheral) (description.run b)

/-- The reports on uses of the registers, one after the other. -/
def uses (peripheral : Peripheral) (b : MemoryBlock) (list : List Use) :
    List (Report MemoryBlock) :=
  Report.session (use peripheral) b list

/-- The registers after uses, one after the other. -/
def afterUses (peripheral : Peripheral) (b : MemoryBlock) (list : List Use) : MemoryBlock :=
  list.foldl (fun b u => (b.use peripheral u).state) b

/-! ## Two blocks -/

/-- The two blocks hold the same registers. Their upper halves may differ. -/
def SameRegisters (b c : MemoryBlock) : Prop :=
  ∀ address, b.peek address = c.peek address

/-- The two reports agree in all that they show, and on the registers afterwards. -/
structure Agrees (first second : Report MemoryBlock) : Prop where
  answer : first.answer = second.answer
  accesses : first.accesses = second.accesses
  direct : first.direct = second.direct
  signals : first.signals = second.signals
  registers : first.state.SameRegisters second.state

theorem indistinct_sameRegisters : Program.Indistinct SameRegisters where
  word h address := h address
  read h _ := h
  write := by
    intro b c h address value register
    rw [device_write, device_write, peek_write, peek_write, h register]

/-- A program does not see the upper halves, whatever kind of answer its result is. -/
theorem agrees_ofRun {α : Type} (answer : α → Answer) (driven : Instance) (program : Program α)
    {b c : MemoryBlock} (h : b.SameRegisters c) :
    Agrees (.ofRun answer driven (program.run b)) (.ofRun answer driven (program.run c)) := by
  have hruns := indistinct_sameRegisters.run program h
  exact {
    answer := congrArg (fun result => Except.ok (answer result)) hruns.result
    accesses := hruns.accesses
    direct := rfl
    signals := congrArg (List.map _) hruns.signals
    registers := hruns.state }

theorem Agrees.pastInstance {first second : Report MemoryBlock} (h : Agrees first second) :
    Agrees first.pastInstance second.pastInstance where
  answer := h.answer
  accesses := rfl
  direct := congrArg₂ (· ++ ·) h.accesses h.direct
  signals := h.signals
  registers := h.registers

/-- A use of the registers does not see the upper halves. -/
theorem use_agrees (peripheral : Peripheral) {b c : MemoryBlock} (h : b.SameRegisters c)
    (u : Use) : Agrees (b.use peripheral u) (c.use peripheral u) := by
  cases u with
  | run program => exact agrees_ofRun .reply (.chip peripheral) program h
  | print => exact agrees_ofRun .text (.chip peripheral) description h

/-- Nor does a step of a session, which may also set a slot from outside. -/
theorem perform_agrees (peripheral : Peripheral) {b c : MemoryBlock} (h : b.SameRegisters c)
    (step : Step) : Agrees (b.perform peripheral step) (c.perform peripheral step) := by
  cases step with
  | request request => exact agrees_ofRun .reply (.chip peripheral) request.program h
  | poke address value =>
      have hpoke : (b.poke address value).SameRegisters (c.poke address value) := by
        intro register
        rw [peek_poke, peek_poke, h register]
      exact ⟨rfl, rfl, rfl, rfl, hpoke⟩
  | description => exact (agrees_ofRun .text (.chip peripheral) description h).pastInstance
  | portDescription => exact ⟨rfl, rfl, rfl, rfl, h⟩
  | identity => exact ⟨rfl, rfl, rfl, rfl, h⟩

/-- What holds of each step alone holds of the steps one after the other. -/
theorem session_agrees {ι : Type} {perform : MemoryBlock → ι → Report MemoryBlock}
    (hperform : ∀ {b c : MemoryBlock}, b.SameRegisters c → ∀ step,
      Agrees (perform b step) (perform c step))
    {b c : MemoryBlock} (h : b.SameRegisters c) (steps : List ι) :
    List.Forall₂ Agrees (Report.session perform b steps) (Report.session perform c steps) := by
  induction steps generalizing b c with
  | nil => exact .nil
  | cons step rest ih =>
      have hfirst := hperform h step
      exact .cons hfirst (ih hfirst.registers)

/-! ## One run -/

theorem foldl_apply_use (peripheral : Peripheral) (b : MemoryBlock) (u : Use) :
    (b.use peripheral u).accesses.foldl Access.apply b = (b.use peripheral u).state := by
  cases u with
  | run program => exact (Program.state_run program b).symm
  | print => exact (Program.state_run description b).symm

/-- A run leaves the block as its accesses do. -/
theorem afterUses_eq_foldl (peripheral : Peripheral) (b : MemoryBlock) (list : List Use) :
    b.afterUses peripheral list =
      ((b.uses peripheral list).flatMap (·.accesses)).foldl Access.apply b := by
  induction list generalizing b with
  | nil => rfl
  | cons u rest ih =>
      have hrest := ih (b.use peripheral u).state
      rw [uses, Report.session, List.flatMap_cons, List.foldl_append, foldl_apply_use]
      exact hrest

/-- What an access leaves in a slot: the word that it writes there, with zeros above. -/
def stored? (address : Address) (access : Access) : Option (BitVec 32) :=
  (access.written? address).map (BitVec.setWidth 32)

theorem stored?_write (address : Address) (value : Word) :
    stored? address (.write address value) = some (value.setWidth 32) := by
  rw [stored?, Access.written?, if_pos rfl]
  rfl

theorem stored?_write_of_ne {register address : Address} (h : register ≠ address) (value : Word) :
    stored? address (.write register value) = none := by
  rw [stored?, Access.written?, if_neg h]
  rfl

/-- An access keeps every slot that it leaves nothing in. -/
theorem get_apply (b : MemoryBlock) (access : Access) (address : Address) :
    (access.apply b).slots.get address = (stored? address access).getD (b.slots.get address) := by
  cases access with
  | read register value => rfl
  | write register value =>
      have hslots : (Access.apply b (.write register value)).slots =
          b.slots.set register (value.setWidth 32) := rfl
      rw [hslots, Bank.get_set]
      by_cases h : register = address
      · rw [h, stored?_write, if_pos rfl, Option.getD_some]
      · rw [stored?_write_of_ne h, if_neg (Ne.symm h), Option.getD_none]

/-- After some accesses a slot holds what the last one left in it, or what it held before. -/
theorem get_foldl_apply (b : MemoryBlock) (accesses : List Access) (address : Address) :
    (accesses.foldl Access.apply b).slots.get address =
      (accesses.filterMap (stored? address)).getLast?.getD (b.slots.get address) :=
  value_foldl_of_input Access.apply (fun b : MemoryBlock => b.slots.get address)
    (fun b access _ => b.get_apply access address) (fun _ _ => trivial)

theorem upperHalf_setWidth (value : Word) : (value.setWidth 32).extractLsb' 16 16 = 0 := by
  apply BitVec.eq_of_getLsbD_eq
  intro i _
  simp [BitVec.getLsbD_extractLsb']

/-- A slot that has been written has zeros above its register. -/
theorem upperHalf_foldl_apply_of_write_mem (b : MemoryBlock) {accesses : List Access}
    {address : Address} {value : Word} (h : .write address value ∈ accesses) :
    ((accesses.foldl Access.apply b).slots.get address).extractLsb' 16 16 = 0 := by
  rw [get_foldl_apply]
  cases hlast : (accesses.filterMap (stored? address)).getLast? with
  | none =>
      rw [List.getLast?_eq_none_iff, List.filterMap_eq_nil_iff] at hlast
      have hwritten := hlast _ h
      rw [stored?_write] at hwritten
      cases hwritten
  | some word =>
      -- whichever access was the last, it left a register with zeros above
      obtain ⟨access, -, hstored⟩ := List.mem_filterMap.1 (List.mem_of_getLast? hlast)
      obtain ⟨written, -, rfl⟩ := Option.map_eq_some_iff.1 hstored
      exact upperHalf_setWidth written

/-- A slot that has not been written is as it was. -/
theorem get_foldl_apply_of_write_notMem (b : MemoryBlock) {accesses : List Access}
    {address : Address} (h : ∀ value, .write address value ∉ accesses) :
    (accesses.foldl Access.apply b).slots.get address = b.slots.get address := by
  have hnone : accesses.filterMap (stored? address) = [] := by
    rw [List.filterMap_eq_nil_iff]
    intro access hmem
    cases access with
    | read register value => rfl
    | write register value =>
        apply stored?_write_of_ne
        rintro rfl
        exact h value hmem
  rw [get_foldl_apply, hnone]
  rfl

/-- The upper halves of the slots never matter. Two blocks with the same registers give equal
answers, texts and accesses in any series of uses and in any session, and have the same registers
after each step. Within one series of uses, a slot that is written ends with zeros above its
register, one that is not written keeps all of its bits, and a read changes nothing. To show the
block is to read three registers, so that this changes nothing either. -/
theorem upper_halves_unobservable (peripheral : Peripheral) :
    (∀ b c : MemoryBlock, b.SameRegisters c →
      (∀ list : List Use,
        List.Forall₂ Agrees (b.uses peripheral list) (c.uses peripheral list)) ∧
      ∀ steps : List Step,
        List.Forall₂ Agrees (b.session peripheral steps) (c.session peripheral steps)) ∧
    (∀ (b : MemoryBlock) (list : List Use) (address : Address),
      let accesses := (b.uses peripheral list).flatMap (·.accesses)
      let after := (b.afterUses peripheral list).slots.get address
      ((∃ value, .write address value ∈ accesses) → after.extractLsb' 16 16 = 0) ∧
        ((∀ value, .write address value ∉ accesses) → after = b.slots.get address)) ∧
    (∀ (b : MemoryBlock) (address : Address), ((Program.readRegister address).run b).state = b) ∧
    ∀ b : MemoryBlock,
      (b.use peripheral .print).accesses =
          [.read .control1 (b.peek .control1), .read .control2 (b.peek .control2),
            .read .crcPolynomial (b.peek .crcPolynomial)] ∧
        (b.use peripheral .print).state = b := by
  refine ⟨fun b c h => ⟨session_agrees (use_agrees peripheral) h,
    session_agrees (perform_agrees peripheral) h⟩, ?_, fun _ _ => rfl, fun b => ?_⟩
  · intro b list address accesses after
    have hafter : after = (accesses.foldl Access.apply b).slots.get address :=
      congrArg (fun block : MemoryBlock => block.slots.get address)
        (afterUses_eq_foldl peripheral b list)
    rw [hafter]
    constructor
    · rintro ⟨value, hvalue⟩
      exact upperHalf_foldl_apply_of_write_mem b hvalue
    · exact get_foldl_apply_of_write_notMem b
  · rw [use, run_description]
    exact ⟨rfl, rfl⟩

/-- The port is enabled, a word is asked for that has not come, control register 2 is counted up,
and the block is shown. Only the two control registers are written. In a session, a slot is set
between two looks at the block. -/
theorem upper_halves_after_enable :
    let b := ((zero.poke .control1 0xffff0004).poke .control2 0xbeef0000).poke .txCrc 0x12340000
    let c := zero.poke .control1 0x00050004
    let list := [.run Operation.enable.program, .run Operation.readOne.program,
      .run (Program.modifyRegister .control2 (· + 1)).answerless, .print]
    let after (address : Address) := (b.afterUses .spi1 list).slots.get address
    List.Forall₂ Agrees (b.uses .spi1 list) (c.uses .spi1 list) ∧
      List.Forall₂ Agrees
        (b.session .spi1 [.description, .poke .control2 0xffff0001, .description])
        (c.session .spi1 [.description, .poke .control2 0xffff0001, .description]) ∧
      (after .control1).extractLsb' 16 16 = 0 ∧ (after .control2).extractLsb' 16 16 = 0 ∧
      after .txCrc = 0x12340000 ∧
      ((Program.readRegister .control1).run b).state = b ∧
      (b.use .spi1 .print).accesses =
        [.read .control1 4, .read .control2 0, .read .crcPolynomial 0] := by
  intro b c list after
  obtain ⟨hagree, hslots, hread, hprint⟩ := upper_halves_unobservable .spi1
  have hsame : b.SameRegisters c := by
    intro address
    cases address <;> decide
  have haccesses : (b.uses .spi1 list).flatMap (·.accesses) =
      [.read .control1 4, .write .control1 0x44, .read .status 0,
        .read .control2 0, .write .control2 1,
        .read .control1 0x44, .read .control2 1, .read .crcPolynomial 0] := by decide
  refine ⟨(hagree b c hsame).1 list, (hagree b c hsame).2 _, (hslots b list .control1).1 ⟨0x44, ?_⟩,
    (hslots b list .control2).1 ⟨1, ?_⟩, (hslots b list .txCrc).2 ?_, hread b .control1,
    (hprint b).1.trans (by decide)⟩
  · rw [haccesses]
    decide
  · rw [haccesses]
    decide
  · intro value
    rw [haccesses]
    simp

end SpiController.MemoryBlock
