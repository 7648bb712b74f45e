import SpiController.Proofs.OwnedBit
import SpiController.Proofs.Simulator.Session
import SpiController.Session.Memory

/-!
# Every control bit belongs to the last step that owns it

In a session that keeps to the port, on a simulated peripheral or on registers in memory, a bit of a
plain register is what the last step that owns it has made it, and what it was at the start if no
step owns it (`control_bits_session`). For one step of either device this is `assigned_takes`.
-/

namespace SpiController

namespace Request

/-- The request is an operation of the port, or a read past it. -/
def KeepsToPort : Request → Prop
  | port _ | read _ => True
  | write _ _ | modify _ _ _ => False

/-- The bits that a request gives a value to, as long as it keeps to the port. -/
def assigns : Request → Assignment
  | port operation => operation.assigns
  | read _ | write _ _ | modify _ _ _ => .none

theorem assigns_program {request : Request} (h : request.KeepsToPort) :
    request.program.Assigns request.assigns := by
  cases request with
  | port operation => exact operation.assigns_program
  | read address => exact (Program.assigns_readRegister address).map _
  | write address value => exact h.elim
  | modify address keep set => exact h.elim

theorem hasOwner_of_assigns {request : Request} {address : Address} {i : Nat} {value : Bool}
    (h : request.assigns address i = some value) : address.HasOwner i := by
  cases request with
  | port operation => exact Operation.hasOwner_of_assigns h
  | read | write | modify => cases h

end Request

/-! ## A simulated peripheral -/

namespace Simulator

/-- Requests keep to the port, and no register is set from outside. -/
def Step.KeepsToPort : Step → Prop
  | .request asked => asked.KeepsToPort
  | .stimulus (.poke _ _) => False
  | .stimulus _ | .inspection _ => True

/-- The bits that a step gives a value to: the ones that its operation owns, or the request for the
CRC that the end of a frame drops. -/
def assigned (t : Transition Simulator Step) : Assignment :=
  match t.input with
  | .request request => request.assigns
  | .stimulus change =>
      if (t.before.completed? (.stimulus change)).isSome then .bit .control1 12 false else .none
  | .inspection _ => .none

theorem hasOwner_of_assigned {t : Transition Simulator Step} {address : Address} {i : Nat}
    {value : Bool} (h : assigned t address i = some value) : address.HasOwner i := by
  obtain ⟨before, step, after⟩ := t
  cases step with
  | request request => exact Request.hasOwner_of_assigns h
  | stimulus change =>
      simp only [assigned] at h
      split at h
      · obtain ⟨⟨rfl, -⟩, -⟩ := Assignment.bit_eq_some_iff.1 h
        trivial
      · cases h
  | inspection inspection => cases h

variable (s : Simulator)

/-- Of the stimuli that set no register, only the clock changes a plain one, when it completes a
frame. -/
theorem peek_undergo_stimulus {change : Stimulus}
    (h : ∀ address value, change ≠ .poke address value) {address : Address}
    (haddress : address.Plain) :
    (s.undergo (.stimulus change)).peek address =
      if address = .control1 ∧ (s.completed? (.stimulus change)).isSome then
        Control1.crcNext.write false (s.peek address)
      else s.peek address := by
  cases change with
  | deliver word =>
      rw [undergo, stimulate, deliver_eq]
      rcases haddress.cases with rfl | rfl | rfl | rfl | rfl <;> rfl
  | clock cycles =>
      rcases s.undergo_clock_cases cycles with ⟨hnone, count, -, hstate⟩ | ⟨word, -, hsome, hstate⟩
      · rw [hstate, hnone]
        exact (if_neg fun hcompleted => Bool.false_ne_true hcompleted.2).symm
      · rw [hstate, hsome, complete_eq]
        rcases haddress.cases with rfl | rfl | rfl | rfl | rfl <;> rfl
  | raise flag => rcases haddress.cases with rfl | rfl | rfl | rfl | rfl <;> rfl
  | poke register value => exact absurd rfl (h register value)
  | forgetWrites => rcases haddress.cases with rfl | rfl | rfl | rfl | rfl <;> rfl

/-- A step gives the bits that it owns their values and keeps all others. -/
theorem assigned_takes {step : Step} (h : step.KeepsToPort) :
    (assigned ⟨s, step, s.proceed step⟩).Takes s.peek (s.proceed step).peek := by
  intro address haddress i
  cases step with
  | request request => exact Request.assigns_program h Simulator s address haddress i
  | stimulus change =>
      have hpoke : ∀ register value, change ≠ .poke register value := by
        rintro register value rfl
        exact h
      rw [proceed_stimulus, s.peek_undergo_stimulus hpoke haddress, assigned]
      by_cases hcompleted : (s.completed? (.stimulus change)).isSome = true
      · by_cases hcontrol : address = .control1
        · simp only [hcompleted, hcontrol, and_self, if_true, Field.getLsbD_write_flag,
            Assignment.bit, true_and]
          by_cases hi : i = 12
          · simp [hi, Control1.crcNext]
          · simp [hi, Control1.crcNext]
        · simp [hcompleted, hcontrol, Assignment.bit]
      · simp [hcompleted, Assignment.none]
  | inspection inspection => rfl

end Simulator

/-! ## Registers in memory -/

namespace MemoryBlock

/-- Requests keep to the port, and nothing changes a slot from outside. -/
def Step.KeepsToPort : Step → Prop
  | .request asked => asked.KeepsToPort
  | .poke _ _ => False
  | .description | .portDescription | .identity => True

/-- The registers after a step. -/
def proceed (peripheral : Peripheral) (b : MemoryBlock) (step : Step) : MemoryBlock :=
  (perform peripheral b step).state

/-- The bits that a step gives a value to. -/
def assigned (t : Transition MemoryBlock Step) : Assignment :=
  match t.input with
  | .request request => request.assigns
  | .poke _ _ | .description | .portDescription | .identity => .none

theorem hasOwner_of_assigned {t : Transition MemoryBlock Step} {address : Address} {i : Nat}
    {value : Bool} (h : assigned t address i = some value) : address.HasOwner i := by
  obtain ⟨before, step, after⟩ := t
  cases step with
  | request request => exact Request.hasOwner_of_assigns h
  | poke | description | portDescription | identity => cases h

theorem assigned_takes (peripheral : Peripheral) (b : MemoryBlock) {step : Step}
    (h : step.KeepsToPort) :
    (assigned ⟨b, step, proceed peripheral b step⟩).Takes b.peek
      (proceed peripheral b step).peek := by
  intro address haddress i
  cases step with
  | request request => exact Request.assigns_program h MemoryBlock b address haddress i
  | poke register value => exact h.elim
  | description | portDescription | identity => rfl

end MemoryBlock

/-! ## Sessions -/

/-- Where every step gives the bits that it owns their values and keeps all others, a bit is at the
end what its last owner has made it, and a bit that nothing owns is what it was. -/
theorem getLsbD_foldl_of_takes {σ ι : Type} {next : σ → ι → σ} {peek : σ → Address → Word}
    {assigned : Transition σ ι → Assignment} {Permitted : ι → Prop}
    (law : ∀ s input, Permitted input →
      (assigned ⟨s, input, next s input⟩).Takes (peek s) (peek (next s input)))
    (owned : ∀ {t address i value}, assigned t address i = some value → address.HasOwner i)
    {s : σ} {inputs : List ι} (permitted : ∀ input ∈ inputs, Permitted input) {address : Address}
    (haddress : address.Plain) (i : Nat) :
    (peek (inputs.foldl next s) address).getLsbD i =
        ((trace next s inputs).filterMap fun t => assigned t address i).getLast?.getD
          ((peek s address).getLsbD i) ∧
      (¬ address.HasOwner i →
        (peek (inputs.foldl next s) address).getLsbD i = (peek s address).getLsbD i) := by
  have hlast : (peek (inputs.foldl next s) address).getLsbD i =
      ((trace next s inputs).filterMap fun t => assigned t address i).getLast?.getD
        ((peek s address).getLsbD i) :=
    value_foldl next (fun s => (peek s address).getLsbD i)
      (fun s input h => law s input h address haddress i) permitted
  refine ⟨hlast, ?_⟩
  intro hfree
  have hnone : (trace next s inputs).filterMap (fun t => assigned t address i) = [] := by
    rw [List.filterMap_eq_nil_iff]
    intro t _
    rw [Option.eq_none_iff_forall_ne_some]
    intro value hvalue
    exact hfree (owned hvalue)
  rw [hnone] at hlast
  exact hlast

/-- In a session that keeps to the port, every bit of the control registers, of the polynomial and
of the computed CRCs is at the end what the last step that owns it has made it, and what it was at
the start if no step owns it. A reserved bit of control register 2 and a computed CRC never
change. -/
theorem control_bits_session :
    (∀ (s : Simulator) (steps : List Simulator.Step), (∀ step ∈ steps, step.KeepsToPort) →
      ∀ address : Address, address.Plain → ∀ i,
        ((steps.foldl Simulator.proceed s).peek address).getLsbD i =
            ((trace Simulator.proceed s steps).filterMap fun t =>
              Simulator.assigned t address i).getLast?.getD ((s.peek address).getLsbD i) ∧
          (¬ address.HasOwner i →
            ((steps.foldl Simulator.proceed s).peek address).getLsbD i =
              (s.peek address).getLsbD i)) ∧
    ∀ (peripheral : Peripheral) (b : MemoryBlock) (steps : List MemoryBlock.Step),
      (∀ step ∈ steps, step.KeepsToPort) → ∀ address : Address, address.Plain → ∀ i,
        ((steps.foldl (MemoryBlock.proceed peripheral) b).peek address).getLsbD i =
            ((trace (MemoryBlock.proceed peripheral) b steps).filterMap fun t =>
              MemoryBlock.assigned t address i).getLast?.getD ((b.peek address).getLsbD i) ∧
          (¬ address.HasOwner i →
            ((steps.foldl (MemoryBlock.proceed peripheral) b).peek address).getLsbD i =
              (b.peek address).getLsbD i) := by
  constructor
  · intro s steps permitted address haddress
    exact getLsbD_foldl_of_takes (fun s _ h => Simulator.assigned_takes s h)
      Simulator.hasOwner_of_assigned permitted haddress
  · intro peripheral b steps permitted address haddress
    exact getLsbD_foldl_of_takes (fun b _ h => MemoryBlock.assigned_takes peripheral b h)
      MemoryBlock.hasOwner_of_assigned permitted haddress

/-- A request for the CRC holds until the end of a frame drops it. Registers in memory end no
frames, so there it stays. -/
theorem crc_request_until_end_of_frame :
    let calls : List Request := [.port (.configure { role := .master, frameLength := .bits16 }),
      .port .enable, .port .requestCrcTransmit, .port (.writeOne 0x1234)]
    let steps := calls.map Simulator.Step.request ++ [.stimulus (.clock 16)]
    ((∀ step ∈ steps, step.KeepsToPort) ∧ Address.control1.Plain ∧
      ((steps.foldl Simulator.proceed Simulator.initial).peek .control1).getLsbD 12 = false) ∧
    (∀ step ∈ calls.map MemoryBlock.Step.request, step.KeepsToPort) ∧
      (((calls.map MemoryBlock.Step.request).foldl (MemoryBlock.proceed .spi1)
        MemoryBlock.zero).peek .control1).getLsbD 12 = true := by
  intro calls steps
  have hsteps : ∀ step ∈ steps, step.KeepsToPort := by
    simp [steps, calls, Simulator.Step.KeepsToPort, Request.KeepsToPort]
  have hcalls : ∀ step ∈ calls.map MemoryBlock.Step.request, step.KeepsToPort := by
    simp [calls, MemoryBlock.Step.KeepsToPort, Request.KeepsToPort]
  have hplain : Address.control1.Plain := by decide
  refine ⟨⟨hsteps, hplain, ?_⟩, hcalls, ?_⟩
  · exact (control_bits_session.1 _ steps hsteps .control1 hplain 12).1.trans (by decide)
  · exact (control_bits_session.2 .spi1 _ _ hcalls .control1 hplain 12).1.trans (by decide)

end SpiController
