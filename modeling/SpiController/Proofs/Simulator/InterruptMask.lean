import SpiController.Proofs.LastOwner
import SpiController.Proofs.Simulator.Consistency

/-!
# Interrupts over a session

Whether a source is enabled is told by the calls made: the last one for a source that shares its
enable bit decides (`enableBit_foldl`). The reserved bits of the status register stay clear in a
session, so that an enabled source is pending exactly when its flag is raised. The calls that enable
and disable sources leave the status register alone. A condition that is masked stays raised, and is
pending again when it is unmasked (`interrupts_session`).
-/

namespace SpiController

/-! ## Sources that are enabled together -/

namespace InterruptSource

/-- The source stands for an error, or for all of them. -/
def IsError : InterruptSource → Prop
  | txEmpty | rxNotEmpty => False
  | error | overrun | crcError | modeFault | underrun => True

instance : DecidablePred IsError
  | txEmpty | rxNotEmpty => .isFalse id
  | error | overrun | crcError | modeFault | underrun => .isTrue trivial

/-- The two are enabled together: the sources for errors are, and any other source is alone. -/
def SharesEnable (source other : InterruptSource) : Prop :=
  source = other ∨ source.IsError ∧ other.IsError

instance (source other : InterruptSource) : Decidable (source.SharesEnable other) :=
  inferInstanceAs (Decidable (_ ∨ _))

theorem enableBit_eq_iff {source other : InterruptSource} :
    source.enableBit = other.enableBit ↔ source.SharesEnable other := by
  cases source <;> cases other <;> decide

end InterruptSource

/-- What an operation makes of the mask over a source: it lets the source interrupt, or keeps it
from that. -/
def Operation.unmasks? (source : InterruptSource) : Operation → Option Bool
  | enableInterrupt other => if source.SharesEnable other then some true else none
  | disableInterrupt other => if source.SharesEnable other then some false else none
  | _ => none

/-- No other operation gives a value to the enable bit of a source. -/
theorem Operation.assigns_enableBit (operation : Operation) (source : InterruptSource) :
    operation.assigns .control2 source.enableBit = operation.unmasks? source := by
  cases operation with
  | enableInterrupt other | disableInterrupt other =>
      simp [assigns, unmasks?, Assignment.bit, InterruptSource.enableBit_eq_iff]
  | enableDma request | disableDma request => cases request <;> cases source <;> rfl
  | enableSelectOutput | disableSelectOutput => cases source <;> rfl
  | _ => rfl

namespace Simulator

/-- What a step makes of the mask over a source. -/
def Step.unmasks? (source : InterruptSource) : Step → Option Bool
  | .request (.port operation) => operation.unmasks? source
  | .request _ | .stimulus _ | .inspection _ => none

/-- The last call for a source that shares its enable bit was one that lets it interrupt. -/
def Unmasked (source : InterruptSource) (steps : List Step) : Prop :=
  (steps.filterMap (Step.unmasks? source)).getLast? = some true

instance (source : InterruptSource) : DecidablePred (Unmasked source) :=
  fun _ => inferInstanceAs (Decidable (_ = _))

/-- Requests keep to the port, and nothing sets the status register or control register 2 from
outside. -/
def Step.SparesInterrupts : Step → Prop
  | .request asked => asked.KeepsToPort
  | .stimulus change => change.Avoids [] [.status, .control2]
  | .inspection _ => True

/-- The step enables or disables a source. -/
def Step.SetsMask : Step → Prop
  | .request (.port (.enableInterrupt _)) | .request (.port (.disableInterrupt _)) => True
  | _ => False

variable {s : Simulator}

theorem Step.SparesInterrupts.avoids {step : Step} (h : step.SparesInterrupts) :
    step.Avoids [] [.status] := by
  cases step with
  | request request => trivial
  | stimulus change =>
      have havoids : (Event.stimulus change).Avoids [] [.status, .control2] := h
      exact havoids.mono (List.Subset.refl _) (by simp)
  | inspection inspection => trivial

theorem Step.SetsMask.sparesInterrupts {step : Step} (h : step.SetsMask) :
    step.SparesInterrupts := by
  cases step with
  | request request =>
      cases request with
      | port operation => trivial
      | read | write | modify => exact h.elim
  | stimulus change => exact h.elim
  | inspection inspection => trivial

/-! ## The enable bit -/

/-- No stimulus but a change from outside touches control register 2. -/
theorem control2_undergo_stimulus {change : Stimulus} (h : change.Avoids [] [.control2]) :
    (s.undergo (.stimulus change)).peek .control2 = s.peek .control2 := by
  cases change with
  | poke address value =>
      have hne : Address.control2 ≠ address := by
        rintro rfl
        exact h (List.mem_singleton_self _)
      exact (s.peek_poke address .control2 value).trans (if_neg hne)
  | deliver | clock | raise | forgetWrites =>
      rw [s.peek_undergo_stimulus (by simp) (by decide)]
      exact if_neg (by simp)

/-- A step leaves the enable bit of a source as it is, unless it enables or disables a source that
shares the bit. -/
theorem enableBit_proceed {step : Step} (h : step.SparesInterrupts) (source : InterruptSource) :
    ((s.proceed step).peek .control2).getLsbD source.enableBit =
      (step.unmasks? source).getD ((s.peek .control2).getLsbD source.enableBit) := by
  cases step with
  | request request =>
      have htakes : ((s.proceed (.request request)).peek .control2).getLsbD source.enableBit =
          (request.assigns .control2 source.enableBit).getD
            ((s.peek .control2).getLsbD source.enableBit) :=
        Request.assigns_program h Simulator s .control2 (by decide) source.enableBit
      rw [htakes]
      cases request with
      | port operation => rw [Request.assigns, operation.assigns_enableBit, Step.unmasks?]
      | read | write | modify => rfl
  | stimulus change =>
      have havoids : (Event.stimulus change).Avoids [] [.status, .control2] := h
      have hcontrol : change.Avoids [] [.control2] := havoids.mono (List.Subset.refl _) (by simp)
      rw [proceed_stimulus, control2_undergo_stimulus hcontrol]
      rfl
  | inspection inspection => rfl

/-- The last call for a source that shares the enable bit decides on it. -/
theorem enableBit_foldl {steps : List Step} (permitted : ∀ step ∈ steps, step.SparesInterrupts)
    (source : InterruptSource) :
    ((steps.foldl proceed s).peek .control2).getLsbD source.enableBit =
      (steps.filterMap (Step.unmasks? source)).getLast?.getD
        ((s.peek .control2).getLsbD source.enableBit) :=
  value_foldl_of_input proceed (fun s => (s.peek .control2).getLsbD source.enableBit)
    (fun s _ h => enableBit_proceed (s := s) h source) permitted

/-! ## The status register -/

/-- In a session, only a change from outside touches the bits above the flags. -/
theorem reserved_foldl_proceed {steps : List Step} (h : ∀ step ∈ steps, step.Avoids [] [.status]) :
    (steps.foldl proceed s).reserved = s.reserved := by
  have hkeeps : ∀ (t : Simulator) (event : Event), event.Avoids [] [.status] →
      t.reserved = s.reserved → (t.undergo event).reserved = s.reserved :=
    fun t event hevent ht => (t.reserved_undergo hevent).trans ht
  rw [foldl_proceed]
  exact invariant_foldl_undergo (·.reserved = s.reserved) hkeeps rfl (s.avoids_of_mem_events h)

/-- To enable or disable a source leaves the status register alone. -/
theorem status_proceed_of_setsMask {step : Step} (h : step.SetsMask) :
    (s.proceed step).status = s.status := by
  cases step with
  | request request =>
      cases request with
      | port operation =>
          cases operation with
          | enableInterrupt source | disableInterrupt source => rfl
          | _ => exact h.elim
      | read | write | modify => exact h.elim
  | stimulus | inspection => exact h.elim

theorem status_foldl_of_setsMask {calls : List Step} (h : ∀ step ∈ calls, step.SetsMask) :
    (calls.foldl proceed s).status = s.status := by
  refine List.foldlRecOn (motive := fun t : Simulator => t.status = s.status) _ _ rfl ?_
  intro t ht step hstep
  exact (status_proceed_of_setsMask (h step hstep)).trans ht

/-! ## Pending sources -/

/-- The port reports a source as raised when the flag of its name is set. -/
theorem raised_iff (source : InterruptSource) :
    Port.Raised s source ↔ ∃ flag, source.flag? = some flag ∧ s.flag flag = true := by
  simp only [Port.Raised, Port.result_readStatusFlag]
  rfl

theorem raised_congr {t : Simulator} (h : s.status = t.status) (source : InterruptSource) :
    Port.Raised s source ↔ Port.Raised t source := by
  simp only [raised_iff, flag, h]

/-- Above clear reserved bits, a source is pending when it is enabled and its flag is raised. -/
theorem result_readInterruptFlag_iff (hs : s.reserved = 0) (source : InterruptSource) :
    ((Port.readInterruptFlag source).run s).result = true ↔
      (s.peek .control2).getLsbD source.enableBit = true ∧ Port.Raised s source := by
  have hclear : (s.peek .status).getLsbD source.reservedBit = false :=
    s.reserved_eq_zero_iff.1 hs _ (Nat.le_add_left _ _)
  have hpending : ((Port.readInterruptFlag source).run s).result = true ↔
      (s.peek .control2).getLsbD source.enableBit = true ∧
        ((s.peek .status).getLsbD source.reservedBit = true ∨ Port.Raised s source) :=
    Port.result_readInterruptFlag_iff s source
  rw [hpending, hclear]
  simp

/-- A session from the start in which nothing sets the status register or control register 2 from
outside enables a source when the last call for it says so. -/
theorem enableBit_session {steps : List Step} (permitted : ∀ step ∈ steps, step.SparesInterrupts)
    (source : InterruptSource) :
    ((steps.foldl proceed initial).peek .control2).getLsbD source.enableBit = true ↔
      Unmasked source steps := by
  have hclear : (initial.peek .control2).getLsbD source.enableBit = false := BitVec.getLsbD_zero
  rw [enableBit_foldl permitted, hclear, Unmasked]
  cases (steps.filterMap (Step.unmasks? source)).getLast? <;> simp

theorem pending_session {steps : List Step} (permitted : ∀ step ∈ steps, step.SparesInterrupts)
    (source : InterruptSource) :
    ((Port.readInterruptFlag source).run (steps.foldl proceed initial)).result = true ↔
      Unmasked source steps ∧ Port.Raised (steps.foldl proceed initial) source := by
  have havoids : ∀ step ∈ steps, step.Avoids [] [.status] := fun step hstep =>
    (permitted step hstep).avoids
  have hreserved : (steps.foldl proceed initial).reserved = 0 :=
    (reserved_foldl_proceed havoids).trans (by decide)
  rw [result_readInterruptFlag_iff hreserved, enableBit_session permitted]

/-- In a session that keeps to the port, and in which nothing sets the status register or control
register 2 from outside, a source is enabled when the last call for a source with the same enable
bit enabled it. It is pending when it is also raised; the error source never is. Calls that enable
and disable sources change no status flag, so that what is raised while it is masked is pending once
it is unmasked. -/
theorem interrupts_session (steps : List Step)
    (permitted : ∀ step ∈ steps, step.SparesInterrupts) (source : InterruptSource) :
    let s := steps.foldl proceed initial
    (((Port.isInterruptEnabled source).run s).result = true ↔ Unmasked source steps) ∧
      (((Port.readInterruptFlag source).run s).result = true ↔
        Unmasked source steps ∧ Port.Raised s source) ∧
      ((Port.readInterruptFlag .error).run s).result = false ∧
      ∀ calls : List Step, (∀ step ∈ calls, step.SetsMask) →
        (calls.foldl proceed s).status = s.status ∧
          (((Port.readInterruptFlag source).run (calls.foldl proceed s)).result = true ↔
            Unmasked source (steps ++ calls) ∧ Port.Raised s source) := by
  intro s
  refine ⟨?_, pending_session permitted source, ?_, ?_⟩
  · have henabled : ((Port.isInterruptEnabled source).run s).result = true ↔
        (s.peek .control2).getLsbD source.enableBit = true :=
      Port.result_isInterruptEnabled_iff s source
    rw [henabled, enableBit_session permitted]
  · rw [← Bool.not_eq_true, pending_session permitted]
    rintro ⟨-, flag, hnone, -⟩
    cases hnone
  · intro calls hcalls
    have hstatus : (calls.foldl proceed s).status = s.status := status_foldl_of_setsMask hcalls
    refine ⟨hstatus, ?_⟩
    -- the calls go on with the same session
    have hall : ∀ step ∈ steps ++ calls, step.SparesInterrupts :=
      List.forall_mem_append.2 ⟨permitted, fun step hstep => (hcalls step hstep).sparesInterrupts⟩
    have hpending := pending_session hall source
    rw [List.foldl_append] at hpending
    rw [hpending, raised_congr hstatus]

/-- An overrun that rises while errors are masked is pending after errors are enabled, by a call for
another error. -/
theorem overrun_pending_after_unmasking :
    let steps : List Step := [.request (.port (.enableInterrupt .overrun)),
      .request (.port (.enableDma .rx)), .request (.port (.disableInterrupt .crcError)),
      .stimulus (.deliver 0x11), .stimulus (.deliver 0x22)]
    let calls : List Step := [.request (.port (.enableInterrupt .txEmpty)),
      .request (.port (.enableInterrupt .error))]
    let s := steps.foldl proceed initial
    (∀ step ∈ steps, step.SparesInterrupts) ∧ (∀ step ∈ calls, step.SetsMask) ∧
      s.flag .overrun = true ∧ ((Port.readInterruptFlag .overrun).run s).result = false ∧
      ((Port.readInterruptFlag .overrun).run (calls.foldl proceed s)).result = true := by
  intro steps calls s
  have hsteps : ∀ step ∈ steps, step.SparesInterrupts := by
    simp [steps, Step.SparesInterrupts, Request.KeepsToPort, Stimulus.Avoids]
  have hcalls : ∀ step ∈ calls, step.SetsMask := by
    simp [calls, Step.SetsMask]
  obtain ⟨-, hpending, -, hcall⟩ := interrupts_session steps hsteps .overrun
  refine ⟨hsteps, hcalls, by decide, ?_, (hcall calls hcalls).2.2 ?_⟩
  · rw [← Bool.not_eq_true, hpending]
    exact not_and_of_not_left _ (by decide)
  · exact ⟨by decide, .overrun, rfl, by decide⟩

end Simulator

end SpiController
