import SpiController.Session.Simulated
import SpiController.Proofs.Program
import SpiController.Proofs.Simulator.Event
import SpiController.Proofs.Trace

/-!
# Sessions as lists of events

A session takes steps, and a step of a driver makes any number of accesses. `history` lists all that
happens in a session event by event, so that a law about single events holds throughout every
session (`history_eq_trace`, `foldl_proceed`). The accesses of the history are those that the
session reports (`accesses_session`).
-/

namespace SpiController

namespace Simulator

/-! ## The events of a session -/

/-- The access as an event. -/
def Event.ofAccess : Access → Event
  | .read address _ => .read address
  | .write address value => .write address value

/-- The events of a step. A look at the state is none. -/
def stepEvents (s : Simulator) : Step → List Event
  | .request request => (request.program.run s).accesses.map Event.ofAccess
  | .stimulus stimulus => [.stimulus stimulus]
  | .inspection _ => []

/-- The state after a step. -/
def proceed (s : Simulator) (step : Step) : Simulator :=
  (s.perform step).state

/-- The events of a session. -/
def events (s : Simulator) (steps : List Step) : List Event :=
  (trace proceed s steps).flatMap fun t => t.before.stepEvents t.input

/-- Everything that happens in a session, event by event. -/
def history (s : Simulator) (steps : List Step) : List (Transition Simulator Event) :=
  (trace proceed s steps).flatMap fun t => trace undergo t.before (t.before.stepEvents t.input)

/-- A session reports on its steps one by one. -/
theorem session_eq_map_trace (s : Simulator) (steps : List Step) :
    s.session steps = (trace proceed s steps).map fun t => t.before.perform t.input := by
  induction steps generalizing s with
  | nil => rfl
  | cons step rest ih => exact congrArg _ (ih _)

theorem undergo_ofAccess (s : Simulator) (access : Access) :
    s.undergo (.ofAccess access) = access.apply s := by
  cases access <;> rfl

/-- A step leaves the state that its events leave. -/
theorem proceed_eq_foldl (s : Simulator) (step : Step) :
    s.proceed step = (s.stepEvents step).foldl undergo s := by
  cases step with
  | request request =>
      rw [stepEvents, List.foldl_map]
      simp only [undergo_ofAccess]
      exact Program.state_run _ s
  | stimulus stimulus =>
      simp only [proceed, perform, stepEvents, List.foldl_cons, List.foldl_nil, undergo]
      cases s.stimulate stimulus <;> rfl
  | inspection inspection => rfl

theorem proceed_stimulus (s : Simulator) (change : Stimulus) :
    s.proceed (.stimulus change) = s.undergo (.stimulus change) :=
  s.proceed_eq_foldl (.stimulus change)

/-- A session is one run through all of its events. -/
theorem history_eq_trace (s : Simulator) (steps : List Step) :
    s.history steps = trace undergo s (s.events steps) := by
  induction steps generalizing s with
  | nil => rfl
  | cons step rest ih =>
      -- the rest of the session starts where the events of this step end
      have ih := ih (s.proceed step)
      simp only [history, events] at ih
      simp only [history, events, trace, List.flatMap_cons]
      rw [trace_append, ih, ← proceed_eq_foldl]

/-- A session ends where its events lead. -/
theorem foldl_proceed (s : Simulator) (steps : List Step) :
    steps.foldl proceed s = (s.events steps).foldl undergo s := by
  induction steps generalizing s with
  | nil => rfl
  | cons step rest ih =>
      simp only [events, trace, List.flatMap_cons, List.foldl_append, List.foldl_cons]
      rw [ih, proceed_eq_foldl]
      rfl

section Invariant

variable (Invariant : Simulator → Prop) {Permitted : Event → Prop} {s : Simulator}

/-- What every event keeps, a run of events keeps. -/
theorem invariant_foldl_undergo
    (keeps : ∀ s event, Permitted event → Invariant s → Invariant (s.undergo event))
    (hs : Invariant s) {events : List Event} (permitted : ∀ event ∈ events, Permitted event) :
    Invariant (events.foldl undergo s) := by
  refine List.foldlRecOn _ _ hs ?_
  intro t ht event hevent
  exact keeps t event (permitted event hevent) ht

theorem invariant_proceed
    (keeps : ∀ s event, Permitted event → Invariant s → Invariant (s.undergo event))
    (hs : Invariant s) {step : Step} (permitted : ∀ event ∈ s.stepEvents step, Permitted event) :
    Invariant (s.proceed step) := by
  rw [proceed_eq_foldl]
  exact invariant_foldl_undergo Invariant keeps hs permitted

/-- What every event keeps holds at the end of a session, and before and after all that happens
in it. -/
theorem invariant_session
    (keeps : ∀ s event, Permitted event → Invariant s → Invariant (s.undergo event))
    (hs : Invariant s) (steps : List Step)
    (permitted : ∀ event ∈ s.events steps, Permitted event) :
    Invariant (steps.foldl proceed s) ∧
      ∀ t ∈ s.history steps, Invariant t.before ∧ Invariant t.after := by
  constructor
  · rw [foldl_proceed]
    exact invariant_foldl_undergo Invariant keeps hs permitted
  · intro t ht
    rw [history_eq_trace] at ht
    obtain ⟨hbefore, hpermitted, hafter⟩ :=
      forall_mem_trace undergo Invariant keeps hs permitted t ht
    rw [hafter]
    exact ⟨hbefore, keeps t.before t.input hpermitted hbefore⟩

end Invariant

/-! ## Accesses in a history -/

/-- The words that a program reads are those that the events of its run return. -/
theorem accesses_run {α : Type} (p : Program α) (s : Simulator) :
    (p.run s).accesses =
      (trace undergo s ((p.run s).accesses.map Event.ofAccess)).filterMap
        fun t => t.before.access? t.input := by
  induction p generalizing s with
  | done result => rfl
  | read address next ih => exact congrArg _ (ih _ _)
  | write address value next ih => exact congrArg _ (ih _)
  | signal request next ih => exact ih s

/-- The accesses that a session reports are those of its history. -/
theorem accesses_session (s : Simulator) (steps : List Step) :
    (s.session steps).flatMap (·.accesses) =
      (s.history steps).filterMap fun t => t.before.access? t.input := by
  rw [session_eq_map_trace, history, List.flatMap_map, List.filterMap_flatMap]
  congr 1
  funext t
  cases t.input with
  | request request => exact accesses_run _ _
  | stimulus stimulus =>
      simp only [perform, stepEvents, trace]
      cases t.before.stimulate stimulus <;> rfl
  | inspection inspection => rfl

/-! ## Steps that leave a part of the state alone -/

/-- No stimulus of the step raises one of the flags or sets one of the registers. -/
def Step.Avoids (flags : List StatusFlag) (registers : List Address) : Step → Prop
  | .stimulus change => change.Avoids flags registers
  | .request _ | .inspection _ => True

variable {flags : List StatusFlag} {registers : List Address}

theorem Event.avoids_ofAccess (access : Access) :
    (Event.ofAccess access).Avoids flags registers := by
  cases access <;> trivial

/-- What a step avoids, its events avoid. -/
theorem avoids_of_mem_stepEvents (s : Simulator) {step : Step}
    (h : step.Avoids flags registers) :
    ∀ event ∈ s.stepEvents step, event.Avoids flags registers := by
  intro event hevent
  cases step with
  | request request =>
      obtain ⟨access, -, rfl⟩ := List.mem_map.1 hevent
      exact Event.avoids_ofAccess access
  | stimulus change =>
      obtain rfl := List.mem_singleton.1 hevent
      exact h
  | inspection inspection => cases hevent

/-- What all steps of a session avoid, all of its events avoid. -/
theorem avoids_of_mem_events (s : Simulator) {steps : List Step}
    (h : ∀ step ∈ steps, step.Avoids flags registers) :
    ∀ event ∈ s.events steps, event.Avoids flags registers := by
  intro event hevent
  obtain ⟨t, ht, hevent⟩ := List.mem_flatMap.1 hevent
  exact avoids_of_mem_stepEvents t.before (h t.input (input_mem_of_mem_trace proceed ht)) event
    hevent

end Simulator

end SpiController
