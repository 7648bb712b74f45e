import SpiController.Proofs.Interrupt
import SpiController.Proofs.Simulator.Consistency

/-!
# When the peripheral shows that it is busy

A word is in flight when the data register was written since the last frame ended. The busy flag
asks for more: one of these writes has to find the peripheral enabled. So a word that is written to
a disabled peripheral goes out without the flag once the peripheral is enabled
(`sends_without_busy`), and this is the only way in which a transfer can miss it (`busy_session`).

Both are read off the history since the last frame end, by one law about what an event begins and
the end of a frame ends (`foldl_undergo_iff_exists`).
-/

namespace SpiController.Simulator

/-! ## Since the last frame -/

/-- What has happened since the last frame ended, or since the start if none has. -/
def sinceFrameEnd (past : List (Transition Simulator Event)) : List (Transition Simulator Event) :=
  past.rtakeWhile fun t => (t.before.completed? t.input).isNone

variable {past : List (Transition Simulator Event)} {t : Transition Simulator Event}

theorem sinceFrameEnd_concat :
    sinceFrameEnd (past ++ [t]) =
      if t.before.completed? t.input = none then sinceFrameEnd past ++ [t] else [] := by
  cases h : t.before.completed? t.input with
  | none => simp [sinceFrameEnd, h]
  | some word => simp [sinceFrameEnd, h]

theorem exists_mem_sinceFrameEnd_concat {p : Transition Simulator Event → Prop} :
    (∃ u ∈ sinceFrameEnd (past ++ [t]), p u) ↔
      t.before.completed? t.input = none ∧ (p t ∨ ∃ u ∈ sinceFrameEnd past, p u) := by
  rw [sinceFrameEnd_concat]
  by_cases h : t.before.completed? t.input = none
  · simp [h, or_and_right, exists_or, or_comm]
  · simp [h]

/-- What some events begin, and the end of a frame ends, holds when it has begun since the last
frame ended. -/
theorem foldl_undergo_iff_exists (Holds : Simulator → Prop)
    (begins : Transition Simulator Event → Prop) {Permitted : Event → Prop}
    (hinitial : ¬ Holds initial)
    (law : ∀ s event, Permitted event →
      (Holds (s.undergo event) ↔
        s.completed? event = none ∧ (begins ⟨s, event, s.undergo event⟩ ∨ Holds s)))
    {events : List Event} (permitted : ∀ event ∈ events, Permitted event) :
    Holds (events.foldl undergo initial) ↔
      ∃ t ∈ sinceFrameEnd (trace undergo initial events), begins t := by
  induction events using List.reverseRecOn with
  | nil => exact iff_of_false hinitial (by simp [trace, sinceFrameEnd])
  -- on the events from the end, since the past grows there
  | append_singleton events event ih =>
      rw [List.forall_mem_append, List.forall_mem_singleton] at permitted
      rw [trace_concat, exists_mem_sinceFrameEnd_concat, List.foldl_append, ← ih permitted.1]
      exact law _ event permitted.2

/-! ## Busy and in flight -/

/-- In a session in which only the peripheral sets its status register and raises the busy flag, a
word is in flight when the data register was written since the last frame ended, and the flag is set
when one of these writes found the peripheral enabled. So a word is in flight on an enabled
peripheral without the flag exactly when all of these writes were made while it was disabled. -/
theorem busy_session (steps : List Step)
    (permitted : ∀ step ∈ steps, step.Avoids [.busy] [.status]) :
    let s := steps.foldl proceed initial
    let recent := sinceFrameEnd (initial.history steps)
    (s.inFlight ≠ none ↔ ∃ t ∈ recent, t.input.writesData = true) ∧
      (((Port.readStatusFlag .busy).run s).result = true ↔
        ∃ t ∈ recent, t.input.writesData = true ∧ t.before.enabled = true) ∧
      ((s.enabled = true → s.inFlight ≠ none →
          ((Port.readStatusFlag .busy).run s).result = true) ↔
        ¬ (s.enabled = true ∧ s.inFlight ≠ none ∧
          ∀ t ∈ recent, t.input.writesData = true → t.before.enabled = false)) := by
  intro s recent
  have havoids := initial.avoids_of_mem_events permitted
  have hword : s.inFlight ≠ none ↔ ∃ t ∈ recent, t.input.writesData = true := by
    simp only [s, recent, foldl_proceed, history_eq_trace]
    exact foldl_undergo_iff_exists (fun s => s.inFlight ≠ none) (fun t => t.input.writesData = true)
      (by decide) (fun s event _ => inFlight_undergo_ne_none_iff event) havoids
  have hbusy : s.flag .busy = true ↔
      ∃ t ∈ recent, t.input.writesData = true ∧ t.before.enabled = true := by
    simp only [s, recent, foldl_proceed, history_eq_trace]
    exact foldl_undergo_iff_exists (fun s => s.flag .busy = true)
      (fun t => t.input.writesData = true ∧ t.before.enabled = true)
      (by decide) (fun s event h => flag_busy_undergo_iff h) havoids
  have hread : ((Port.readStatusFlag .busy).run s).result = s.flag .busy :=
    Port.result_readStatusFlag s .busy
  rw [hread]
  refine ⟨hword, hbusy, ?_⟩
  rw [hbusy]
  simp only [not_and, not_forall, Bool.not_eq_false, exists_prop]

/-- The write that follows the enabling shows the transfer; the one before it did not. -/
theorem busy_after_second_write :
    let steps : List Step := [.request (.port (.transmit 0x11)), .request (.port .enable),
      .stimulus (.clock 5), .request (.port (.transmit 0x22))]
    let s := steps.foldl proceed initial
    (∀ step ∈ steps, step.Avoids [.busy] [.status]) ∧ s.enabled = true ∧ s.inFlight ≠ none ∧
      ((Port.readStatusFlag .busy).run s).result = true := by
  intro steps s
  have h : ∀ step ∈ steps, step.Avoids [.busy] [.status] := by
    simp [steps, Step.Avoids, Stimulus.Avoids]
  obtain ⟨hword, hbusy, -⟩ := busy_session steps h
  exact ⟨h, by decide, hword.2 (by decide), hbusy.2 (by decide)⟩

/-- A word that is written before the peripheral is enabled is sent without the busy flag: the clock
advances its frame and ends it. -/
theorem sends_without_busy :
    let steps : List Step := [.request (.port (.transmit 0x55)), .request (.port .enable)]
    let s := steps.foldl proceed initial
    s.enabled = true ∧ s.inFlight = some 0x55 ∧
      ((Port.readStatusFlag .busy).run s).result = false ∧
      (s.undergo (.stimulus (.clock 5))).elapsed = 5 ∧
      s.completed? (.stimulus (.clock 8)) = some 0x55 := by
  decide

end SpiController.Simulator
