import SpiController.Proofs.ErrorPriority
import SpiController.Proofs.Simulator.Session

/-!
# How errors are cleared

Every error has an access that clears it, and nothing else does. An overrun and a mode fault ask for
another access before that, made since the error was raised. The peripheral remembers such an access
in a latch, and the latch is a fact about the past (`overrunDataRead_iff`,
`modeFaultStatusRead_iff`).
-/

namespace SpiController.Simulator

/-- The data register was read since the last overrun was raised. -/
def DataReadSinceOverrun (past : List (Transition Simulator Event)) : Prop :=
  OccursSince (Transition.Rises fun s => s.flag .overrun) (fun t => t.input = .read .data) past

/-- The status register was read since the last mode fault was raised. -/
def StatusReadSinceModeFault (past : List (Transition Simulator Event)) : Prop :=
  OccursSince (Transition.Rises fun s => s.flag .modeFault) (fun t => t.input = .read .status) past

/-- After this past, the event is the one that clears the error. -/
def ClearSequence : TransferError → List (Transition Simulator Event) → Event → Prop
  | .overrun, past, event => event = .read .status ∧ DataReadSinceOverrun past
  | .modeFault, past, event =>
      (∃ value, event = .write .control1 value) ∧ StatusReadSinceModeFault past
  | .crc, _, event => ∃ value, event = .write .status value ∧ value.getLsbD 4 = false
  | .underrun, _, event => event = .read .status

variable {s : Simulator} {event : Event}

/-! ## The latches -/

/-- What an event does to a flag and its latch, in one of three ways: it clears the flag if the
latch is set, it sets the latch if the flag is, or it leaves the latch alone and a set flag set. -/
private theorem latch_iff_of_cases {flag latch flagAfter latchAfter : Bool} {notes : Prop}
    (hlatch : latch = true → flag = true)
    (h : (latchAfter = (latch && !flag) ∧ flagAfter = (flag && !latch) ∧ ¬ notes) ∨
      (latchAfter = (latch || flag) ∧ flagAfter = flag ∧ notes) ∨
      (latchAfter = latch ∧ (flag = true → flagAfter = true) ∧ ¬ notes)) :
    latchAfter = true ↔ flagAfter = true ∧ (latch = true ∨ flag = true ∧ notes) := by
  rcases h with ⟨rfl, rfl, hnotes⟩ | ⟨rfl, rfl, hnotes⟩ | ⟨rfl, hkeeps, hnotes⟩
  -- the latch falls with the flag
  · cases latch with
    | false => simp [hnotes]
    | true => simp [hlatch rfl]
  · cases latch with
    | false => simp [hnotes]
    | true => simp [hlatch rfl]
  · cases latchAfter with
    | false => simp [hnotes]
    | true => simp [hkeeps (hlatch rfl)]

/-- How an event changes the overrun latch, told by the flag. -/
theorem overrunDataRead_undergo_iff (h : event.Avoids [] [.status])
    (hlatch : s.overrunDataRead = true → s.flag .overrun = true) :
    (s.undergo event).overrunDataRead = true ↔ (s.undergo event).flag .overrun = true ∧
      (s.overrunDataRead = true ∨ s.flag .overrun = true ∧ event = .read .data) := by
  have hafter := s.overrunDataRead_undergo event
  have hflag := s.flag_undergo h .overrun
  apply latch_iff_of_cases hlatch
  by_cases hstatus : event = .read .status
  · subst hstatus
    exact .inl ⟨hafter, hflag.trans (Bool.or_false _), nofun⟩
  · rw [if_neg hstatus] at hafter
    by_cases hdata : event = .read .data
    · subst hdata
      exact .inr (.inl ⟨hafter, by simp [hflag, clears, sets], rfl⟩)
    · have hclears : s.clears .overrun event = false := by
        simp [← Bool.not_eq_true, clears_iff, hstatus]
      refine .inr (.inr ⟨hafter.trans (if_neg hdata), ?_, hdata⟩)
      intro hset
      rw [hflag, hset, hclears]
      rfl

/-- How an event changes the mode fault latch, told by the flag. -/
theorem modeFaultStatusRead_undergo_iff (h : event.Avoids [] [.status])
    (hlatch : s.modeFaultStatusRead = true → s.flag .modeFault = true) :
    (s.undergo event).modeFaultStatusRead = true ↔ (s.undergo event).flag .modeFault = true ∧
      (s.modeFaultStatusRead = true ∨ s.flag .modeFault = true ∧ event = .read .status) := by
  have hafter := s.modeFaultStatusRead_undergo event
  have hflag := s.flag_undergo h .modeFault
  apply latch_iff_of_cases hlatch
  by_cases hstatus : event = .read .status
  · subst hstatus
    exact .inr (.inl ⟨hafter, by simp [hflag, clears, sets], rfl⟩)
  · rw [if_neg hstatus] at hafter
    by_cases hcontrol : ∃ value, event = .write .control1 value
    · rw [if_pos hcontrol] at hafter
      obtain ⟨value, rfl⟩ := hcontrol
      exact .inl ⟨hafter, hflag.trans (Bool.or_false _), hstatus⟩
    · have hclears : s.clears .modeFault event = false := by
        simpa [← Bool.not_eq_true, clears_iff] using fun value hv => absurd ⟨value, hv⟩ hcontrol
      refine .inr (.inr ⟨hafter.trans (if_neg hcontrol), ?_, hstatus⟩)
      intro hset
      rw [hflag, hset, hclears]
      rfl

/-- The overrun latch is set exactly when an overrun is raised and the data register was read since
then. -/
theorem overrunDataRead_iff {events : List Event}
    (permitted : ∀ event ∈ events, event.Avoids [] [.status]) :
    (events.foldl undergo initial).overrunDataRead = true ↔
      (events.foldl undergo initial).flag .overrun = true ∧
        DataReadSinceOverrun (trace undergo initial events) :=
  latch_iff_occursSince undergo (fun s => s.flag .overrun) overrunDataRead _
    (fun _ _ h hlatch => overrunDataRead_undergo_iff h hlatch) (by decide) rfl permitted

/-- The mode fault latch is set exactly when a mode fault is raised and the status register was read
since then. -/
theorem modeFaultStatusRead_iff {events : List Event}
    (permitted : ∀ event ∈ events, event.Avoids [] [.status]) :
    (events.foldl undergo initial).modeFaultStatusRead = true ↔
      (events.foldl undergo initial).flag .modeFault = true ∧
        StatusReadSinceModeFault (trace undergo initial events) :=
  latch_iff_occursSince undergo (fun s => s.flag .modeFault) modeFaultStatusRead _
    (fun _ _ h hlatch => modeFaultStatusRead_undergo_iff h hlatch) (by decide) rfl permitted

/-! ## Errors -/

variable {error : TransferError}

/-- No access raises an error. -/
theorem access?_of_sets (h : s.sets error.flag event = true) : s.access? event = none := by
  rw [sets_iff] at h
  cases event with
  | read address => cases error <;> simp [arrival?, completed?, TransferError.flag] at h
  | write address value => cases error <;> simp [arrival?, completed?, TransferError.flag] at h
  | stimulus change => rfl

/-- Only an access clears an error. -/
theorem access?_of_clears (h : s.clears error.flag event = true) : s.access? event ≠ none := by
  cases event with
  | read address => simp [access?]
  | write address value => simp [access?]
  | stimulus change => cases error <;> simp [clears_iff, TransferError.flag] at h

/-- An error falls exactly when it is raised and the event clears it. -/
theorem falls_iff_clears (h : event.Avoids [] [.status]) :
    Transition.Falls (fun s => s.flag error.flag) ⟨s, event, s.undergo event⟩ ↔
      s.flag error.flag = true ∧ s.clears error.flag event = true := by
  change s.flag error.flag = true ∧ (s.undergo event).flag error.flag = false ↔ _
  refine and_congr_right fun hflag => ?_
  rw [flag_undergo s h, hflag, Bool.true_and]
  cases hclears : s.clears error.flag event with
  | false => simp
  | true =>
      -- no event clears an error and sets it again
      have hsets : ¬ s.sets error.flag event = true := by
        intro hsets
        exact access?_of_clears hclears (access?_of_sets hsets)
      simp [hsets]

/-- An error rises only without an access. -/
theorem access?_of_rises (h : event.Avoids [] [.status])
    (hrises : Transition.Rises (fun s => s.flag error.flag) ⟨s, event, s.undergo event⟩) :
    s.access? event = none := by
  obtain ⟨hbefore, hafter⟩ : s.flag error.flag = false ∧ (s.undergo event).flag error.flag = true :=
    hrises
  rw [flag_undergo s h, hbefore, Bool.false_and, Bool.false_or] at hafter
  exact access?_of_sets hafter

/-- What clears a raised error is told by the past. -/
theorem clears_iff_clearSequence {events : List Event}
    (permitted : ∀ event ∈ events, event.Avoids [] [.status])
    (hflag : (events.foldl undergo initial).flag error.flag = true) :
    (events.foldl undergo initial).clears error.flag event = true ↔
      ClearSequence error (trace undergo initial events) event := by
  rw [clears_iff]
  cases error with
  | overrun =>
      have hflag : (events.foldl undergo initial).flag .overrun = true := hflag
      simp [TransferError.flag, ClearSequence, overrunDataRead_iff permitted, hflag]
  | modeFault =>
      have hflag : (events.foldl undergo initial).flag .modeFault = true := hflag
      simp [TransferError.flag, ClearSequence, modeFaultStatusRead_iff permitted, hflag]
  | crc => simp [TransferError.flag, ClearSequence, Status.isSet_eq_getLsbD, StatusFlag.position]
  | underrun => simp [TransferError.flag, ClearSequence]

/-- Errors in a session that leaves the status register to the bus and the flags to the hardware.
An error that is raised falls exactly at the end of its sequence, no access raises one, and a status
read at which one falls still shows it. -/
theorem errors_session (steps : List Step) (permitted : ∀ step ∈ steps, step.Avoids [] [.status])
    (error : TransferError) (earlier later : List (Transition Simulator Event))
    (t : Transition Simulator Event) (h : initial.history steps = earlier ++ t :: later) :
    (t.Falls (fun s => s.flag error.flag) ↔
        t.before.flag error.flag = true ∧ ClearSequence error earlier t.input) ∧
      (t.Rises (fun s => s.flag error.flag) → t.before.access? t.input = none) ∧
      (t.Falls (fun s => s.flag error.flag) →
        ∀ value, t.before.access? t.input = some (.read .status value) →
          (Status.mk value).isSet error.flag = true) := by
  have havoids := initial.avoids_of_mem_events permitted
  rw [history_eq_trace] at h
  obtain ⟨first, event, second, hevents, rfl, rfl, -⟩ := trace_eq_append_cons undergo h
  rw [hevents, List.forall_mem_append, List.forall_mem_cons] at havoids
  obtain ⟨hfirst, hnow, -⟩ := havoids
  refine ⟨?_, ?_, ?_⟩
  · rw [falls_iff_clears hnow]
    exact and_congr_right fun hflag => clears_iff_clearSequence hfirst hflag
  · exact access?_of_rises hnow
  -- a read returns the content from before its effect
  · rintro ⟨hbefore, -⟩ value hread
    cases event with
    | read address => cases hread; exact hbefore
    | write address word => cases hread
    | stimulus change => cases hread

/-- When an overrun falls at a status read, the data register was read before. -/
theorem overrun_falls_after_two_reads :
    (∀ step ∈ [Step.stimulus (.raise .overrun), .request (.port .receive), .request (.port .status)],
        step.Avoids [] [.status]) ∧
      ∃ earlier t later, initial.history [.stimulus (.raise .overrun), .request (.port .receive),
          .request (.port .status)] = earlier ++ t :: later ∧
        t.Falls (fun s => s.flag .overrun) ∧ ClearSequence .overrun earlier t.input := by
  have h : ∀ step ∈ [Step.stimulus (.raise .overrun), .request (.port .receive),
      .request (.port .status)], step.Avoids [] [.status] := by
    simp [Step.Avoids, Stimulus.Avoids]
  refine ⟨h, [_, _], _, [], rfl, by decide, ?_⟩
  exact ((errors_session _ h .overrun [_, _] [] _ rfl).1.1 (by decide)).2

end SpiController.Simulator
