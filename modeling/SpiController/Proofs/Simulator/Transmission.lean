import SpiController.Proofs.BusDiscipline
import SpiController.Proofs.Simulator.Session

/-!
# No word is sent twice or lost

A peripheral sends one word at a time. Words are handed over by the calls that look at the status
first, and such a call succeeds only when nothing is in flight. So the words handed over are those
of the completed frames, in order, and then the one in flight.

This rests on one invariant: the status shows room for a word exactly when none is in flight. That a
call which is refused leaves the transfer alone is read off the writes that the call makes.
-/

namespace SpiController.Simulator

/-- The status shows room for a word exactly when none is in flight. -/
def ShowsRoom (s : Simulator) : Prop :=
  s.flag .txEmpty = s.inFlight.isNone

/-- The word that a step hands over. A call that is refused hands over none. -/
def sent? (t : Transition Simulator Step) : Option Word :=
  match t.input with
  | .request (.port operation) =>
      if (operation.program.run t.before).result = .sent (.moved ()) then operation.word? else none
  | _ => none

/-- The word whose frame a step completes. -/
def finished? (t : Transition Simulator Step) : Option Word :=
  match t.input with
  | .stimulus change => t.before.completed? (.stimulus change)
  | _ => none

/-- The step writes the data register only when the status shows room: it asks for an operation of
the port other than `transmit`, or is a stimulus that leaves the flag for room to the transfers. -/
def Step.SendsWithRoom : Step → Prop
  | .request (.port operation) => ∀ value, operation ≠ .transmit value
  | .request _ => False
  | .stimulus change => change.Avoids [.txEmpty] [.status]
  | .inspection _ => True

variable {s : Simulator}

/-! ## Room for a word -/

theorem showsRoom_initial : initial.ShowsRoom := by
  rw [ShowsRoom]
  decide

/-- Every event keeps the flag for room in step with the transfer. -/
theorem ShowsRoom.undergo (hs : s.ShowsRoom) {event : Event}
    (h : event.Avoids [.txEmpty] [.status]) : (s.undergo event).ShowsRoom := by
  have hraise : event ≠ .stimulus (.raise .txEmpty) := by
    rintro rfl
    exact h (List.mem_singleton_self _)
  have hflag := s.flag_undergo (h.mono (List.nil_subset _) (List.Subset.refl _)) .txEmpty
  have hclears : s.clears .txEmpty event = true ↔ ∃ value, event = .write .data value := by
    simp [clears_iff]
  have hsets : s.sets .txEmpty event = true ↔ (s.completed? event).isSome = true := by
    simp [sets_iff, hraise]
  by_cases hclock : ∃ cycles, event = .stimulus (.clock cycles)
  -- the end of a frame makes room as it takes the word away
  · obtain ⟨cycles, rfl⟩ := hclock
    rcases s.undergo_clock_cases cycles with ⟨-, count, -, hstate⟩ | ⟨word, -, hsome, hstate⟩
    · rw [hstate]
      exact hs
    · have hset : s.sets .txEmpty (.stimulus (.clock cycles)) = true := by simp [hsets, hsome]
      rw [ShowsRoom, hflag, hset, hstate, inFlight_complete, Bool.or_true]
      rfl
  · have hidle := s.completed?_of_ne_clock (not_exists.1 hclock)
    have hnot : s.sets .txEmpty event = false := by
      rw [← Bool.not_eq_true, hsets, hidle]
      simp
    rw [ShowsRoom, hflag, hnot, Bool.or_false]
    by_cases hwrite : ∃ value, event = .write .data value
    -- a write of the data register fills the room with the word that it starts
    · have hset := hclears.2 hwrite
      obtain ⟨value, rfl⟩ := hwrite
      rw [hset, Simulator.undergo, write_eq]
      simp
    · rw [Bool.eq_false_iff.2 (mt hclears.1 hwrite),
        (s.transfer_undergo (not_exists.1 hwrite) (not_exists.1 hclock)).1, Bool.not_false,
        Bool.and_true]
      exact hs

/-! ## Steps that leave the transfer alone -/

/-- Accesses that write nothing to the data register leave the transfer alone. -/
theorem transfer_foldl_apply {accesses : List Access}
    (h : accesses.filterMap (Access.written? .data) = []) :
    (accesses.foldl Access.apply s).inFlight = s.inFlight ∧
      (accesses.foldl Access.apply s).elapsed = s.elapsed := by
  rw [List.filterMap_eq_nil_iff] at h
  refine List.foldlRecOn (motive := fun t : Simulator =>
    t.inFlight = s.inFlight ∧ t.elapsed = s.elapsed) _ _ ⟨rfl, rfl⟩ ?_
  intro t ht access haccess
  have hwrite : ∀ value, Event.ofAccess access ≠ .write .data value := by
    intro value hvalue
    cases access with
    | read address word => cases hvalue
    | write address word =>
        cases hvalue
        cases h _ haccess
  have hclock : ∀ cycles, Event.ofAccess access ≠ .stimulus (.clock cycles) := by
    cases access <;> simp [Event.ofAccess]
  have hnow := t.transfer_undergo hwrite hclock
  rw [undergo_ofAccess] at hnow
  exact ⟨hnow.1.trans ht.1, hnow.2.trans ht.2⟩

/-- A call that hands over its word finds room for it, and puts it in the data register after the
read of the status. -/
theorem run_writeOne_of_moved {word : Word} (h : ((Port.writeOne word).run s).result = .moved ()) :
    s.flag .txEmpty = true ∧
      ((Port.writeOne word).run s).state = s.afterStatusRead.write .data word := by
  rcases Port.run_whenReady_cases .txEmpty (Port.transmit word) s with
    ⟨error, -, hrun⟩ | ⟨-, -, hrun⟩ | ⟨-, hready, hrun⟩
  · rw [Port.writeOne, hrun] at h
    cases h
  · rw [Port.writeOne, hrun] at h
    cases h
  · rw [Port.writeOne, hrun]
    exact ⟨hready, rfl⟩

theorem sent?_port (after : Simulator) (operation : Operation) :
    sent? ⟨s, .request (.port operation), after⟩ =
      if (operation.program.run s).result = .sent (.moved ()) then operation.word? else none := rfl

theorem sent?_eq_some {t : Transition Simulator Step} {word : Word} (h : sent? t = some word) :
    ∃ operation, t.input = .request (.port operation) ∧ operation.word? = some word ∧
      ((Port.writeOne word).run t.before).result = .moved () := by
  rw [sent?] at h
  split at h
  next operation hstep =>
    obtain ⟨hresult, hword⟩ := Option.ite_none_right_eq_some.1 h
    rw [Operation.program_of_word? hword, Program.run_map] at hresult
    exact ⟨operation, hstep, hword, Reply.sent.inj hresult⟩
  next => cases h

/-- An operation other than `transmit` hands over the word that it puts in the data register. -/
theorem sent?_eq_puts? {operation : Operation} (h : ∀ value, operation ≠ .transmit value)
    (after : Simulator) :
    sent? ⟨s, .request (.port operation), after⟩ =
      operation.puts? (operation.program.run s).result.isMoved := by
  rw [sent?_port, Operation.puts?_of_ne_transmit h]
  cases hword : operation.word? with
  | none => simp
  | some word =>
      -- the reply is that of `writeOne`, and says by its constructor whether the word was moved
      rw [Operation.program_of_word? hword, Program.run_map]
      cases ((Port.writeOne word).run s).result <;> simp [Reply.isMoved, Attempt.isMoved]

/-- A step that hands over a word finds none in flight, and leaves that word in flight. -/
theorem transfer_of_sent?_eq_some (hs : s.ShowsRoom) {step : Step} {word : Word}
    (h : sent? ⟨s, step, s.proceed step⟩ = some word) :
    s.inFlight = none ∧ (s.proceed step).inFlight = some word := by
  obtain ⟨operation, rfl, hword, hmoved⟩ := sent?_eq_some h
  obtain ⟨hroom, hstate⟩ := run_writeOne_of_moved hmoved
  refine ⟨Option.isNone_iff_eq_none.1 (hs.symm.trans hroom), ?_⟩
  have hafter : s.proceed (.request (.port operation)) = s.afterStatusRead.write .data word := by
    rw [← hstate]
    change (operation.program.run s).state = _
    rw [Operation.program_of_word? hword, Program.run_map]
  rw [hafter, write_eq]
  rfl

/-- A step that hands over no word leaves the transfer to the clock. -/
theorem transfer_of_sent?_eq_none {step : Step} (hstep : step.SendsWithRoom)
    (hclock : ∀ cycles, step ≠ .stimulus (.clock cycles))
    (h : sent? ⟨s, step, s.proceed step⟩ = none) :
    (s.proceed step).inFlight = s.inFlight ∧ (s.proceed step).elapsed = s.elapsed := by
  cases step with
  | request request =>
      cases request with
      | port operation =>
          have hwrites := (operation.makes_program Simulator s).disciplined.dataWrites
          rw [← sent?_eq_puts? hstep (s.proceed (.request (.port operation))), h] at hwrites
          change ((operation.program.run s).state).inFlight = s.inFlight ∧
            ((operation.program.run s).state).elapsed = s.elapsed
          rw [Program.state_run]
          exact transfer_foldl_apply hwrites
      | read address => exact hstep.elim
      | write address value => exact hstep.elim
      | modify address keep set => exact hstep.elim
  | stimulus change =>
      rw [proceed_stimulus]
      apply s.transfer_undergo
      · intro value hvalue
        cases hvalue
      · intro cycles hcycles
        exact hclock cycles (by rw [Event.stimulus.inj hcycles])
  | inspection inspection => exact ⟨rfl, rfl⟩

/-! ## Sessions -/

theorem Step.SendsWithRoom.avoids {step : Step} (h : step.SendsWithRoom) :
    step.Avoids [.txEmpty] [.status] := by
  cases step with
  | request request => trivial
  | stimulus change => exact h
  | inspection inspection => trivial

/-- Every step keeps the flag for room in step with the transfer. -/
theorem ShowsRoom.proceed (hs : s.ShowsRoom) {step : Step} (h : step.Avoids [.txEmpty] [.status]) :
    (s.proceed step).ShowsRoom :=
  invariant_proceed ShowsRoom (fun _ _ hevent ht => ht.undergo hevent) hs
    (avoids_of_mem_stepEvents s h)

/-- The sending side gives back what it is given, at every step. -/
theorem finished_append_inFlight (hs : s.ShowsRoom) {step : Step} (hstep : step.SendsWithRoom) :
    (finished? ⟨s, step, s.proceed step⟩).toList ++ (s.proceed step).inFlight.toList =
      s.inFlight.toList ++ (sent? ⟨s, step, s.proceed step⟩).toList := by
  cases hsent : sent? ⟨s, step, s.proceed step⟩ with
  | some word =>
      obtain ⟨operation, rfl, -⟩ := sent?_eq_some hsent
      obtain ⟨hbefore, hafter⟩ := transfer_of_sent?_eq_some hs hsent
      rw [hbefore, hafter]
      rfl
  | none =>
      by_cases hclock : ∃ cycles, step = .stimulus (.clock cycles)
      -- only the clock takes a word away, and then it is the one in flight
      · obtain ⟨cycles, rfl⟩ := hclock
        simp only [proceed_stimulus, finished?]
        rcases s.undergo_clock_cases cycles with ⟨hnone, count, -, hstate⟩ |
          ⟨word, hword, hsome, hstate⟩
        · rw [hnone, hstate]
          simp
        · rw [hsome, hstate, hword, inFlight_complete]
      · have hfinished : finished? ⟨s, step, s.proceed step⟩ = none := by
          cases step with
          | request request => rfl
          | stimulus change =>
              apply s.completed?_of_ne_clock
              intro cycles hcycles
              exact hclock ⟨cycles, by rw [Event.stimulus.inj hcycles]⟩
          | inspection inspection => rfl
        rw [hfinished, (transfer_of_sent?_eq_none hstep (not_exists.1 hclock) hsent).1]
        simp

/-- From any state on that shows its room, the words of the completed frames and then the one in
flight are the one in flight at first and then all words handed over. -/
theorem finished_trace (hs : s.ShowsRoom) {steps : List Step}
    (permitted : ∀ step ∈ steps, step.SendsWithRoom) :
    (trace proceed s steps).filterMap finished? ++ (steps.foldl proceed s).inFlight.toList =
      s.inFlight.toList ++ (trace proceed s steps).filterMap sent? :=
  trace_conserves proceed ShowsRoom (fun s => s.inFlight.toList)
    (fun _ _ hstep hs => hs.proceed hstep.avoids)
    (fun _ _ hstep hs => finished_append_inFlight hs hstep) hs permitted

/-- Transmission in a session that writes the data register with room only. The words handed over
are those of the frames that the clock completes, in order, and then the one in flight. A step other
than the clock that finds a word in flight, or that hands over none, leaves the transfer as it
was. -/
theorem transmission_session (steps : List Step)
    (permitted : ∀ step ∈ steps, step.SendsWithRoom) :
    (trace proceed initial steps).filterMap sent? =
        (trace proceed initial steps).filterMap finished? ++
          (steps.foldl proceed initial).inFlight.toList ∧
      ∀ t ∈ trace proceed initial steps, (∀ cycles, t.input ≠ .stimulus (.clock cycles)) →
        (t.before.inFlight ≠ none ∨ sent? t = none) →
          t.after.inFlight = t.before.inFlight ∧ t.after.elapsed = t.before.elapsed := by
  constructor
  · exact (finished_trace showsRoom_initial permitted).symm
  · intro t ht hclock hkept
    obtain ⟨hs, hstep, hafter⟩ :=
      forall_mem_trace proceed ShowsRoom (fun _ _ hstep hs => hs.proceed hstep.avoids)
        showsRoom_initial permitted t ht
    obtain ⟨s, step, after⟩ := t
    obtain rfl : after = s.proceed step := hafter
    cases hsent : sent? ⟨s, step, s.proceed step⟩ with
    | none => exact transfer_of_sent?_eq_none hstep hclock hsent
    | some word =>
        -- a word is handed over only while none is in flight
        have hbefore := (transfer_of_sent?_eq_some hs hsent).1
        rw [hsent] at hkept
        exact absurd hbefore (hkept.resolve_right nofun)

/-- A call in the middle of a frame is refused, and its word goes out when it is handed over again
after the frame. -/
theorem transmission_with_refusal :
    (∀ step ∈ [Step.request (.port .enable), .request (.port (.writeByte 0xA5)),
        .request (.port (.writeOne 0x3C)), .stimulus (.clock 8),
        .request (.port (.writeOne 0x3C))], step.SendsWithRoom) ∧
      (trace proceed initial [.request (.port .enable), .request (.port (.writeByte 0xA5)),
          .request (.port (.writeOne 0x3C)), .stimulus (.clock 8),
          .request (.port (.writeOne 0x3C))]).filterMap sent? = [0xA5, 0x3C] := by
  have h : ∀ step ∈ [Step.request (.port .enable), .request (.port (.writeByte 0xA5)),
      .request (.port (.writeOne 0x3C)), .stimulus (.clock 8),
      .request (.port (.writeOne 0x3C))], step.SendsWithRoom := by
    simp [Step.SendsWithRoom, Stimulus.Avoids]
  exact ⟨h, (transmission_session _ h).1.trans (by decide)⟩

end SpiController.Simulator
