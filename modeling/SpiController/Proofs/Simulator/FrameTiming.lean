import Mathlib.Algebra.GroupWithZero.Nat
import Mathlib.Data.List.DropRight
import SpiController.Proofs.Simulator.Session

/-!
# When a frame ends

The frame of the word in flight ends at the run of the clock with which the cycles since the data
register was last written reach the frame length (`frames_session`). Only the cycles that run while
the peripheral is enabled count, so that a frame can be paused, and only the frame length at that
very run counts.

The sum of these cycles is taken over the past (`cyclesSinceWrite`). While a word is in flight, the
peripheral's own count is this sum (`elapsed_eq_cyclesSinceWrite`), as long as no run of the clock
outgrows the count.
-/

namespace SpiController.Simulator

/-! ## Counting cycles -/

/-- The event writes the data register. -/
def Event.writesData : Event → Bool
  | .write .data _ => true
  | _ => false

theorem Event.writesData_iff {event : Event} :
    event.writesData = true ↔ ∃ value, event = .write .data value := by
  cases event with
  | read address => simp [writesData]
  | write address value => cases address <;> simp [writesData]
  | stimulus change => simp [writesData]

/-- The cycles for which an event runs the clock of an enabled peripheral. -/
def cyclesRun (s : Simulator) : Event → Nat
  | .stimulus (.clock cycles) => if s.enabled then cycles.toNat else 0
  | _ => 0

/-- The cycles that have run on an enabled peripheral since the data register was last written. -/
def cyclesSinceWrite (past : List (Transition Simulator Event)) : Nat :=
  ((past.rtakeWhile fun t => !t.input.writesData).map fun t => t.before.cyclesRun t.input).sum

/-- A stimulus that has a state after it. Only a run of the clock can lack one. -/
def succeeds (s : Simulator) : Event → Bool
  | .stimulus change => (s.stimulate change).isOk
  | .read _ | .write _ _ => true

theorem cyclesSinceWrite_concat (past : List (Transition Simulator Event))
    (t : Transition Simulator Event) :
    cyclesSinceWrite (past ++ [t]) =
      if t.input.writesData then 0 else cyclesSinceWrite past + t.before.cyclesRun t.input := by
  cases h : t.input.writesData with
  | true => simp [cyclesSinceWrite, h]
  | false => simp [cyclesSinceWrite, h]

variable {s : Simulator}

theorem cyclesRun_of_ne_clock {event : Event} (h : ∀ cycles, event ≠ .stimulus (.clock cycles)) :
    s.cyclesRun event = 0 := by
  cases event with
  | read address => rfl
  | write address value => rfl
  | stimulus change =>
      cases change with
      | clock cycles => exact absurd rfl (h cycles)
      | deliver word => rfl
      | raise flag => rfl
      | poke address value => rfl
      | forgetWrites => rfl

/-- The event neither writes the data register nor runs the clock of an enabled peripheral. -/
def Pauses (s : Simulator) (event : Event) : Prop :=
  event.writesData = false ∧ ∀ cycles, event = .stimulus (.clock cycles) → s.enabled = false

theorem Pauses.cyclesRun_eq_zero {event : Event} (h : s.Pauses event) : s.cyclesRun event = 0 := by
  by_cases hclock : ∃ cycles, event = .stimulus (.clock cycles)
  · obtain ⟨cycles, rfl⟩ := hclock
    simp [cyclesRun, h.2 cycles rfl]
  · exact cyclesRun_of_ne_clock (not_exists.1 hclock)

/-- A pause adds nothing to the sum and takes nothing from it. -/
theorem cyclesSinceWrite_append_of_pauses {past pause : List (Transition Simulator Event)}
    (h : ∀ t ∈ pause, t.before.Pauses t.input) :
    cyclesSinceWrite (past ++ pause) = cyclesSinceWrite past := by
  induction pause using List.reverseRecOn with
  | nil => rw [List.append_nil]
  | append_singleton pause t ih =>
      rw [List.forall_mem_append, List.forall_mem_singleton] at h
      obtain ⟨hpause, ht⟩ := h
      rw [← List.append_assoc, cyclesSinceWrite_concat, ht.1, ht.cyclesRun_eq_zero, ih hpause]
      rfl

/-! ## One run of the clock -/

/-- A run of the clock that succeeds does nothing, advances the count below the frame length or ends
the frame, as the sum of cycles says. -/
theorem undergo_clock_of_succeeds {cycles : BitVec 32}
    (h : s.succeeds (.stimulus (.clock cycles)) = true) :
    (s.undergo (.stimulus (.clock cycles)) = s ∧ (s.enabled = false ∨ s.inFlight = none)) ∨
    (∃ word, s.enabled = true ∧ s.inFlight = some word ∧
      s.elapsed.toNat + cycles.toNat < s.frameLength.cycles.toNat ∧
      ∃ count, count.toNat = s.elapsed.toNat + cycles.toNat ∧
        s.undergo (.stimulus (.clock cycles)) = { s with elapsed := count }) ∨
    ∃ word, s.enabled = true ∧ s.inFlight = some word ∧
      s.frameLength.cycles.toNat ≤ s.elapsed.toNat + cycles.toNat ∧
      s.undergo (.stimulus (.clock cycles)) = s.complete word := by
  cases hclock : s.clock cycles with
  | error fault => simp [succeeds, stimulate, hclock, Except.isOk, Except.toBool] at h
  | ok after =>
      have hstate : s.undergo (.stimulus (.clock cycles)) = after := by
        simp [undergo, stimulate, hclock]
      rw [hstate]
      rcases s.clock_cases hclock with ⟨rfl, hidle⟩ | ⟨word, hticks, hlt, rfl⟩ |
        ⟨word, hticks, hge, rfl⟩
      · exact .inl ⟨rfl, hidle⟩
      · rw [BitVec.lt_def, hticks.toNat_add] at hlt
        exact .inr (.inl ⟨word, hticks.1, hticks.2.1, hlt, _, hticks.toNat_add, rfl⟩)
      · rw [BitVec.le_def, hticks.toNat_add] at hge
        exact .inr (.inr ⟨word, hticks.1, hticks.2.1, hge, rfl⟩)

/-- A run of the clock ends the frame of the word in flight exactly when the peripheral is enabled
and the cycles reach the frame length. -/
theorem completed?_clock_eq_some_iff {cycles : BitVec 32}
    (h : s.succeeds (.stimulus (.clock cycles)) = true) (word : Word) :
    s.completed? (.stimulus (.clock cycles)) = some word ↔
      s.enabled = true ∧ s.inFlight = some word ∧
        s.frameLength.cycles.toNat ≤ s.elapsed.toNat + cycles.toNat := by
  rw [completed?]
  rcases undergo_clock_of_succeeds h with ⟨hstate, hidle⟩ |
    ⟨sent, -, hsent, hlt, count, -, hstate⟩ | ⟨sent, henabled, hsent, hge, hstate⟩
  · rw [hstate]
    constructor
    · intro hword
      split at hword
      next hnone =>
          rw [hnone] at hword
          cases hword
      next => cases hword
    · rintro ⟨henabled, hword, -⟩
      rcases hidle with hdisabled | hnone
      · rw [henabled] at hdisabled
        cases hdisabled
      · rw [hword] at hnone
        cases hnone
  -- the word is still in flight
  · rw [hstate, hsent, if_neg (Option.some_ne_none sent)]
    constructor
    · intro hword
      cases hword
    · rintro ⟨-, -, hge⟩
      exact absurd hge (Nat.not_le.2 hlt)
  · rw [hstate, if_pos (s.inFlight_complete sent), hsent]
    constructor
    · intro hword
      exact ⟨henabled, hword, hge⟩
    · rintro ⟨-, hword, -⟩
      exact hword

/-- The same, by a sum that is known to be the count while a word is in flight. -/
theorem completed?_clock_eq_some_iff_of_count {cycles : BitVec 32} {total : Nat}
    (h : s.succeeds (.stimulus (.clock cycles)) = true)
    (hcount : s.inFlight ≠ none → s.elapsed.toNat = total) (word : Word) :
    s.completed? (.stimulus (.clock cycles)) = some word ↔
      s.enabled = true ∧ s.inFlight = some word ∧
        s.frameLength.cycles.toNat ≤ total + cycles.toNat := by
  rw [completed?_clock_eq_some_iff h]
  refine and_congr_right fun _ => and_congr_right fun hword => ?_
  have hflying : s.inFlight ≠ none := by simp [hword]
  rw [hcount hflying]

/-- A run of the clock that ends no frame changes the count of cycles at most. -/
theorem undergo_clock_of_completed?_eq_none {cycles : BitVec 32}
    (h : s.completed? (.stimulus (.clock cycles)) = none) :
    s.undergo (.stimulus (.clock cycles)) =
      { s with elapsed := (s.undergo (.stimulus (.clock cycles))).elapsed } := by
  rcases s.undergo_clock_cases cycles with ⟨-, count, -, hstate⟩ | ⟨word, -, hsome, -⟩
  · rw [hstate]
  · rw [h] at hsome
    cases hsome

/-- On a disabled peripheral, and without a word in flight, the clock does nothing at all. -/
theorem undergo_clock_of_idle (cycles : BitVec 32) (h : s.enabled = false ∨ s.inFlight = none) :
    s.undergo (.stimulus (.clock cycles)) = s := by
  have hclock : s.clock cycles = .ok s := by
    rcases h with hdisabled | hidle
    · exact s.clock_of_disabled cycles hdisabled
    · exact s.clock_of_idle cycles hidle
  simp [undergo, stimulate, hclock]

/-- What the end of the frame of a word makes of a state. -/
structure EndsFrame (word : Word) (before after : Simulator) : Prop where
  inFlight : after.inFlight = none
  txEmpty : after.flag .txEmpty = true
  busy : after.flag .busy = false
  crcNext : Control1.crcNext.read after.control1 = false
  /-- The other flags are those of one delivery of the word. -/
  flags : ∀ f, f ≠ .txEmpty → f ≠ .busy → after.flag f = (before.deliver word).flag f
  /-- The rest is as one delivery of the word leaves it. -/
  delivered : after =
    { before.deliver word with
      status := after.status
      control1 := Control1.crcNext.write false before.control1
      inFlight := none
      elapsed := 0 }

theorem endsFrame_complete (s : Simulator) (word : Word) : EndsFrame word s (s.complete word) := by
  refine ⟨s.inFlight_complete word, ?_, ?_, ?_, ?_, ?_⟩
  · simp [flag_complete]
  · simp [flag_complete]
  · rw [complete_eq, Field.read_write]
  · intro f htx hbusy
    have htx' : (f == .txEmpty) = false := beq_eq_false_iff_ne.2 htx
    have hbusy' : (f != .busy) = true := bne_iff_ne.2 hbusy
    rw [flag_complete, flag_deliver, htx', hbusy', Bool.and_true, Bool.or_false]
  · rw [complete_eq, deliver_eq]

theorem endsFrame_of_completed? {cycles : BitVec 32} {word : Word}
    (h : s.completed? (.stimulus (.clock cycles)) = some word) :
    EndsFrame word s (s.undergo (.stimulus (.clock cycles))) := by
  rcases s.undergo_clock_cases cycles with ⟨hnone, -⟩ | ⟨sent, -, hsent, hstate⟩
  · rw [hnone] at h
    cases h
  · obtain rfl : sent = word := Option.some.inj (hsent.symm.trans h)
    rw [hstate]
    exact s.endsFrame_complete sent

/-! ## The count over a session -/

/-- In a pause the word stays in flight with its count of cycles. -/
theorem Pauses.transfer_undergo {event : Event} (h : s.Pauses event) :
    (s.undergo event).inFlight = s.inFlight ∧ (s.undergo event).elapsed = s.elapsed := by
  by_cases hclock : ∃ cycles, event = .stimulus (.clock cycles)
  · obtain ⟨cycles, rfl⟩ := hclock
    rw [undergo_clock_of_idle cycles (.inl (h.2 cycles rfl))]
    exact ⟨rfl, rfl⟩
  · have hwrite : ¬ ∃ value, event = .write .data value := by
      rw [← Event.writesData_iff, h.1]
      exact Bool.false_ne_true
    exact s.transfer_undergo (not_exists.1 hwrite) (not_exists.1 hclock)

/-- What an event does to the count of cycles while a word is in flight. -/
theorem elapsed_undergo {event : Event} (hsucceeds : s.succeeds event = true) {total : Nat}
    (hs : s.inFlight ≠ none → s.elapsed.toNat = total) (h : (s.undergo event).inFlight ≠ none) :
    (s.undergo event).elapsed.toNat =
      if event.writesData then 0 else total + s.cyclesRun event := by
  by_cases hclock : ∃ cycles, event = .stimulus (.clock cycles)
  · obtain ⟨cycles, rfl⟩ := hclock
    rcases undergo_clock_of_succeeds hsucceeds with ⟨hstate, hidle⟩ |
      ⟨word, henabled, hword, -, count, hcount, hstate⟩ | ⟨word, -, -, -, hstate⟩
    · rw [hstate] at h ⊢
      have hdisabled : s.enabled = false := hidle.resolve_right h
      simp [Event.writesData, cyclesRun, hdisabled, hs h]
    · have hflying : s.inFlight ≠ none := by simp [hword]
      rw [hstate]
      simp [Event.writesData, cyclesRun, henabled, hcount, hs hflying]
    · rw [hstate, inFlight_complete] at h
      exact absurd rfl h
  · rw [cyclesRun_of_ne_clock (not_exists.1 hclock), Nat.add_zero]
    by_cases hwrite : ∃ value, event = .write .data value
    · rw [if_pos (Event.writesData_iff.2 hwrite)]
      obtain ⟨value, rfl⟩ := hwrite
      rw [undergo, write_eq]
      rfl
    · rw [if_neg (mt Event.writesData_iff.1 hwrite)]
      obtain ⟨hword, hcount⟩ := s.transfer_undergo (not_exists.1 hwrite) (not_exists.1 hclock)
      rw [hword] at h
      rw [hcount, hs h]

/-- While a word is in flight, the count of cycles is their sum since the word was written. -/
theorem elapsed_eq_cyclesSinceWrite {events : List Event}
    (hsucceeds : ∀ t ∈ trace undergo initial events, t.before.succeeds t.input = true)
    (h : (events.foldl undergo initial).inFlight ≠ none) :
    (events.foldl undergo initial).elapsed.toNat =
      cyclesSinceWrite (trace undergo initial events) := by
  induction events using List.reverseRecOn with
  | nil => exact absurd rfl h
  -- on the events from the end, since the past grows there
  | append_singleton events event ih =>
      rw [trace_concat] at hsucceeds ⊢
      rw [List.forall_mem_append, List.forall_mem_singleton] at hsucceeds
      rw [List.foldl_append] at h ⊢
      rw [cyclesSinceWrite_concat]
      exact elapsed_undergo hsucceeds.2 (ih hsucceeds.1) h

/-! ## Sessions -/

/-- In a session of which every step has an answer, every event succeeds. -/
theorem succeeds_of_mem_history {s : Simulator} {steps : List Step}
    (h : ∀ report ∈ s.session steps, report.answer.isOk = true) :
    ∀ t ∈ s.history steps, t.before.succeeds t.input = true := by
  intro t ht
  obtain ⟨u, hu, ht⟩ := List.mem_flatMap.1 ht
  rw [session_eq_map_trace] at h
  have hanswer := h _ (List.mem_map_of_mem hu)
  obtain ⟨before, step, after⟩ := u
  cases step with
  | request request =>
      -- all events of a request are accesses
      obtain ⟨access, -, haccess⟩ := List.mem_map.1 (input_mem_of_mem_trace undergo ht)
      rw [← haccess]
      cases access <;> rfl
  | stimulus change =>
      obtain rfl := List.mem_singleton.1 ht
      simp only [perform] at hanswer
      simp only [succeeds]
      cases hchange : before.stimulate change with
      | ok after => rfl
      | error fault =>
          rw [hchange] at hanswer
          exact hanswer
  | inspection inspection => cases ht

/-- Frames in a session without a fault. A run of the clock ends the frame of the word in flight
exactly when the peripheral is enabled and the cycles that have run on it since the data register
was written reach the frame length, which is then the one that counts. The word is delivered once,
and room is made for the next one. Any other run of the clock changes the count of cycles at most,
which is that sum while a word is in flight. A pause takes nothing from it, and a write of the data
register starts it again, also in the middle of a frame. -/
theorem frames_session (steps : List Step)
    (hanswers : ∀ report ∈ initial.session steps, report.answer.isOk = true)
    (earlier later : List (Transition Simulator Event)) (t : Transition Simulator Event)
    (h : initial.history steps = earlier ++ t :: later) :
    (∀ cycles, t.input = .stimulus (.clock cycles) →
      (∀ word, t.before.completed? t.input = some word ↔
        t.before.enabled = true ∧ t.before.inFlight = some word ∧
          t.before.frameLength.cycles.toNat ≤ cyclesSinceWrite earlier + cycles.toNat) ∧
      (∀ word, t.before.completed? t.input = some word → EndsFrame word t.before t.after) ∧
      (t.before.completed? t.input = none →
        t.after = { t.before with elapsed := t.after.elapsed }) ∧
      (t.before.enabled = false ∨ t.before.inFlight = none → t.after = t.before)) ∧
    (t.before.inFlight ≠ none → t.before.elapsed.toNat = cyclesSinceWrite earlier) ∧
    (t.before.Pauses t.input →
      t.after.inFlight = t.before.inFlight ∧ t.after.elapsed = t.before.elapsed) ∧
    (∀ past pause, earlier = past ++ pause → (∀ u ∈ pause, u.before.Pauses u.input) →
      cyclesSinceWrite earlier = cyclesSinceWrite past) ∧
    ∀ value, t.input = .write .data value →
      t.after.inFlight = some value ∧ t.after.elapsed = 0 ∧
        cyclesSinceWrite (earlier ++ [t]) = 0 := by
  have hsucceeds := succeeds_of_mem_history hanswers
  rw [h, List.forall_mem_append, List.forall_mem_cons] at hsucceeds
  rw [history_eq_trace] at h
  obtain ⟨first, event, second, -, rfl, rfl, -⟩ := trace_eq_append_cons undergo h
  obtain ⟨hpast, hnow, -⟩ := hsucceeds
  have hcount := elapsed_eq_cyclesSinceWrite hpast
  refine ⟨?_, hcount, Pauses.transfer_undergo, ?_, ?_⟩
  · rintro cycles rfl
    exact ⟨completed?_clock_eq_some_iff_of_count hnow hcount, fun word => endsFrame_of_completed?,
      undergo_clock_of_completed?_eq_none, undergo_clock_of_idle cycles⟩
  · rintro past pause hpause hpauses
    rw [hpause]
    exact cyclesSinceWrite_append_of_pauses hpauses
  · rintro value rfl
    rw [cyclesSinceWrite_concat, undergo, write_eq]
    exact ⟨rfl, rfl, rfl⟩

/-- A frame of eight cycles that is paused after five of them ends three cycles after the pause,
whatever the clock does in the pause. -/
theorem frame_ends_after_pause :
    let steps : List Step := [.request (.port .enable), .request (.port (.transmit 0x1a5)),
      .stimulus (.clock 5), .request (.port .disable), .stimulus (.clock 50),
      .request (.port .enable), .stimulus (.clock 3)]
    (∀ report ∈ initial.session steps, report.answer.isOk = true) ∧
      ∃ earlier t, initial.history steps = earlier ++ t :: [] ∧
        cyclesSinceWrite earlier = 5 ∧ t.before.completed? t.input = some 0x1a5 ∧
        t.after.data = 0xa5 := by
  intro steps
  have hanswers : ∀ report ∈ initial.session steps, report.answer.isOk = true := by decide
  refine ⟨hanswers, [_, _, _, _, _, _, _, _, _], _, rfl, by decide, ?_, by decide⟩
  exact (((frames_session steps hanswers [_, _, _, _, _, _, _, _, _] [] _ rfl).1 3 rfl).1 _).2
    (by decide)

end SpiController.Simulator
