import SpiController.Proofs.Simulator.Session

/-!
# The count of cycles does not run away

The count of cycles is the one of an unfinished frame, or zero while no word is in flight
(`CountsFrame`). No event breaks that, not even a change of a register from outside: the count grows
only below the frame length of the moment, and a write of the data register or the end of a frame
sets it to zero.

So a run of the clock can outgrow the count only by itself. `faults_session` says when a step of a
session has a fault, and that the bound on the cycles of such a run is sharp.
-/

namespace SpiController.Simulator

variable {s : Simulator}

/-- The cycles counted are those of an unfinished frame. -/
structure CountsFrame (s : Simulator) : Prop where
  le : s.elapsed.toNat ≤ 15
  idle : s.inFlight = none → s.elapsed = 0

theorem countsFrame_initial : initial.CountsFrame where
  le := by decide
  idle := fun _ => rfl

/-- A run of the clock leaves the count as it is, advances it below the frame length, or ends the
frame. -/
theorem CountsFrame.clock (hs : s.CountsFrame) {cycles : BitVec 32} {after : Simulator}
    (h : s.clock cycles = .ok after) : after.CountsFrame := by
  rcases s.clock_cases h with ⟨rfl, -⟩ | ⟨word, hticks, hlt, rfl⟩ | ⟨word, -, -, rfl⟩
  · exact hs
  · rw [BitVec.lt_def] at hlt
    have hframe := s.frameLength.cycles_le
    refine ⟨?_, fun hidle => ?_⟩
    · exact Nat.le_of_lt_succ (Nat.lt_of_lt_of_le hlt hframe)
    · rw [hticks.2.1] at hidle
      cases hidle
  · rw [complete_eq]
    exact ⟨Nat.zero_le _, fun _ => rfl⟩

/-- Every event keeps the count that of an unfinished frame. -/
theorem CountsFrame.undergo (hs : s.CountsFrame) (event : Event) :
    (s.undergo event).CountsFrame := by
  by_cases hclock : ∃ cycles, event = .stimulus (.clock cycles)
  · obtain ⟨cycles, rfl⟩ := hclock
    cases h : s.clock cycles with
    | ok after => simpa [Simulator.undergo, stimulate, h] using hs.clock h
    | error fault => simpa [Simulator.undergo, stimulate, h] using hs
  · by_cases hwrite : ∃ value, event = .write .data value
    -- the word that is written starts with no cycles
    · obtain ⟨value, rfl⟩ := hwrite
      rw [Simulator.undergo, write_eq]
      exact ⟨Nat.zero_le _, fun _ => rfl⟩
    · obtain ⟨hword, hcount⟩ := s.transfer_undergo (not_exists.1 hwrite) (not_exists.1 hclock)
      refine ⟨?_, fun hidle => ?_⟩
      · rw [hcount]
        exact hs.le
      · rw [hword] at hidle
        rw [hcount, hs.idle hidle]

theorem CountsFrame.proceed (hs : s.CountsFrame) (step : Step) : (s.proceed step).CountsFrame :=
  invariant_proceed CountsFrame (fun _ event _ hs => hs.undergo event) hs (fun _ _ => trivial)

/-! ## Faults -/

/-- A step faults exactly when it is a run of the clock that does. -/
theorem answer_perform_eq_error_iff (s : Simulator) (step : Step) (fault : Fault) :
    (s.perform step).answer = .error fault ↔
      ∃ cycles, step = .stimulus (.clock cycles) ∧ s.clock cycles = .error fault := by
  cases step with
  | request request => simp [perform, Report.ofRun]
  | inspection inspection => simp [perform, Report.offBus]
  | stimulus change =>
      cases change with
      | clock cycles => cases h : s.clock cycles <;> simp [perform, stimulate, h, Report.offBus]
      | deliver word => simp [perform, stimulate, Report.offBus]
      | raise flag => simp [perform, stimulate, Report.offBus]
      | poke address value => simp [perform, stimulate, Report.offBus]
      | forgetWrites => simp [perform, stimulate, Report.offBus]

/-- A step that faults changes nothing. -/
theorem proceed_of_fault {step : Step} {fault : Fault}
    (h : (s.perform step).answer = .error fault) : s.proceed step = s := by
  obtain ⟨cycles, rfl, hclock⟩ := (s.answer_perform_eq_error_iff step fault).1 h
  simp [proceed, perform, stimulate, hclock, Report.offBus]

/-- Fifteen cycles at most are counted, so that it takes the rest of 32 bits to outgrow the count. -/
theorem CountsFrame.le_of_overflow (hs : s.CountsFrame) {cycles : BitVec 32}
    (h : 2 ^ 32 ≤ s.elapsed.toNat + cycles.toNat) : 2 ^ 32 - 15 ≤ cycles.toNat := by
  have hcount := hs.le
  omega

/-- With fifteen cycles counted, it takes no more than that. -/
theorem answer_clock_eq_error_iff_of_fifteen (henabled : s.enabled = true) (hword : s.inFlight ≠ none)
    (hcount : s.elapsed.toNat = 15) (cycles : BitVec 32) :
    (s.perform (.stimulus (.clock cycles))).answer = .error .counterOverflow ↔
      2 ^ 32 - 15 ≤ cycles.toNat := by
  rw [answer_perform_eq_error_iff]
  constructor
  · rintro ⟨run, hrun, hclock⟩
    cases hrun
    have hoverflow := ((s.clock_eq_error_iff_le cycles .counterOverflow).1 hclock).2.2.2
    omega
  · intro hmany
    exact ⟨cycles, rfl, (s.clock_eq_error_iff_le cycles .counterOverflow).2
      ⟨rfl, henabled, hword, by omega⟩⟩

/-- Faults in sessions of any steps. The count of cycles is at most 15 throughout, and zero while no
word is in flight. A step faults exactly when it runs the clock of an enabled peripheral with a word
in flight for so many cycles that the count would outgrow 32 bits, which takes at least `2 ^ 32 - 15`
of them; it changes nothing, and the session goes on. The bound is sharp: in some session every run
of that many cycles faults. -/
theorem faults_session :
    (∀ steps : List Step,
      (steps.foldl proceed initial).CountsFrame ∧
      (∀ t ∈ initial.history steps, t.before.CountsFrame ∧ t.after.CountsFrame) ∧
      ∀ t ∈ trace proceed initial steps, ∀ fault,
        ((t.before.perform t.input).answer = .error fault ↔
          ∃ cycles, t.input = .stimulus (.clock cycles) ∧ fault = .counterOverflow ∧
            t.before.enabled = true ∧ t.before.inFlight ≠ none ∧
            2 ^ 32 ≤ t.before.elapsed.toNat + cycles.toNat) ∧
        ((t.before.perform t.input).answer = .error fault → t.after = t.before ∧
          ∃ cycles, t.input = .stimulus (.clock cycles) ∧ 2 ^ 32 - 15 ≤ cycles.toNat)) ∧
    ∃ steps : List Step, ∀ cycles,
      ((steps.foldl proceed initial).perform (.stimulus (.clock cycles))).answer =
        .error .counterOverflow ↔ 2 ^ 32 - 15 ≤ cycles.toNat := by
  constructor
  · intro steps
    obtain ⟨hend, hhistory⟩ := invariant_session CountsFrame (fun _ event _ hs => hs.undergo event)
      countsFrame_initial steps (fun _ _ => trivial)
    refine ⟨hend, hhistory, fun t ht fault => ?_⟩
    obtain ⟨hbefore, -, hafter⟩ :=
      forall_mem_trace proceed CountsFrame (fun _ step _ hs => hs.proceed step)
        countsFrame_initial (fun _ _ => trivial) t ht
    rw [answer_perform_eq_error_iff]
    refine ⟨by simp only [clock_eq_error_iff_le], ?_⟩
    rintro ⟨cycles, hinput, hclock⟩
    have hfault := (t.before.answer_perform_eq_error_iff t.input fault).2 ⟨cycles, hinput, hclock⟩
    obtain ⟨-, -, -, hoverflow⟩ := (t.before.clock_eq_error_iff_le cycles fault).1 hclock
    exact ⟨hafter.trans (proceed_of_fault hfault), cycles, hinput,
      hbefore.le_of_overflow hoverflow⟩
  -- a frame of 16 cycles that lacks one
  · refine ⟨[.request (.port (.setFrameLength .bits16)), .request (.port .enable),
      .request (.port (.transmit 0x1a5)), .stimulus (.clock 15)], ?_⟩
    exact answer_clock_eq_error_iff_of_fifteen (by decide) (by decide) (by decide)

/-- A run of the clock that outgrows the count in the last cycle of a frame changes nothing, and the
next run ends the frame. -/
theorem fault_in_last_cycle :
    let steps : List Step := [.request (.port (.setFrameLength .bits16)), .request (.port .enable),
      .request (.port (.transmit 0x1a5)), .stimulus (.clock 15)]
    let s := steps.foldl proceed initial
    let many : Step := .stimulus (.clock 0xfffffff1)
    (⟨s, many, s.proceed many⟩ : Transition Simulator Step) ∈ trace proceed initial (steps ++ [many]) ∧
      (s.perform many).answer = .error .counterOverflow ∧ s.proceed many = s ∧
      ((s.proceed many).proceed (.stimulus (.clock 1))).data = 0x1a5 := by
  intro steps s many
  have hmem : (⟨s, many, s.proceed many⟩ : Transition Simulator Step) ∈
      trace proceed initial (steps ++ [many]) := by
    rw [trace_concat]
    exact List.mem_append_right _ (List.mem_singleton_self _)
  have hfault : (s.perform many).answer = .error .counterOverflow := by decide
  obtain ⟨-, -, hsteps⟩ := faults_session.1 (steps ++ [many])
  exact ⟨hmem, hfault, ((hsteps _ hmem .counterOverflow).2 hfault).1, by decide⟩

end SpiController.Simulator
