import SpiController.Proofs.Simulator.ErrorFlag
import SpiController.Proofs.WordCall

/-!
# What a failed call leaves behind

A call that moves a word fails with the error that the status shows. To see it, the call has to read
the status register, and that read is the access which clears an underrun, and an overrun after a
read of the data register. So a failed call keeps the error flags, and fails again in the same way,
exactly when neither applies.
-/

namespace SpiController.Simulator

/-- After this past, the read of the status register that reports the error clears it too. -/
def ClearedByReport (past : List (Transition Simulator Event)) : TransferError → Prop
  | .underrun => True
  | .overrun => DataReadSinceOverrun past
  | .modeFault | .crc => False

theorem clearSequence_read_status {past : List (Transition Simulator Event)}
    {error : TransferError} :
    ClearSequence error past (.read .status) ↔ ClearedByReport past error := by
  cases error <;> simp [ClearSequence, ClearedByReport]

/-- A status read keeps the error flags that the past does not let it clear. -/
theorem flag_afterStatusRead_iff {events : List Event}
    (permitted : ∀ event ∈ events, event.Avoids [] [.status]) (error : TransferError) :
    (events.foldl undergo initial).afterStatusRead.flag error.flag = true ↔
      (events.foldl undergo initial).flag error.flag = true ∧
        ¬ ClearedByReport (trace undergo initial events) error := by
  have hread := (events.foldl undergo initial).flag_afterRead .status error.flag
  rw [afterRead] at hread
  rw [hread, Bool.and_eq_true, Bool.not_eq_true', ← Bool.not_eq_true]
  refine and_congr_right fun hflag => not_congr ?_
  rw [clears_iff_clearSequence permitted hflag, clearSequence_read_status]

/-- All error flags are the same after a status read exactly when it clears none that is set. -/
theorem flag_afterStatusRead_eq_iff {events : List Event}
    (permitted : ∀ event ∈ events, event.Avoids [] [.status]) :
    (∀ error : TransferError, (events.foldl undergo initial).afterStatusRead.flag error.flag =
        (events.foldl undergo initial).flag error.flag) ↔
      ∀ error : TransferError, (events.foldl undergo initial).flag error.flag = true →
        ¬ ClearedByReport (trace undergo initial events) error := by
  refine forall_congr' fun error => ?_
  rw [Bool.eq_iff_iff, flag_afterStatusRead_iff permitted]
  constructor
  · intro h hflag
    exact (h.2 hflag).2
  · intro h
    exact ⟨fun hboth => hboth.1, fun hflag => ⟨hflag, h hflag⟩⟩

/-- A call that fails leaves the state that the status read leaves. -/
theorem proceed_of_failure {s : Simulator} {operation : Operation} (h : operation.MovesWord)
    {error : TransferError}
    (hfailure : (operation.program.run s).result.failure? = some error) :
    s.proceed (.request (.port operation)) = s.afterStatusRead :=
  Operation.state_of_failure h hfailure

/-- Failed calls in a session that leaves the status register to the bus and the flags to the
hardware. The flag of an error survives the call exactly when the call's own status read does not
clear it: an underrun never survives, and an overrun does not once the data register was read. So
all error flags stay as they were exactly when no underrun is set and no overrun of that kind, and a
further call fails with the same error exactly when the flag of that error survives. -/
theorem failed_calls_session (steps : List Step)
    (permitted : ∀ step ∈ steps, step.Avoids [] [.status]) (operation : Operation)
    (hmoves : operation.MovesWord) (error : TransferError)
    (hfailure : (operation.program.run (steps.foldl proceed initial)).result.failure? =
      some error) :
    let before := steps.foldl proceed initial
    let after := before.proceed (.request (.port operation))
    let past := initial.history steps
    (∀ e : TransferError, after.flag e.flag = true ↔
        before.flag e.flag = true ∧ ¬ ClearedByReport past e) ∧
      ((∀ e : TransferError, after.flag e.flag = before.flag e.flag) ↔
        before.flag .underrun = false ∧
          (before.flag .overrun = true → ¬ DataReadSinceOverrun past)) ∧
      ∀ again : Operation, again.MovesWord →
        ((again.program.run after).result.failure? = some error ↔
          ¬ ClearedByReport past error) := by
  intro before after past
  have havoids := initial.avoids_of_mem_events permitted
  have hbefore : before = (initial.events steps).foldl undergo initial := initial.foldl_proceed steps
  have hpast : past = trace undergo initial (initial.events steps) := initial.history_eq_trace steps
  have hafter : after = before.afterStatusRead := proceed_of_failure hmoves hfailure
  have hflags (e : TransferError) : after.flag e.flag = true ↔
      before.flag e.flag = true ∧ ¬ ClearedByReport past e := by
    rw [hafter, hbefore, hpast]
    exact flag_afterStatusRead_iff havoids e
  refine ⟨hflags, ?_, fun again hagain => ?_⟩
  -- of the four errors, only an underrun and an overrun can be cleared
  · have hsame := flag_afterStatusRead_eq_iff havoids
    rw [← hbefore, ← hpast, ← hafter] at hsame
    rw [hsame]
    constructor
    · intro h
      exact ⟨Bool.eq_false_iff.2 fun hunderrun => h .underrun hunderrun trivial, h .overrun⟩
    · rintro ⟨hunderrun, hoverrun⟩ e hflag
      cases e with
      | overrun => exact hoverrun hflag
      | modeFault => exact id
      | crc => exact id
      | underrun => exact absurd hflag (Bool.eq_false_iff.1 hunderrun)
  -- the error had its flag set, and the status after the call shows no flag that was clear
  · have hseen : (Status.mk before.status).error = some error :=
      (Operation.failure?_run hmoves before).symm.trans hfailure
    rw [Operation.failure?_run hagain]
    change (Status.mk after.status).error = some error ↔ _
    rw [Status.error_of_imp hseen fun e he => ((hflags e).1 he).1]
    exact (hflags error).trans (and_iff_right (Status.isSet_of_error hseen))

/-- An overrun that a call reports stays while the data register is not read. -/
theorem failed_read_keeps_overrun :
    (∀ step ∈ [Step.stimulus (.raise .overrun)], step.Avoids [] [.status]) ∧
      let before := [Step.stimulus (.raise .overrun)].foldl proceed initial
      let after := before.proceed (.request (.port .readOne))
      (Operation.readOne.program.run before).result.failure? = some .overrun ∧
        (Operation.readOne.program.run after).result.failure? = some .overrun ∧
        ∀ e : TransferError, after.flag e.flag = before.flag e.flag := by
  have h : ∀ step ∈ [Step.stimulus (.raise .overrun)], step.Avoids [] [.status] := by
    simp [Step.Avoids, Stimulus.Avoids]
  have hfailure : (Operation.readOne.program.run
      ([Step.stimulus (.raise .overrun)].foldl proceed initial)).result.failure? =
        some .overrun := by decide
  obtain ⟨-, hsame, hagain⟩ := failed_calls_session _ h .readOne trivial .overrun hfailure
  have hunread := (hagain .readOne trivial).1 (by decide)
  exact ⟨h, hfailure, by decide, hsame.2 ⟨by decide, fun _ => hunread⟩⟩

/-- An underrun that a call reports is gone after the call, and the same call right after that does
not fail. -/
theorem failed_read_clears_underrun :
    let before := [Step.stimulus (.raise .underrun)].foldl proceed initial
    let after := before.proceed (.request (.port .readOne))
    (Operation.readOne.program.run before).result.failure? = some .underrun ∧
      before.flag .underrun = true ∧ after.flag .underrun = false ∧
      (Operation.readOne.program.run after).result.failure? = none := by
  decide

end SpiController.Simulator
