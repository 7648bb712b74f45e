import SpiController.Proofs.Refusal
import SpiController.Proofs.Simulator.Session

/-!
# Recovery from errors

Four calls clear errors: `receive`, `status`, `enable` and `clearCrcError`. An underrun and a CRC
error clear at one call. An overrun takes `receive` and then `status`, and a mode fault takes
`status` and then `enable`. `flag_foldl_treat` says for every list of these calls which flags of a
state it clears. So of all orders in which the four can be made, those with `receive` before
`status` before `enable` clear every error of every state, and the others do not
(`recovery_order`).
-/

namespace SpiController.Simulator

/-- A call that clears an error, or takes part in clearing one. -/
inductive Remedy where
  | receive
  | status
  | enable
  | clearCrcError
  deriving DecidableEq, Repr

namespace Remedy

/-- The operation of the port that is called. -/
def operation : Remedy → Operation
  | receive => .receive
  | status => .status
  | enable => .enable
  | clearCrcError => .clearCrcError

/-- The call as a step of a session. -/
def step (remedy : Remedy) : Step :=
  .request (.port remedy.operation)

/-- The event of a call that has an effect. Before the write of `enable` there is a read without
one. -/
def event (s : Simulator) : Remedy → Event
  | receive => .read .data
  | status => .read .status
  | enable => .write .control1 (Control1.enabled.write true s.control1)
  | clearCrcError => .write .status (~~~StatusFlag.crcError.mask)

end Remedy

/-- The state after a call that clears errors. -/
def treat (s : Simulator) (remedy : Remedy) : Simulator :=
  s.proceed remedy.step

variable (s : Simulator)

theorem treat_eq_undergo (remedy : Remedy) : s.treat remedy = s.undergo (remedy.event s) := by
  cases remedy <;> rfl

theorem foldl_proceed_map_step (calls : List Remedy) :
    (calls.map Remedy.step).foldl proceed s = calls.foldl treat s :=
  List.foldl_map

/-! ## Which flags are cleared -/

theorem flag_treat (remedy : Remedy) (f : StatusFlag) :
    (s.treat remedy).flag f = (s.flag f && !s.clears f (remedy.event s)) := by
  have havoids : (remedy.event s).Avoids [] [.status] := by cases remedy <;> trivial
  have hsets : s.sets f (remedy.event s) = false := by cases remedy <;> rfl
  rw [treat_eq_undergo, flag_undergo s havoids, hsets, Bool.or_false]

/-- The calls clear the flag of a state, if it is set. -/
def ClearedBy (f : StatusFlag) (calls : List Remedy) : Prop :=
  match f with
  | .rxNotEmpty => .receive ∈ calls
  | .underrun => .status ∈ calls
  | .crcError => .clearCrcError ∈ calls
  | .overrun =>
      s.overrunDataRead = true ∧ .status ∈ calls ∨ [.receive, .status].Sublist calls
  | .modeFault =>
      s.modeFaultStatusRead = true ∧ .enable ∈ calls ∨ [.status, .enable].Sublist calls
  | .txEmpty | .sideChannel | .busy => False

theorem flag_overrun_treat (remedy : Remedy) :
    (s.treat remedy).flag .overrun =
      (s.flag .overrun && !(remedy == .status && s.overrunDataRead)) := by
  rw [flag_treat]
  cases remedy <;> rfl

/-- As long as the overrun is not cleared, `receive` sets the latch. -/
theorem overrunDataRead_treat (remedy : Remedy) (h : (s.treat remedy).flag .overrun = true) :
    (s.treat remedy).overrunDataRead = true ↔ s.overrunDataRead = true ∨ remedy = .receive := by
  rw [flag_overrun_treat, Bool.and_eq_true] at h
  obtain ⟨hflag, hkept⟩ := h
  rw [treat_eq_undergo, overrunDataRead_undergo]
  cases remedy with
  | receive => simp [Remedy.event, hflag]
  | status =>
      have hlatch : s.overrunDataRead = false := by simpa using hkept
      simp [Remedy.event, hlatch]
  | enable => simp [Remedy.event]
  | clearCrcError => simp [Remedy.event]

theorem flag_modeFault_treat (remedy : Remedy) :
    (s.treat remedy).flag .modeFault =
      (s.flag .modeFault && !(remedy == .enable && s.modeFaultStatusRead)) := by
  rw [flag_treat]
  cases remedy <;> rfl

/-- As long as the mode fault is not cleared, `status` sets the latch. -/
theorem modeFaultStatusRead_treat (remedy : Remedy)
    (h : (s.treat remedy).flag .modeFault = true) :
    (s.treat remedy).modeFaultStatusRead = true ↔
      s.modeFaultStatusRead = true ∨ remedy = .status := by
  rw [flag_modeFault_treat, Bool.and_eq_true] at h
  obtain ⟨hflag, hkept⟩ := h
  rw [treat_eq_undergo, modeFaultStatusRead_undergo]
  cases remedy with
  | receive => simp [Remedy.event]
  | status => simp [Remedy.event, hflag]
  | enable =>
      have hlatch : s.modeFaultStatusRead = false := by simpa using hkept
      simp [Remedy.event, hlatch]
  | clearCrcError => simp [Remedy.event]

/-- A flag that one call clears is set until that call is made. -/
theorem flag_foldl_treat_of_call {f : StatusFlag} {call : Remedy}
    (h : ∀ (s : Simulator) (remedy : Remedy), s.clears f (remedy.event s) = (remedy == call))
    (calls : List Remedy) :
    (calls.foldl treat s).flag f = true ↔ s.flag f = true ∧ call ∉ calls := by
  rw [flag_foldl_of_clears treat (·.flag f) (fun s remedy => by rw [flag_treat, h]),
    List.any_beq']
  simp

/-- A flag that no call clears is as before. -/
theorem flag_foldl_treat_of_kept {f : StatusFlag}
    (h : ∀ (s : Simulator) (remedy : Remedy), s.clears f (remedy.event s) = false)
    (calls : List Remedy) : (calls.foldl treat s).flag f = s.flag f := by
  rw [flag_foldl_of_clears treat (·.flag f) (fun s remedy => by rw [flag_treat, h])]
  simp

/-- After any of the calls, a flag is set if it was set and the calls do not clear it. -/
theorem flag_foldl_treat (f : StatusFlag) (calls : List Remedy) :
    (calls.foldl treat s).flag f = true ↔ s.flag f = true ∧ ¬ s.ClearedBy f calls := by
  cases f with
  | rxNotEmpty | underrun | crcError =>
      refine s.flag_foldl_treat_of_call (fun s remedy => ?_) calls
      cases remedy <;> rfl
  | overrun =>
      exact flag_foldl_of_latch treat (·.flag .overrun) (·.overrunDataRead)
        flag_overrun_treat overrunDataRead_treat s calls
  | modeFault =>
      exact flag_foldl_of_latch treat (·.flag .modeFault) (·.modeFaultStatusRead)
        flag_modeFault_treat modeFaultStatusRead_treat s calls
  | txEmpty | sideChannel | busy =>
      rw [ClearedBy, not_false_eq_true, and_true, ← Bool.eq_iff_iff]
      refine s.flag_foldl_treat_of_kept (fun s remedy => ?_) calls
      cases remedy <;> rfl

/-! ## What the calls leave alone -/

/-- Apart from flags, the latches and the log of writes, a call changes at most the bit that enables
the peripheral. -/
theorem treat_eq (remedy : Remedy) :
    s.treat remedy =
      { s with
        control1 :=
          if remedy = .enable then Control1.enabled.write true s.control1 else s.control1
        status := (s.treat remedy).status
        overrunDataRead := (s.treat remedy).overrunDataRead
        modeFaultStatusRead := (s.treat remedy).modeFaultStatusRead
        writes := (s.treat remedy).writes } := by
  rw [treat_eq_undergo]
  cases remedy with
  | receive | status =>
      rw [Remedy.event, undergo, read, afterRead_eq]
      rfl
  | enable =>
      rw [Remedy.event, undergo, write, store, storeControl1_eq]
      rfl
  | clearCrcError =>
      rw [Remedy.event, undergo, write, store, storeStatus_eq]
      rfl

/-- The received word, the transfer, control register 2 and the registers for the CRC are as
before. -/
structure Spares (before after : Simulator) : Prop where
  data : after.data = before.data
  inFlight : after.inFlight = before.inFlight
  elapsed : after.elapsed = before.elapsed
  control2 : after.control2 = before.control2
  crcPolynomial : after.crcPolynomial = before.crcPolynomial
  rxCrc : after.rxCrc = before.rxCrc
  txCrc : after.txCrc = before.txCrc

theorem Spares.refl : Spares s s :=
  ⟨rfl, rfl, rfl, rfl, rfl, rfl, rfl⟩

theorem Spares.trans {s t u : Simulator} (hst : Spares s t) (htu : Spares t u) : Spares s u where
  data := htu.data.trans hst.data
  inFlight := htu.inFlight.trans hst.inFlight
  elapsed := htu.elapsed.trans hst.elapsed
  control2 := htu.control2.trans hst.control2
  crcPolynomial := htu.crcPolynomial.trans hst.crcPolynomial
  rxCrc := htu.rxCrc.trans hst.rxCrc
  txCrc := htu.txCrc.trans hst.txCrc

theorem spares_treat (remedy : Remedy) : Spares s (s.treat remedy) := by
  rw [treat_eq]
  exact ⟨rfl, rfl, rfl, rfl, rfl, rfl, rfl⟩

theorem spares_foldl_treat (calls : List Remedy) : Spares s (calls.foldl treat s) := by
  induction calls generalizing s with
  | nil => exact .refl s
  | cons call rest ih => exact (s.spares_treat call).trans (ih (s.treat call))

/-- Of control register 1, only the bit that enables the peripheral changes. -/
theorem control1_foldl_treat (calls : List Remedy) :
    (calls.foldl treat s).control1 =
      if .enable ∈ calls then Control1.enabled.write true s.control1 else s.control1 := by
  induction calls generalizing s with
  | nil => rfl
  | cons call rest ih =>
      rw [List.foldl_cons, ih, treat_eq]
      by_cases hcall : call = .enable
      · subst hcall
        simp [Field.write_write]
      · simp [hcall, Ne.symm hcall]

/-! ## What the calls answer -/

theorem answer_port (operation : Operation) :
    (s.perform (.request (.port operation))).answer =
      .ok (.reply (operation.program.run s).result) := rfl

theorem answer_receive : (s.perform Remedy.receive.step).answer = .ok (.reply (.word s.data)) := by
  have hresult : ((Remedy.receive.operation.program).run s).result =
      .word (Port.receive.run s).result := rfl
  rw [Remedy.step, answer_port, hresult, run_receive]

variable {s}

/-- Without an error and a word that waits, there is nothing to read. -/
theorem answer_readOne_of_empty (h : ∀ error : TransferError, s.flag error.flag = false)
    (hrx : s.flag .rxNotEmpty = false) :
    (s.perform (.request (.port .readOne))).answer = .ok (.reply (.received .wouldBlock)) := by
  have herror := (Status.error_eq_none_iff ⟨s.status⟩).2 h
  have hrun := Port.run_whenReady_of_not_ready (s := s) Port.receive herror hrx
  rw [answer_port, Operation.program, Program.run_map, Port.readOne, hrun]

/-- Without an error, a word can be handed over exactly when there is room. -/
theorem answer_writeOne (h : ∀ error : TransferError, s.flag error.flag = false) (value : Word) :
    (s.perform (.request (.port (.writeOne value)))).answer =
      .ok (.reply (.sent (if s.flag .txEmpty then .moved () else .wouldBlock))) := by
  have herror := (Status.error_eq_none_iff ⟨s.status⟩).2 h
  rw [answer_port, Operation.program, Program.run_map, Port.writeOne]
  cases htx : s.flag .txEmpty with
  | true =>
      rw [Port.run_whenReady_of_ready (s := s) (Port.transmit value) herror htx]
      rfl
  | false =>
      rw [Port.run_whenReady_of_not_ready (s := s) (Port.transmit value) herror htx]
      rfl

/-! ## The order of recovery -/

/-- What the four calls make of a state in an order that clears every error. -/
structure Recovered (before after : Simulator) : Prop extends Spares before after where
  noError : ∀ error : TransferError, after.flag error.flag = false
  txEmpty : after.flag .txEmpty = before.flag .txEmpty
  busy : after.flag .busy = before.flag .busy
  control1 : after.control1 = Control1.enabled.write true before.control1
  readOne :
    (after.perform (.request (.port .readOne))).answer = .ok (.reply (.received .wouldBlock))
  writeOne : ∀ value, (after.perform (.request (.port (.writeOne value)))).answer =
    .ok (.reply (.sent (if after.flag .txEmpty then .moved () else .wouldBlock)))

/-- In a list without duplicates, two orders that meet make one. -/
private theorem sublist_of_pairs {α : Type} {a b c : α} {l : List α} (hl : l.Nodup)
    (hab : [a, b].Sublist l) (hbc : [b, c].Sublist l) : [a, b, c].Sublist l := by
  induction l with
  | nil => cases hab
  | cons x rest ih =>
      rw [List.nodup_cons] at hl
      obtain ⟨hx, hrest⟩ := hl
      -- `b` comes after `a`, and so does the order of `b` and `c`
      have hb : b ∈ rest := by
        cases hab with
        | cons _ hab => exact hab.subset (by simp)
        | cons_cons _ hab => exact List.singleton_sublist.1 hab
      have hlater : [b, c].Sublist rest := by
        cases hbc with
        | cons _ hbc => exact hbc
        | cons_cons _ _ => exact absurd hb hx
      cases hab with
      | cons _ hab => exact (ih hrest hab hlater).cons x
      | cons_cons _ _ => exact hlater.cons_cons a

/-- What `receive` answers in the course of the calls is the received word, which stays. -/
theorem answer_receive_of_mem_trace {calls : List Remedy} {t : Transition Simulator Step}
    (ht : t ∈ trace proceed s (calls.map Remedy.step)) (hinput : t.input = Remedy.receive.step) :
    (t.before.perform t.input).answer = .ok (.reply (.word s.data)) := by
  have hcalls : ∀ step ∈ calls.map Remedy.step, ∃ remedy : Remedy, remedy.step = step := by
    intro step hstep
    obtain ⟨remedy, -, hremedy⟩ := List.mem_map.1 hstep
    exact ⟨remedy, hremedy⟩
  have hkeeps : ∀ (u : Simulator) (step : Step), (∃ remedy : Remedy, remedy.step = step) →
      u.data = s.data → (u.proceed step).data = s.data := by
    rintro u _ ⟨remedy, rfl⟩ hu
    exact (u.spares_treat remedy).data.trans hu
  obtain ⟨hdata, -, -⟩ := forall_mem_trace proceed (·.data = s.data) hkeeps rfl hcalls t ht
  rw [hinput, answer_receive, hdata]

/-- The calls clear every error of every state if `receive` comes before `status` and that before
`enable`. -/
theorem recovered_foldl_treat {calls : List Remedy}
    (h : [Remedy.receive, .status, .enable].Sublist calls) (hcrc : .clearCrcError ∈ calls) :
    Recovered s (calls.foldl treat s) := by
  have hreceive : .receive ∈ calls := h.subset (by simp)
  have hstatus : .status ∈ calls := h.subset (by simp)
  have henable : .enable ∈ calls := h.subset (by simp)
  have hoverrun : [Remedy.receive, .status].Sublist calls :=
    .trans (List.sublist_append_left [Remedy.receive, .status] [.enable]) h
  have hmodeFault : [Remedy.status, .enable].Sublist calls :=
    .trans (List.sublist_cons_self Remedy.receive [.status, .enable]) h
  have hcleared : ∀ {f : StatusFlag}, s.ClearedBy f calls →
      (calls.foldl treat s).flag f = false := by
    intro f hf
    rw [Bool.eq_false_iff]
    intro hset
    exact ((s.flag_foldl_treat f calls).1 hset).2 hf
  have hnoError : ∀ error : TransferError, (calls.foldl treat s).flag error.flag = false := by
    intro error
    cases error with
    | overrun => exact hcleared (.inr hoverrun)
    | modeFault => exact hcleared (.inr hmodeFault)
    | crc => exact hcleared hcrc
    | underrun => exact hcleared hstatus
  have hkept : ∀ {f : StatusFlag}, ¬ s.ClearedBy f calls →
      (calls.foldl treat s).flag f = s.flag f := by
    intro f hf
    rw [Bool.eq_iff_iff, s.flag_foldl_treat f calls]
    exact and_iff_left hf
  exact {
    toSpares := s.spares_foldl_treat calls
    noError := hnoError
    txEmpty := hkept id
    busy := hkept id
    control1 := by rw [s.control1_foldl_treat calls, if_pos henable]
    readOne := answer_readOne_of_empty hnoError (hcleared hreceive)
    writeOne := answer_writeOne hnoError }

/-- An error that is raised after a reset outlives calls that do not clear its flag. -/
theorem flag_error_after_raise {error : TransferError} {calls : List Remedy}
    (h : ¬ (initial.raise error.flag).ClearedBy error.flag calls) :
    ((.stimulus (.raise error.flag) :: calls.map Remedy.step).foldl proceed initial).flag
      error.flag = true := by
  rw [List.foldl_cons, foldl_proceed_map_step]
  have hraised : (initial.raise error.flag).flag error.flag = true := by simp
  exact ((initial.raise error.flag).flag_foldl_treat error.flag calls).2 ⟨hraised, h⟩

/-- The four calls made once each in some order. If `receive` comes before `status` and that before
`enable`, they clear every error of every state, keep the word that `receive` answers, and touch
nothing else but the bit that enables the peripheral. In every other order they leave some error
that was raised after a reset. -/
theorem recovery_order (order : List Remedy)
    (h : order.Perm [.receive, .status, .enable, .clearCrcError]) :
    ([Remedy.receive, .status, .enable].Sublist order → ∀ s : Simulator,
      let steps := order.map Remedy.step
      let after := steps.foldl proceed s
      Recovered s after ∧
        ∀ t ∈ trace proceed s steps, t.input = Remedy.receive.step →
          (t.before.perform t.input).answer = .ok (.reply (.word after.data))) ∧
    (¬ [Remedy.receive, .status, .enable].Sublist order → ∃ error : TransferError,
      ((.stimulus (.raise error.flag) :: order.map Remedy.step).foldl proceed initial).flag
        error.flag = true) := by
  constructor
  · intro horder s steps after
    have hafter : after = order.foldl treat s := s.foldl_proceed_map_step order
    have hcrc : .clearCrcError ∈ order := h.mem_iff.2 (by simp)
    have hrecovered : Recovered s after := hafter ▸ recovered_foldl_treat horder hcrc
    refine ⟨hrecovered, fun t ht hinput => ?_⟩
    rw [hrecovered.data]
    exact answer_receive_of_mem_trace ht hinput
  · intro horder
    have hnodup : order.Nodup := h.nodup_iff.2 (by decide)
    by_cases hoverrun : [Remedy.receive, .status].Sublist order
    · have hmodeFault : ¬ [Remedy.status, .enable].Sublist order :=
        fun hsecond => horder (sublist_of_pairs hnodup hoverrun hsecond)
      refine ⟨.modeFault, flag_error_after_raise ?_⟩
      -- no latch is set after a reset
      rintro (⟨hlatch, -⟩ | hsecond)
      · cases hlatch
      · exact hmodeFault hsecond
    · refine ⟨.overrun, flag_error_after_raise ?_⟩
      rintro (⟨hlatch, -⟩ | hfirst)
      · cases hlatch
      · exact hoverrun hfirst

/-- The CRC error may be cleared first, and all flags may be set. With `status` before `receive`, an
error can stay. -/
theorem recovery_with_crc_first :
    let order : List Remedy := [.clearCrcError, .receive, .status, .enable]
    let hasty : List Remedy := [.status, .receive, .enable, .clearCrcError]
    let s : Simulator := { initial with toBank := Bank.replicate (.allOnes 16) }
    order.Perm [.receive, .status, .enable, .clearCrcError] ∧
      hasty.Perm [.receive, .status, .enable, .clearCrcError] ∧
      (∀ error : TransferError, s.flag error.flag = true) ∧
      Recovered s ((order.map Remedy.step).foldl proceed s) ∧
      ∃ error : TransferError,
        ((.stimulus (.raise error.flag) :: hasty.map Remedy.step).foldl proceed initial).flag
          error.flag = true := by
  intro order hasty s
  have horder : order.Perm [.receive, .status, .enable, .clearCrcError] := by decide
  have hhasty : hasty.Perm [.receive, .status, .enable, .clearCrcError] := by decide
  have hset : ∀ error : TransferError, s.flag error.flag = true := by
    intro error
    have hposition : error.flag.position < 16 := by
      have := error.flag.position_lt
      omega
    rw [flag_eq_getLsbD]
    exact BitVec.getLsbD_allOnes.trans (decide_eq_true hposition)
  refine ⟨horder, hhasty, hset, ?_, ?_⟩
  · exact ((recovery_order order horder).1 (by decide) s).1
  · exact (recovery_order hasty hhasty).2 (by decide)

end SpiController.Simulator
