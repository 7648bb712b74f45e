import Mathlib.Algebra.GroupWithZero.Nat
import SpiController.Simulator.Stimulus
import SpiController.Simulator.Bus

/-!
# What the operations of a simulated peripheral do

For every operation of the simulator: the flags that it leaves, and what becomes of the received
word, of the transfer and of the two clear sequences. Everything said about runs is derived from
these laws, so that no proof about runs looks into an operation.
-/

namespace SpiController.Simulator

variable (s : Simulator)

/-- The flags are those of the status register. -/
theorem flag_congr {s t : Simulator} (h : s.status = t.status) (f : StatusFlag) :
    s.flag f = t.flag f := by
  rw [flag, flag, h]

/-! ## The clear sequences -/

/-- A latch whose sequence is not complete is as it would be after it. -/
private theorem latch_and_not_flag {flag latch : Bool} (h : ¬ (flag && latch) = true) :
    (latch && !flag) = latch := by
  cases flag with
  | false => exact Bool.and_true latch
  | true =>
      rw [Bool.true_and] at h
      rw [Bool.eq_false_iff.2 h, Bool.false_and]

/-- Lowering a flag that is set, on a condition, clears that flag on that condition. -/
private theorem flag_lower_if {t : Simulator} {g : StatusFlag} (condition : Bool)
    (ht : t.status = (s.lower g).status) (f : StatusFlag) :
    (if s.flag g && condition then t else s).flag f = (s.flag f && !(f == g && condition)) := by
  split
  next h =>
      obtain ⟨-, hc⟩ := Bool.and_eq_true_iff.1 h
      rw [flag_congr ht, flag_lower, hc, Bool.and_true]
      rfl
  next h =>
      by_cases hf : f = g
      -- the condition failed, unless the flag was clear anyway
      · subst hf
        cases hflag : s.flag f with
        | false => rfl
        | true => simpa [hflag] using h
      · simp [hf]

theorem flag_settleOverrun (f : StatusFlag) :
    s.settleOverrun.flag f = (s.flag f && !(f == .overrun && s.overrunDataRead)) := by
  rw [settleOverrun]
  apply flag_lower_if
  rfl

theorem flag_settleModeFault (f : StatusFlag) :
    s.settleModeFault.flag f = (s.flag f && !(f == .modeFault && s.modeFaultStatusRead)) := by
  rw [settleModeFault]
  apply flag_lower_if
  rfl

/-- Settling an overrun changes the flag and its latch, and nothing else. -/
theorem settleOverrun_eq :
    s.settleOverrun =
      { s with
        status := s.settleOverrun.status
        overrunDataRead := s.overrunDataRead && !s.flag .overrun } := by
  rw [settleOverrun]
  split
  next h =>
      obtain ⟨hflag, -⟩ := Bool.and_eq_true_iff.1 h
      simp [hflag, lower]
  next h =>
      rw [latch_and_not_flag h]

/-- Settling a mode fault changes the flag and its latch, and nothing else. -/
theorem settleModeFault_eq :
    s.settleModeFault =
      { s with
        status := s.settleModeFault.status
        modeFaultStatusRead := s.modeFaultStatusRead && !s.flag .modeFault } := by
  rw [settleModeFault]
  split
  next h =>
      obtain ⟨hflag, -⟩ := Bool.and_eq_true_iff.1 h
      simp [hflag, lower]
  next h =>
      rw [latch_and_not_flag h]

theorem noteOverrun_eq :
    s.noteOverrun = { s with overrunDataRead := s.overrunDataRead || s.flag .overrun } := by
  rw [noteOverrun]
  cases s.flag .overrun with
  | false => simp
  | true => simp

theorem noteModeFault_eq :
    s.noteModeFault =
      { s with modeFaultStatusRead := s.modeFaultStatusRead || s.flag .modeFault } := by
  rw [noteModeFault]
  cases s.flag .modeFault with
  | false => simp
  | true => simp

/-! ## Reads -/

/-- A status read clears an underrun, and an overrun after which the data register was read. -/
theorem flag_afterStatusRead (f : StatusFlag) :
    s.afterStatusRead.flag f =
      (s.flag f && f != .underrun && !(f == .overrun && s.overrunDataRead)) := by
  have hnote : s.settleOverrun.noteModeFault.flag f = s.settleOverrun.flag f := by
    rw [noteModeFault_eq]
    rfl
  rw [afterStatusRead, flag_lower, hnote, flag_settleOverrun, Bool.and_right_comm]

/-- A status read changes flags and the two latches, and nothing else. -/
theorem afterStatusRead_eq :
    s.afterStatusRead =
      { s with
        status := s.afterStatusRead.status
        overrunDataRead := s.overrunDataRead && !s.flag .overrun
        modeFaultStatusRead := s.modeFaultStatusRead || s.flag .modeFault } := by
  -- the overrun is settled first, which a mode fault does not notice
  have hflag : s.settleOverrun.flag .modeFault = s.flag .modeFault := by
    simp [flag_settleOverrun]
  have hlatch : s.settleOverrun.modeFaultStatusRead = s.modeFaultStatusRead := by
    rw [settleOverrun_eq]
  rw [afterStatusRead, noteModeFault_eq, hflag, hlatch, settleOverrun_eq]
  rfl

theorem flag_afterDataRead (f : StatusFlag) :
    s.afterDataRead.flag f = (s.flag f && f != .rxNotEmpty) := by
  rw [afterDataRead, noteOverrun_eq]
  exact flag_lower s .rxNotEmpty f

/-- A data read changes one flag and notes an overrun, and nothing else. -/
theorem afterDataRead_eq :
    s.afterDataRead =
      { s.lower .rxNotEmpty with overrunDataRead := s.overrunDataRead || s.flag .overrun } := by
  have hflag : (s.lower .rxNotEmpty).flag .overrun = s.flag .overrun :=
    (flag_lower s .rxNotEmpty .overrun).trans (Bool.and_true _)
  rw [afterDataRead, noteOverrun_eq, hflag]
  rfl

/-- The port takes the received word with one read of the data register. -/
theorem run_receive :
    Port.receive.run s = ⟨s.data, s.afterDataRead, [.read .data s.data], []⟩ := by
  have hrun : Port.receive.run s =
      ⟨WholeWord.data.read s.data, s.afterDataRead, [.read .data s.data], []⟩ := rfl
  rw [hrun, WholeWord.read_eq]

/-! ## Writes -/

theorem flag_storeControl1 (value : Word) (f : StatusFlag) :
    (s.storeControl1 value).flag f =
      (s.flag f && !(f == .modeFault && s.modeFaultStatusRead)) :=
  flag_settleModeFault { s with control1 := value } f

theorem flag_storeStatus (value : Word) (f : StatusFlag) :
    (s.storeStatus value).flag f =
      (s.flag f && !(f == .crcError && !(Status.mk value).isSet .crcError)) := by
  rw [storeStatus]
  split
  next h => simp [h]
  next h => simp [h, bne]

theorem flag_storeData (value : Word) (f : StatusFlag) :
    (s.storeData value).flag f = (s.flag f && f != .txEmpty || f == .busy && s.enabled) := by
  have hlower : ({ s with inFlight := some value, elapsed := 0 }.lower .txEmpty).flag f =
      (s.flag f && f != .txEmpty) :=
    flag_lower { s with inFlight := some value, elapsed := 0 } .txEmpty f
  simp only [storeData]
  split
  next h => rw [flag_raise, hlower, h, Bool.and_true]
  next h => rw [hlower, Bool.eq_false_iff.2 h, Bool.and_false, Bool.or_false]

/-- A write of control register 1 changes that register and settles a mode fault. -/
theorem storeControl1_eq (value : Word) :
    s.storeControl1 value =
      { s with
        control1 := value
        status := (s.storeControl1 value).status
        modeFaultStatusRead := s.modeFaultStatusRead && !s.flag .modeFault } := by
  rw [storeControl1, settleModeFault_eq]
  rfl

/-- A write of the status register changes flags only. -/
theorem storeStatus_eq (value : Word) :
    s.storeStatus value = { s with status := (s.storeStatus value).status } := by
  rw [storeStatus]
  split <;> rfl

/-- A write of the data register changes flags and starts a transfer. -/
theorem storeData_eq (value : Word) :
    s.storeData value =
      { s with
        status := (s.storeData value).status
        inFlight := some value
        elapsed := 0 } := by
  simp only [storeData]
  split <;> rfl

/-! ## Stimuli -/

/-- An arrival leaves a word to be read, and an overrun if there was one already. -/
theorem flag_deliver (word : Word) (f : StatusFlag) :
    (s.deliver word).flag f =
      (s.flag f || f == .rxNotEmpty || f == .overrun && s.flag .rxNotEmpty) := by
  rw [deliver]
  split
  next h =>
      by_cases hf : f = .rxNotEmpty
      · simp [hf, h]
      · simp [beq_eq_false_iff_ne.2 hf, h]
  next h =>
      rw [flag_raise, Bool.eq_false_iff.2 h, Bool.and_false, Bool.or_false]
      rfl

/-- An arrival changes flags and fills the receive buffer if that is empty. -/
theorem deliver_eq (word : Word) :
    s.deliver word =
      { s with
        status := (s.deliver word).status
        data := if s.flag .rxNotEmpty then s.data else word &&& s.frameLength.wordMask } := by
  rw [deliver]
  split <;> rfl

/-- The end of a frame makes room for the next word and is an arrival. -/
theorem flag_complete (word : Word) (f : StatusFlag) :
    (s.complete word).flag f =
      (s.flag f && f != .busy || f == .txEmpty || f == .rxNotEmpty ||
        f == .overrun && s.flag .rxNotEmpty) := by
  -- the flags when the word arrives back
  have hflag : ∀ g, ({ (s.raise .txEmpty).lower .busy with
      elapsed := 0
      inFlight := none
      control1 := Control1.crcNext.write false s.control1 } : Simulator).flag g =
        (s.flag g && g != .busy || g == .txEmpty) := by
    intro g
    refine (flag_lower (s.raise .txEmpty) .busy g).trans ?_
    rw [flag_raise, Bool.and_or_distrib_right]
    cases g <;> rfl
  have hrx : (s.flag .rxNotEmpty && StatusFlag.rxNotEmpty != .busy ||
      StatusFlag.rxNotEmpty == .txEmpty) = s.flag .rxNotEmpty := by
    cases s.flag .rxNotEmpty <;> rfl
  rw [complete, flag_deliver, hflag, hflag, hrx]

/-- The end of a frame changes flags, ends the transfer, drops the request for the CRC and fills the
receive buffer if that is empty. -/
theorem complete_eq (word : Word) :
    s.complete word =
      { s with
        status := (s.complete word).status
        data := if s.flag .rxNotEmpty then s.data else word &&& s.frameLength.wordMask
        control1 := Control1.crcNext.write false s.control1
        inFlight := none
        elapsed := 0 } := by
  -- dropping the request for the CRC does not touch the frame length
  have hlength : FrameLength.ofControl (Control1.crcNext.write false s.control1) =
      s.frameLength := by
    rw [FrameLength.ofControl, frameLength, Field.read_write_of_disjoint (by decide)]
    rfl
  have hflag : ((s.raise .txEmpty).lower .busy).flag .rxNotEmpty = s.flag .rxNotEmpty := by
    rw [flag_lower, flag_raise]
    cases s.flag .rxNotEmpty <;> rfl
  rw [complete, deliver_eq, ← hflag, ← hlength]
  rfl

@[simp]
theorem inFlight_complete (word : Word) : (s.complete word).inFlight = none := by
  rw [complete_eq]

/-! ## The clock -/

/-- The clock faults exactly when it counts cycles and their sum outgrows 32 bits. -/
theorem clock_eq_error_iff_le (cycles : BitVec 32) (fault : Fault) :
    s.clock cycles = .error fault ↔
      fault = .counterOverflow ∧ s.enabled = true ∧ s.inFlight ≠ none ∧
        2 ^ 32 ≤ s.elapsed.toNat + cycles.toNat := by
  rw [clock_eq_error_iff, BitVec.uaddOverflow, decide_eq_true_iff, Option.isSome_iff_ne_none]
  constructor
  · rintro ⟨henabled, hword, hoverflow, hfault⟩
    exact ⟨hfault, henabled, hword, hoverflow⟩
  · rintro ⟨hfault, henabled, hword, hoverflow⟩
    exact ⟨henabled, hword, hoverflow, hfault⟩

/-- The clock has an effect: there is a word in flight on an enabled peripheral, and the count of
its cycles fits. -/
def Ticks (cycles : BitVec 32) (word : Word) : Prop :=
  s.enabled = true ∧ s.inFlight = some word ∧ s.elapsed.uaddOverflow cycles = false

/-- A count that fits does not wrap. -/
theorem Ticks.toNat_add {s : Simulator} {cycles : BitVec 32} {word : Word} (h : s.Ticks cycles word) :
    (s.elapsed + cycles).toNat = s.elapsed.toNat + cycles.toNat := by
  obtain ⟨-, -, hfits⟩ := h
  exact BitVec.toNat_add_of_not_uaddOverflow (by simp [hfits])

/-- Running the clock does nothing, advances the count of cycles or completes the frame. -/
theorem clock_cases {cycles : BitVec 32} {t : Simulator} (h : s.clock cycles = .ok t) :
    (t = s ∧ (s.enabled = false ∨ s.inFlight = none)) ∨
      (∃ word, s.Ticks cycles word ∧ s.elapsed + cycles < s.frameLength.cycles ∧
        t = { s with elapsed := s.elapsed + cycles }) ∨
      ∃ word, s.Ticks cycles word ∧ s.frameLength.cycles ≤ s.elapsed + cycles ∧
        t = s.complete word := by
  cases he : s.enabled with
  | false =>
      rw [clock_of_disabled s cycles he] at h
      cases h
      exact .inl ⟨rfl, .inl rfl⟩
  | true =>
      cases hw : s.inFlight with
      | none =>
          rw [clock_of_idle s cycles hw] at h
          cases h
          exact .inl ⟨rfl, .inr rfl⟩
      | some word =>
          simp only [clock, he, hw] at h
          split at h
          · cases h
          next ho =>
              have hticks : s.Ticks cycles word := ⟨he, hw, Bool.eq_false_iff.2 ho⟩
              split at h
              next hlt =>
                  cases h
                  exact .inr (.inl ⟨word, hticks, hlt, rfl⟩)
              next hge =>
                  cases h
                  exact .inr (.inr ⟨word, hticks, BitVec.not_lt.1 hge, rfl⟩)

end SpiController.Simulator
