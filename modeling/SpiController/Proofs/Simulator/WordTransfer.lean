import SpiController.Proofs.Refusal
import SpiController.Proofs.Simulator.Consistency

/-!
# Calls that move a word, decision and effect

`WordCall` is the whole law of a call that moves one word on a simulated peripheral, in any state:
which of the three outcomes it has, what goes over the bus, and what becomes of the state. Reading
and writing a word are two cases of it, by the flag that they wait for and by what the access to the
data register does (`wordCall_whenReady`, `word_calls`).

The call looks at the status by reading it, and that read may itself clear an overrun and an
underrun. It clears nothing else, so that a call which fails or is refused leaves the transfer as it
was (`keepsTransfer_afterStatusRead`), and it changes nothing at all before a word is moved.
-/

namespace SpiController.Simulator

variable {s : Simulator}

/-! ## The law of a call -/

/-- The first error, from the most serious one on, whose flag is set. -/
def firstError? (s : Simulator) : Option TransferError :=
  [TransferError.overrun, .modeFault, .crc, .underrun].find? fun error => s.flag error.flag

/-- Nothing has changed but the flags of overrun and underrun, and the latches. -/
structure KeepsTransfer (before after : Simulator) : Prop where
  flags : ∀ f, f ≠ .overrun → f ≠ .underrun → after.flag f = before.flag f
  reserved : after.reserved = before.reserved
  rest : after =
    { before with
      status := after.status
      overrunDataRead := after.overrunDataRead
      modeFaultStatusRead := after.modeFaultStatusRead }

/-- The word that waited was taken. Nothing else has changed. -/
structure TakesWord (before after : Simulator) : Prop where
  rxNotEmpty : after.flag .rxNotEmpty = false
  flags : ∀ f, f ≠ .rxNotEmpty → after.flag f = before.flag f
  reserved : after.reserved = before.reserved
  rest : after = { before with status := after.status }

/-- The frame of a word was started. Nothing else has changed. -/
structure StartsFrame (word : Word) (before after : Simulator) : Prop where
  txEmpty : after.flag .txEmpty = false
  /-- The transfer shows when it starts on an enabled peripheral. -/
  busy : after.flag .busy = (before.flag .busy || before.enabled)
  flags : ∀ f, f ≠ .txEmpty → f ≠ .busy → after.flag f = before.flag f
  reserved : after.reserved = before.reserved
  rest : after =
    { before with
      status := after.status
      inFlight := some word
      elapsed := 0
      writes := before.writes ++ [(.data, word)] }

/-- What a call that waits for the flag `ready` does in the state `s`: it reads the status once, and
then it fails with the first error, or refuses without the flag, or makes one access to the data
register, with `value` as its result. -/
structure WordCall {α : Type} (s : Simulator) (ready : StatusFlag) (value : α) (access : Access)
    (Effect : Simulator → Simulator → Prop) (run : Run Simulator (Attempt α)) : Prop where
  failed : ∀ error, run.result = .failed error ↔ s.firstError? = some error
  wouldBlock : run.result = .wouldBlock ↔ s.firstError? = none ∧ s.flag ready = false
  moved : ∀ v, run.result = .moved v ↔
    s.firstError? = none ∧ s.flag ready = true ∧ v = value
  stops : (∀ v, run.result ≠ .moved v) →
    run.accesses = [.read .status s.status] ∧ KeepsTransfer s run.state
  moves : ∀ v, run.result = .moved v →
    run.accesses = [.read .status s.status, access] ∧ Effect s run.state

/-! ## The effects -/

theorem error_status (s : Simulator) : (Status.mk s.status).error = s.firstError? :=
  Status.error_eq_find? ⟨s.status⟩

theorem keepsTransfer_afterStatusRead (s : Simulator) : KeepsTransfer s s.afterStatusRead where
  flags := by
    intro f hoverrun hunderrun
    rw [flag_afterStatusRead, bne_iff_ne.2 hunderrun, beq_eq_false_iff_ne.2 hoverrun]
    simp
  reserved := s.reserved_afterStatusRead
  rest := by rw [afterStatusRead_eq]

/-- Without an overrun, a read of the data register notes none. -/
theorem takesWord_afterDataRead (h : s.flag .overrun = false) : TakesWord s s.afterDataRead where
  rxNotEmpty := by simp [flag_afterDataRead]
  flags := by
    intro f hf
    rw [flag_afterDataRead, bne_iff_ne.2 hf, Bool.and_true]
  reserved := s.reserved_afterDataRead
  rest := by
    rw [afterDataRead_eq, h, Bool.or_false]
    rfl

theorem flag_write_data (s : Simulator) (word : Word) (f : StatusFlag) :
    (s.write .data word).flag f = (s.flag f && f != .txEmpty || f == .busy && s.enabled) :=
  s.flag_write .data word f

theorem startsFrame_write (s : Simulator) (word : Word) :
    StartsFrame word s (s.write .data word) where
  txEmpty := by rw [flag_write_data]; simp
  busy := by
    have hbusy : (StatusFlag.busy != .txEmpty) = true := rfl
    rw [flag_write_data, hbusy, Bool.and_true, beq_self_eq_true, Bool.true_and]
  flags := by
    intro f htx hbusy
    rw [flag_write_data, bne_iff_ne.2 htx, beq_eq_false_iff_ne.2 hbusy, Bool.and_true,
      Bool.false_and, Bool.or_false]
  reserved := reserved_storeData _ word
  rest := by rw [write, store, storeData_eq]

/-! ## Calls -/

/-- A call makes one move when no error is shown and its flag is set. -/
theorem wordCall_whenReady {α : Type} {ready : StatusFlag} {move : Program α} {value : α}
    {access : Access} {after : Simulator} {Effect : Simulator → Simulator → Prop}
    (hmove : move.run s = ⟨value, after, [access], []⟩)
    (heffect : s.firstError? = none → Effect s after) :
    s.WordCall ready value access Effect ((Port.whenReady ready move).run s) := by
  have hstatus : (Status.mk (Device.read s .status).1).error = s.firstError? := s.error_status
  have hready : (Status.mk (Device.read s .status).1).isSet ready = s.flag ready := rfl
  rcases Port.run_whenReady_cases ready move s with
    ⟨error, herror, hrun⟩ | ⟨hnone, hnot, hrun⟩ | ⟨hnone, hset, hrun⟩
  · rw [hstatus] at herror
    rw [hrun]
    exact {
      failed := by simp [herror]
      wouldBlock := by simp [herror]
      moved := by simp [herror]
      stops := fun _ => ⟨rfl, s.keepsTransfer_afterStatusRead⟩
      moves := nofun }
  · rw [hstatus] at hnone
    rw [hready] at hnot
    rw [hrun]
    exact {
      failed := by simp [hnone]
      wouldBlock := by simp [hnone, hnot]
      moved := by simp [hnot]
      stops := fun _ => ⟨rfl, s.keepsTransfer_afterStatusRead⟩
      moves := nofun }
  · -- without an error, the status read changes nothing before the move
    have hstate : (Device.read s .status).2 = s :=
      afterStatusRead_of_error_eq_none hnone
    rw [hstatus] at hnone
    rw [hready] at hset
    rw [hrun, hstate, hmove]
    exact {
      failed := by simp [hnone]
      wouldBlock := by simp [hset]
      moved := by simp [hnone, hset, eq_comm]
      stops := fun hstops => absurd rfl (hstops value)
      moves := fun _ _ => ⟨rfl, heffect hnone⟩ }

/-- The calls that move one word, in every state of the peripheral. The calls for halfwords are those
for words, and the calls for bytes take the low half of the word read and put zeros above the byte
written. -/
theorem word_calls (s : Simulator) :
    s.WordCall .rxNotEmpty s.data (.read .data s.data) TakesWord (Port.readOne.run s) ∧
    (∀ word, s.WordCall .txEmpty () (.write .data word) (StartsFrame word)
      ((Port.writeOne word).run s)) ∧
    Port.readHalfword.run s = Port.readOne.run s ∧
    (∀ word, (Port.writeHalfword word).run s = (Port.writeOne word).run s) ∧
    Port.readByte.run s =
      { Port.readOne.run s with
        result := (Port.readOne.run s).result.map fun word => word.setWidth 8 } ∧
    ∀ byte : BitVec 8, (Port.writeByte byte).run s = (Port.writeOne (byte.setWidth 16)).run s := by
  refine ⟨?_, fun word => ?_, ?_, fun word => ?_, ?_, fun byte => rfl⟩
  · refine wordCall_whenReady s.run_receive fun hnone => takesWord_afterDataRead ?_
    have hclear := (Status.error_eq_none_iff _).1 (s.error_status.trans hnone)
    exact hclear .overrun
  · exact wordCall_whenReady rfl fun _ => s.startsFrame_write word
  · rw [Port.readHalfword, Port.run_readWidth, Attempt.map_setWidth_self]
  · rw [Port.writeHalfword, Port.writeWidth, BitVec.setWidth_eq]
  · exact Port.run_readWidth 8 s

end SpiController.Simulator
