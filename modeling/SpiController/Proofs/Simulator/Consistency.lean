import SpiController.Proofs.Simulator.ErrorFlag
import SpiController.Proofs.Simulator.FrameTiming
import SpiController.Proofs.Simulator.Transmission

/-!
# What holds in every state

The status register is one word; the word in flight and the two latches are kept apart from it. They
change together. The flag for room and the busy flag go with the word in flight, a latch goes with
its error, and the bits above the flags stay as they are. `Consistent` collects these facts,
`Consistent.undergo` says that every event keeps them, and `consistent_session` that they hold
throughout a session, as long as nothing sets the status register from outside or raises one of the
two flags about the transfer.
-/

namespace SpiController

theorem StatusFlag.getLsbD_mask_of_le (f : StatusFlag) {i : Nat} (h : 8 ≤ i) :
    f.mask.getLsbD i = false := by
  have hf := f.position_lt
  have hne : f.position ≠ i := by omega
  simp [StatusFlag.mask, hne]

namespace Simulator

/-! ## The bits above the flags -/

variable (s : Simulator)

/-- The bits of the status register above its flags. -/
def reserved (s : Simulator) : Word :=
  s.status >>> 8

theorem reserved_eq_zero_iff : s.reserved = 0 ↔ ∀ i, 8 ≤ i → s.status.getLsbD i = false := by
  constructor
  · intro h i hi
    have hbit := congrArg (fun w : Word => w.getLsbD (i - 8)) h
    simpa [reserved, Nat.add_sub_cancel' hi] using hbit
  · intro h
    apply BitVec.eq_of_getLsbD_eq
    intro i _
    simp [reserved, h]

@[simp]
theorem reserved_raise (f : StatusFlag) : (s.raise f).reserved = s.reserved := by
  apply BitVec.eq_of_getLsbD_eq
  intro i _
  simp [reserved, raise, f.getLsbD_mask_of_le]

@[simp]
theorem reserved_lower (f : StatusFlag) : (s.lower f).reserved = s.reserved := by
  apply BitVec.eq_of_getLsbD_eq
  intro i _
  have hmask : f.mask.getLsbD (8 + i) = false := f.getLsbD_mask_of_le (by omega)
  simp only [reserved, lower, BitVec.getLsbD_ushiftRight, BitVec.getLsbD_and, BitVec.getLsbD_not,
    hmask, Bool.not_false, Bool.and_true]
  by_cases h : 8 + i < 16
  · simp [h]
  · simp [BitVec.getLsbD_of_ge s.status _ (Nat.le_of_not_lt h)]

theorem reserved_afterStatusRead : s.afterStatusRead.reserved = s.reserved := by
  have hsettle : s.settleOverrun.reserved = s.reserved := by
    rw [settleOverrun]
    split
    · exact s.reserved_lower .overrun
    · rfl
  have hnote : s.settleOverrun.noteModeFault.reserved = s.settleOverrun.reserved := by
    rw [noteModeFault_eq]
    rfl
  rw [afterStatusRead, reserved_lower, hnote, hsettle]

theorem reserved_afterDataRead : s.afterDataRead.reserved = s.reserved := by
  rw [afterDataRead_eq]
  exact s.reserved_lower .rxNotEmpty

theorem reserved_storeControl1 (value : Word) : (s.storeControl1 value).reserved = s.reserved := by
  rw [storeControl1, settleModeFault]
  split
  · exact s.reserved_lower .modeFault
  · rfl

theorem reserved_storeStatus (value : Word) : (s.storeStatus value).reserved = s.reserved := by
  rw [storeStatus]
  split
  · rfl
  · exact s.reserved_lower .crcError

theorem reserved_storeData (value : Word) : (s.storeData value).reserved = s.reserved := by
  simp only [storeData]
  split
  · exact (reserved_raise _ .busy).trans (s.reserved_lower .txEmpty)
  · exact s.reserved_lower .txEmpty

theorem reserved_deliver (word : Word) : (s.deliver word).reserved = s.reserved := by
  rw [deliver]
  split
  · exact s.reserved_raise .overrun
  · exact s.reserved_raise .rxNotEmpty

theorem reserved_complete (word : Word) : (s.complete word).reserved = s.reserved := by
  rw [complete, reserved_deliver]
  exact (reserved_lower _ .busy).trans (s.reserved_raise .txEmpty)

/-- Nothing but a change of the status register from outside touches the bits above the flags. -/
theorem reserved_undergo {event : Event} (h : event.Avoids [] [.status]) :
    (s.undergo event).reserved = s.reserved := by
  cases event with
  | read address =>
      cases address with
      | status => exact s.reserved_afterStatusRead
      | data => exact s.reserved_afterDataRead
      | control1 | control2 | crcPolynomial | rxCrc | txCrc => rfl
  | write address value =>
      cases address with
      | control1 => exact reserved_storeControl1 _ value
      | status => exact reserved_storeStatus _ value
      | data => exact reserved_storeData _ value
      | control2 | crcPolynomial | rxCrc | txCrc => rfl
  | stimulus change =>
      cases change with
      | deliver word => exact s.reserved_deliver word
      | clock cycles =>
          rcases s.undergo_clock_cases cycles with ⟨-, count, -, hstate⟩ | ⟨word, -, -, hstate⟩
          · rw [hstate]
            rfl
          · rw [hstate, reserved_complete]
      | raise flag => exact s.reserved_raise flag
      | poke address value =>
          cases address with
          | status => exact absurd (List.mem_singleton_self _) h
          | control1 | control2 | data | crcPolynomial | rxCrc | txCrc => rfl
      | forgetWrites => rfl

/-! ## The transfer -/

variable {s}

/-- A write of the data register does not end a frame. -/
theorem completed?_of_writesData {event : Event} (h : event.writesData = true) :
    s.completed? event = none := by
  obtain ⟨value, rfl⟩ := Event.writesData_iff.1 h
  rfl

/-- A word is in flight after an event that ends no frame if the event writes one, or if one was. -/
theorem inFlight_undergo_ne_none_iff (event : Event) :
    (s.undergo event).inFlight ≠ none ↔
      s.completed? event = none ∧ (event.writesData = true ∨ s.inFlight ≠ none) := by
  by_cases hclock : ∃ cycles, event = .stimulus (.clock cycles)
  · obtain ⟨cycles, rfl⟩ := hclock
    rcases s.undergo_clock_cases cycles with ⟨hnone, count, -, hstate⟩ | ⟨word, -, hsome, hstate⟩
    · rw [hstate, hnone]
      simp [Event.writesData]
    · rw [hstate, hsome, inFlight_complete]
      simp
  · rw [s.completed?_of_ne_clock (not_exists.1 hclock)]
    by_cases hwrite : ∃ value, event = .write .data value
    · have hwrites := Event.writesData_iff.2 hwrite
      obtain ⟨value, rfl⟩ := hwrite
      rw [undergo, write_eq]
      simp [hwrites]
    · have hwrites : ¬ event.writesData = true := mt Event.writesData_iff.1 hwrite
      rw [(s.transfer_undergo (not_exists.1 hwrite) (not_exists.1 hclock)).1]
      simp [hwrites]

/-- The busy flag is set after an event that ends no frame if the event writes a word while the
peripheral is enabled, or if the flag was set. -/
theorem flag_busy_undergo_iff {event : Event} (h : event.Avoids [.busy] [.status]) :
    (s.undergo event).flag .busy = true ↔
      s.completed? event = none ∧
        (event.writesData = true ∧ s.enabled = true ∨ s.flag .busy = true) := by
  have hraise : event ≠ .stimulus (.raise .busy) := by
    rintro rfl
    exact h (List.mem_singleton_self _)
  have hflag := s.flag_undergo (h.mono (List.nil_subset _) (List.Subset.refl _)) .busy
  have hclears : s.clears .busy event = true ↔ (s.completed? event).isSome = true := by
    simp [clears_iff]
  have hsets : s.sets .busy event = true ↔ event.writesData = true ∧ s.enabled = true := by
    simp [sets_iff, hraise, Event.writesData_iff]
  rw [hflag, Bool.or_eq_true, Bool.and_eq_true, Bool.not_eq_true', hsets, ← Bool.not_eq_true,
    hclears, Bool.not_eq_true, Option.isSome_eq_false_iff, Option.isNone_iff_eq_none]
  constructor
  · rintro (⟨hset, hgoes⟩ | hbegins)
    · exact ⟨hgoes, .inr hset⟩
    · exact ⟨completed?_of_writesData hbegins.1, .inl hbegins⟩
  · rintro ⟨hgoes, hbegins | hset⟩
    · exact .inr hbegins
    · exact .inl ⟨hset, hgoes⟩

/-! ## Consistency -/

/-- What the flags, the transfer and the latches say of each other. -/
structure Consistent (s : Simulator) : Prop where
  /-- There is room for a word exactly when none is in flight. -/
  txEmpty : s.flag .txEmpty = true ↔ s.inFlight = none
  /-- A peripheral that is busy has a word in flight. -/
  busy : s.flag .busy = true → s.inFlight ≠ none
  /-- A data read is remembered for an overrun that is raised. -/
  overrun : s.overrunDataRead = true → s.flag .overrun = true
  /-- A status read is remembered for a mode fault that is raised. -/
  modeFault : s.modeFaultStatusRead = true → s.flag .modeFault = true
  /-- Above its flags, the status register is zero. -/
  reserved : s.reserved = 0

theorem showsRoom_iff : s.ShowsRoom ↔ (s.flag .txEmpty = true ↔ s.inFlight = none) := by
  rw [ShowsRoom, Bool.eq_iff_iff, Option.isNone_iff_eq_none]

theorem consistent_initial : initial.Consistent where
  txEmpty := showsRoom_iff.1 showsRoom_initial
  busy := by decide
  overrun := nofun
  modeFault := nofun
  reserved := by decide

/-- Every event keeps the state consistent. -/
theorem Consistent.undergo (hs : s.Consistent) {event : Event}
    (h : event.Avoids [.txEmpty, .busy] [.status]) : (s.undergo event).Consistent := by
  have hroom : event.Avoids [.txEmpty] [.status] := h.mono (by simp) (List.Subset.refl _)
  have hbusy : event.Avoids [.busy] [.status] := h.mono (by simp) (List.Subset.refl _)
  have hflags : event.Avoids [] [.status] := h.mono (List.nil_subset _) (List.Subset.refl _)
  have hword : (s.undergo event).flag .busy = true → (s.undergo event).inFlight ≠ none := by
    rw [flag_busy_undergo_iff hbusy, inFlight_undergo_ne_none_iff]
    -- the word that the event writes, or the one that was in flight and goes on
    rintro ⟨hgoes, ⟨hwrites, -⟩ | hset⟩
    · exact ⟨hgoes, .inl hwrites⟩
    · exact ⟨hgoes, .inr (hs.busy hset)⟩
  exact {
    txEmpty := showsRoom_iff.1 ((showsRoom_iff.2 hs.txEmpty).undergo hroom)
    busy := hword
    overrun := fun hlatch => ((overrunDataRead_undergo_iff hflags hs.overrun).1 hlatch).1
    modeFault := fun hlatch => ((modeFaultStatusRead_undergo_iff hflags hs.modeFault).1 hlatch).1
    reserved := (s.reserved_undergo hflags).trans hs.reserved }

/-- In a session in which only the peripheral sets its status register and raises the two flags
about the transfer, the state is consistent at the end, and before and after every event. -/
theorem consistent_session (steps : List Step)
    (permitted : ∀ step ∈ steps, step.Avoids [.txEmpty, .busy] [.status]) :
    (steps.foldl proceed initial).Consistent ∧
      ∀ t ∈ initial.history steps, t.before.Consistent ∧ t.after.Consistent := by
  have havoids := initial.avoids_of_mem_events permitted
  exact invariant_session Consistent (fun _ _ h hs => hs.undergo h) consistent_initial steps havoids

/-- A word is in flight, and both latches are set for the errors that go with them. -/
theorem consistent_with_both_latches :
    let steps : List Step := [.request (.port .enable), .request (.port (.transmit 0x1a5)),
      .stimulus (.raise .modeFault), .request (.port .status), .stimulus (.deliver 0x11),
      .stimulus (.deliver 0x22), .request (.port .receive)]
    let s := steps.foldl proceed initial
    (∀ step ∈ steps, step.Avoids [.txEmpty, .busy] [.status]) ∧
      s.flag .busy = true ∧ s.overrunDataRead = true ∧ s.modeFaultStatusRead = true ∧
      s.Consistent := by
  intro steps s
  have h : ∀ step ∈ steps, step.Avoids [.txEmpty, .busy] [.status] := by
    simp [steps, Step.Avoids, Stimulus.Avoids]
  exact ⟨h, by decide, by decide, by decide, (consistent_session steps h).1⟩

end Simulator

end SpiController
