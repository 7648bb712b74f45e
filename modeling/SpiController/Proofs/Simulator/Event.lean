import SpiController.Proofs.Simulator.Effect

/-!
# Events of a simulated peripheral

An `Event` is what happens at one moment: an access over the bus, or a stimulus. `flag_undergo` says
for every event which flags it clears and which it sets. A clear flag is set and a set one cleared
by nothing else, so this one law carries the statements about flags.
-/

namespace SpiController.Simulator

/-- What can happen to a simulated peripheral at one moment. -/
inductive Event where
  | read (address : Address)
  | write (address : Address) (value : Word)
  | stimulus (stimulus : Stimulus)
  deriving DecidableEq, Repr

/-- The state after an event. A stimulus that faults changes nothing. -/
def undergo (s : Simulator) : Event → Simulator
  | .read address => (s.read address).2
  | .write address value => s.write address value
  | .stimulus stimulus =>
      match s.stimulate stimulus with
      | .ok after => after
      | .error _ => s

/-- The access that an event is, with the word that goes over the bus. -/
def access? (s : Simulator) : Event → Option Access
  | .read address => some (.read address (s.read address).1)
  | .write address value => some (.write address value)
  | .stimulus _ => none

/-- The word whose frame an event completes: it was in flight, and after the clock has run none
is. -/
def completed? (s : Simulator) : Event → Option Word
  | .stimulus (.clock cycles) =>
      if (s.undergo (.stimulus (.clock cycles))).inFlight = none then s.inFlight else none
  | _ => none

/-- The word that arrives with an event, from the other side or back from a frame, as far as a frame
carries it. -/
def arrival? (s : Simulator) : Event → Option Word
  | .stimulus (.deliver word) => some (word &&& s.frameLength.wordMask)
  | event => (s.completed? event).map (· &&& s.frameLength.wordMask)

/-! ## Stimuli that leave a part of the state alone -/

/-- The stimulus neither raises one of the flags nor sets one of the registers. -/
def Stimulus.Avoids (flags : List StatusFlag) (registers : List Address) : Stimulus → Prop
  | .raise flag => flag ∉ flags
  | .poke address _ => address ∉ registers
  | .deliver _ | .clock _ | .forgetWrites => True

/-- The event is not a stimulus that raises one of the flags or sets one of the registers. -/
def Event.Avoids (flags : List StatusFlag) (registers : List Address) : Event → Prop
  | .stimulus change => change.Avoids flags registers
  | .read _ | .write _ _ => True

theorem Event.Avoids.mono {flags flags' : List StatusFlag} {registers registers' : List Address}
    (hf : flags' ⊆ flags) (hr : registers' ⊆ registers) {event : Event}
    (h : event.Avoids flags registers) : event.Avoids flags' registers' := by
  cases event with
  | read address => trivial
  | write address value => trivial
  | stimulus change =>
      cases change with
      | raise flag =>
          intro hflag
          exact h (hf hflag)
      | poke address value =>
          intro haddress
          exact h (hr haddress)
      | deliver word => trivial
      | clock cycles => trivial
      | forgetWrites => trivial

/-! ## The clock as an event -/

variable (s : Simulator)

/-- The clock advances at most the count of cycles, or it completes the frame of the word in
flight. -/
theorem undergo_clock_cases (cycles : BitVec 32) :
    (s.completed? (.stimulus (.clock cycles)) = none ∧ ∃ count, s.elapsed ≤ count ∧
      s.undergo (.stimulus (.clock cycles)) = { s with elapsed := count }) ∨
    ∃ word, s.inFlight = some word ∧ s.completed? (.stimulus (.clock cycles)) = some word ∧
      s.undergo (.stimulus (.clock cycles)) = s.complete word := by
  cases h : s.clock cycles with
  | error fault =>
      -- an overflow of the count changes nothing
      have hstate : s.undergo (.stimulus (.clock cycles)) = s := by simp [undergo, stimulate, h]
      refine .inl ⟨?_, s.elapsed, BitVec.le_refl _, hstate⟩
      simp [completed?, hstate]
  | ok after =>
      have hstate : s.undergo (.stimulus (.clock cycles)) = after := by
        simp [undergo, stimulate, h]
      rcases s.clock_cases h with ⟨rfl, -⟩ | ⟨word, hticks, -, rfl⟩ | ⟨word, hticks, -, rfl⟩
      · refine .inl ⟨?_, after.elapsed, BitVec.le_refl _, hstate⟩
        simp [completed?, hstate]
      · refine .inl ⟨?_, _, ?_, hstate⟩
        · simp [completed?, hstate, hticks.2.1]
        -- the count does not wrap, so that it only grows
        · rw [BitVec.le_def, hticks.toNat_add]
          exact Nat.le_add_right _ _
      · refine .inr ⟨word, hticks.2.1, ?_, hstate⟩
        simp [completed?, hstate, hticks.2.1]

theorem arrival?_clock (cycles : BitVec 32) :
    s.arrival? (.stimulus (.clock cycles)) =
      (s.completed? (.stimulus (.clock cycles))).map (· &&& s.frameLength.wordMask) := rfl

/-- Only the clock completes a frame. -/
theorem completed?_of_ne_clock {event : Event} (h : ∀ cycles, event ≠ .stimulus (.clock cycles)) :
    s.completed? event = none := by
  cases event with
  | read address => rfl
  | write address value => rfl
  | stimulus change =>
      cases change with
      | clock cycles => exact absurd rfl (h cycles)
      | deliver word => rfl
      | raise flag => rfl
      | poke address value => rfl
      | forgetWrites => rfl

/-! ## Flags -/

/-- The event clears the flag if it is set. -/
def clears (s : Simulator) (f : StatusFlag) : Event → Bool
  | .read .status => f == .underrun || f == .overrun && s.overrunDataRead
  | .read .data => f == .rxNotEmpty
  | .write .control1 _ => f == .modeFault && s.modeFaultStatusRead
  | .write .status value => f == .crcError && !(Status.mk value).isSet .crcError
  | .write .data _ => f == .txEmpty
  | .stimulus (.clock cycles) =>
      f == .busy && (s.completed? (.stimulus (.clock cycles))).isSome
  | _ => false

/-- The event leaves the flag set. -/
def sets (s : Simulator) (f : StatusFlag) : Event → Bool
  | .write .data _ => f == .busy && s.enabled
  | .stimulus (.raise flag) => f == flag
  | .stimulus (.deliver _) => f == .rxNotEmpty || f == .overrun && s.flag .rxNotEmpty
  | .stimulus (.clock cycles) =>
      (s.completed? (.stimulus (.clock cycles))).isSome &&
        (f == .txEmpty || f == .rxNotEmpty || f == .overrun && s.flag .rxNotEmpty)
  | _ => false

theorem flag_afterRead (address : Address) (f : StatusFlag) :
    (s.afterRead address).flag f = (s.flag f && !s.clears f (.read address)) := by
  cases address with
  | status => rw [afterRead, flag_afterStatusRead, clears, Bool.not_or, Bool.and_assoc]; rfl
  | data => rw [afterRead, flag_afterDataRead]; rfl
  | control1 | control2 | crcPolynomial | rxCrc | txCrc => exact (Bool.and_true _).symm

theorem flag_write (address : Address) (value : Word) (f : StatusFlag) :
    (s.write address value).flag f =
      (s.flag f && !s.clears f (.write address value) || s.sets f (.write address value)) := by
  cases address with
  | control1 => exact (flag_storeControl1 _ value f).trans (Bool.or_false _).symm
  | status => exact (flag_storeStatus _ value f).trans (Bool.or_false _).symm
  | data => exact flag_storeData _ value f
  | control2 | crcPolynomial | rxCrc | txCrc =>
      exact ((Bool.or_false _).trans (Bool.and_true _)).symm

/-- A flag is set after an event if the event sets it, or if it was set and the event does not clear
it. Only a change of the status register from outside is not bound to that. -/
theorem flag_undergo {event : Event} (h : event.Avoids [] [.status]) (f : StatusFlag) :
    (s.undergo event).flag f = (s.flag f && !s.clears f event || s.sets f event) := by
  cases event with
  | read address => exact (s.flag_afterRead address f).trans (Bool.or_false _).symm
  | write address value => exact s.flag_write address value f
  | stimulus change =>
      cases change with
      | deliver word =>
          refine (s.flag_deliver word f).trans ?_
          simp [clears, sets, Bool.or_assoc]
      | raise flag =>
          refine (s.flag_raise flag f).trans ?_
          simp [clears, sets]
      | forgetWrites => exact ((Bool.or_false _).trans (Bool.and_true _)).symm
      | poke address value =>
          -- only the status register itself is ruled out
          have hstatus : (s.poke address value).status = s.status := by
            cases address with
            | status => exact absurd (List.mem_singleton_self _) h
            | control1 | control2 | data | crcPolynomial | rxCrc | txCrc => rfl
          exact (flag_congr hstatus f).trans ((Bool.or_false _).trans (Bool.and_true _)).symm
      | clock cycles =>
          rcases s.undergo_clock_cases cycles with ⟨hnone, count, -, hstate⟩ |
            ⟨word, -, hsome, hstate⟩
          · rw [clears, sets, hnone, hstate]
            simp [flag]
          · rw [clears, sets, hsome, hstate, flag_complete]
            simp [bne, Bool.or_assoc]

variable (event : Event)

/-- Which events clear a flag. -/
theorem clears_iff (f : StatusFlag) :
    s.clears f event = true ↔
      (event = .read .data ∧ f = .rxNotEmpty) ∨
      ((∃ value, event = .write .data value) ∧ f = .txEmpty) ∨
      (event = .read .status ∧ f = .underrun) ∨
      (event = .read .status ∧ f = .overrun ∧ s.overrunDataRead = true) ∨
      ((∃ value, event = .write .control1 value) ∧ f = .modeFault ∧
        s.modeFaultStatusRead = true) ∨
      ((∃ value, event = .write .status value ∧ (Status.mk value).isSet .crcError = false) ∧
        f = .crcError) ∨
      ((s.completed? event).isSome = true ∧ f = .busy) := by
  cases event with
  | read address => cases address <;> simp [clears, completed?]
  | write address value => cases address <;> simp [clears, completed?, and_comm]
  | stimulus change =>
      cases change with
      | clock cycles => simp [clears, and_comm]
      | deliver word => simp [clears, completed?]
      | raise flag => simp [clears, completed?]
      | poke address value => simp [clears, completed?]
      | forgetWrites => simp [clears, completed?]

/-- Which events set a flag. -/
theorem sets_iff (f : StatusFlag) :
    s.sets f event = true ↔
      ((∃ value, event = .write .data value) ∧ f = .busy ∧ s.enabled = true) ∨
      event = .stimulus (.raise f) ∨
      ((s.arrival? event).isSome = true ∧
        (f = .rxNotEmpty ∨ f = .overrun ∧ s.flag .rxNotEmpty = true)) ∨
      ((s.completed? event).isSome = true ∧ f = .txEmpty) := by
  cases event with
  | read address => simp [sets, arrival?, completed?]
  | write address value => cases address <;> simp [sets, arrival?, completed?]
  | stimulus change =>
      cases change with
      | clock cycles =>
          rw [arrival?_clock]
          cases h : s.completed? (.stimulus (.clock cycles)) with
          | none => simp [sets, h]
          | some word => simpa [sets, h, or_assoc] using or_rotate
      | deliver word => simp [sets, arrival?, completed?]
      | raise flag => simp [sets, arrival?, completed?, eq_comm (a := f)]
      | poke address value => simp [sets, arrival?, completed?]
      | forgetWrites => simp [sets, arrival?, completed?]

/-! ## The rest of the state -/

/-- A read changes flags and the two latches at most. -/
theorem afterRead_eq (address : Address) :
    s.afterRead address =
      { s with
        status := (s.afterRead address).status
        overrunDataRead := (s.afterRead address).overrunDataRead
        modeFaultStatusRead := (s.afterRead address).modeFaultStatusRead } := by
  cases address with
  | status => rw [afterRead, afterStatusRead_eq]
  | data => rw [afterRead, afterDataRead_eq]; rfl
  | control1 | control2 | crcPolynomial | rxCrc | txCrc => rfl

/-- What a write stores, by register. -/
theorem write_eq (address : Address) (value : Word) :
    s.write address value =
      { s with
        toBank := (s.write address value).toBank
        inFlight := if address = .data then some value else s.inFlight
        elapsed := if address = .data then 0 else s.elapsed
        modeFaultStatusRead := (s.write address value).modeFaultStatusRead
        writes := s.writes ++ [(address, value)] } := by
  cases address with
  | control1 => rw [write, store, storeControl1_eq]; rfl
  | status => rw [write, store, storeStatus_eq]; rfl
  | data => rw [write, store, storeData_eq]; rfl
  | control2 | crcPolynomial | rxCrc | txCrc => rfl

/-- Only a write of the data register and the clock touch a transfer. -/
theorem transfer_undergo {event : Event} (hwrite : ∀ value, event ≠ .write .data value)
    (hclock : ∀ cycles, event ≠ .stimulus (.clock cycles)) :
    (s.undergo event).inFlight = s.inFlight ∧ (s.undergo event).elapsed = s.elapsed := by
  cases event with
  | read address =>
      rw [undergo, read, afterRead_eq]
      exact ⟨rfl, rfl⟩
  | write address value =>
      have haddress : address ≠ .data := by
        rintro rfl
        exact hwrite value rfl
      rw [undergo, write_eq]
      exact ⟨if_neg haddress, if_neg haddress⟩
  | stimulus change =>
      cases change with
      | deliver word =>
          rw [undergo, stimulate, deliver_eq]
          exact ⟨rfl, rfl⟩
      | clock cycles => exact absurd rfl (hclock cycles)
      | raise flag => exact ⟨rfl, rfl⟩
      | poke address value => exact ⟨rfl, rfl⟩
      | forgetWrites => exact ⟨rfl, rfl⟩

/-- The received word changes only when a word arrives in the empty receive buffer. -/
theorem data_undergo {event : Event} (h : event.Avoids [] [.data]) :
    (s.undergo event).data =
      if s.flag .rxNotEmpty then s.data else (s.arrival? event).getD s.data := by
  cases event with
  | read address =>
      rw [undergo, read, afterRead_eq]
      exact (ite_self _).symm
  | write address value =>
      have hdata : (s.write address value).data = s.data := by
        cases address with
        | control1 => rw [write, store, storeControl1_eq]
        | status => rw [write, store, storeStatus_eq]
        | data => rw [write, store, storeData_eq]
        | control2 | crcPolynomial | rxCrc | txCrc => rfl
      exact hdata.trans (ite_self _).symm
  | stimulus change =>
      cases change with
      | deliver word =>
          rw [undergo, stimulate, deliver_eq]
          rfl
      | clock cycles =>
          rcases s.undergo_clock_cases cycles with ⟨hnone, count, -, hstate⟩ |
            ⟨word, -, hsome, hstate⟩
          · rw [hstate, arrival?_clock, hnone]
            exact (ite_self _).symm
          · rw [hstate, arrival?_clock, hsome, complete_eq]
            rfl
      | raise flag => exact (ite_self _).symm
      | poke address value =>
          have hne : Address.data ≠ address := by
            rintro rfl
            exact h (List.mem_singleton_self _)
          have hdata : (s.poke address value).data = s.data :=
            Bank.get_set_of_ne s.toBank value hne
          exact hdata.trans (ite_self _).symm
      | forgetWrites => exact (ite_self _).symm

/-- A stimulus leaves both latches alone. -/
theorem latches_stimulus (change : Stimulus) :
    (s.undergo (.stimulus change)).overrunDataRead = s.overrunDataRead ∧
      (s.undergo (.stimulus change)).modeFaultStatusRead = s.modeFaultStatusRead := by
  cases change with
  | deliver word =>
      rw [undergo, stimulate, deliver_eq]
      exact ⟨rfl, rfl⟩
  | clock cycles =>
      rcases s.undergo_clock_cases cycles with ⟨-, count, -, hstate⟩ | ⟨word, -, -, hstate⟩
      · rw [hstate]
        exact ⟨rfl, rfl⟩
      · rw [hstate, complete_eq]
        exact ⟨rfl, rfl⟩
  | raise flag => exact ⟨rfl, rfl⟩
  | poke address value => exact ⟨rfl, rfl⟩
  | forgetWrites => exact ⟨rfl, rfl⟩

/-- A data read sets the latch under an overrun, and the status read that clears the overrun clears
it. -/
theorem overrunDataRead_undergo (event : Event) :
    (s.undergo event).overrunDataRead =
      if event = .read .status then s.overrunDataRead && !s.flag .overrun
      else if event = .read .data then s.overrunDataRead || s.flag .overrun
      else s.overrunDataRead := by
  cases event with
  | read address =>
      cases address with
      | status => rw [undergo, read, afterRead, afterStatusRead_eq]; rfl
      | data => rw [undergo, read, afterRead, afterDataRead_eq]; rfl
      | control1 | control2 | crcPolynomial | rxCrc | txCrc => rfl
  | write address value =>
      rw [undergo, write_eq]
      rfl
  | stimulus change => exact (s.latches_stimulus change).1

/-- A status read sets the latch under a mode fault, and the write of control register 1 that clears
the mode fault clears it. -/
theorem modeFaultStatusRead_undergo (event : Event) :
    (s.undergo event).modeFaultStatusRead =
      if event = .read .status then s.modeFaultStatusRead || s.flag .modeFault
      else if ∃ value, event = .write .control1 value then
        s.modeFaultStatusRead && !s.flag .modeFault
      else s.modeFaultStatusRead := by
  cases event with
  | read address =>
      cases address with
      | status => rw [undergo, read, afterRead, afterStatusRead_eq]; simp
      | data => rw [undergo, read, afterRead, afterDataRead_eq]; simp [lower]
      | control1 | control2 | crcPolynomial | rxCrc | txCrc => simp [undergo, read, afterRead]
  | write address value =>
      cases address with
      | control1 =>
          rw [undergo, write, store, storeControl1_eq]
          simp [flag]
      | status => rw [undergo, write, store, storeStatus_eq]; simp
      | data => rw [undergo, write, store, storeData_eq]; simp
      | control2 | crcPolynomial | rxCrc | txCrc => simp [undergo, write, store]
  | stimulus change =>
      rw [(s.latches_stimulus change).2]
      simp

end SpiController.Simulator
