import SpiController.Proofs.ErrorPriority
import SpiController.Proofs.WordCall
import SpiController.Proofs.Simulator.Effect

/-!
# Calls that are refused

A call that moves a word is refused when the status shows no error but the data register is not
ready for it. On a simulated peripheral such a call changes nothing at all
(`Simulator.state_of_refuses`): the status read that it makes could only clear an error.
-/

namespace SpiController

/-! ## Ready or not -/

namespace Port

variable {σ α : Type} [Device σ]

theorem run_whenReady_of_ready {ready : StatusFlag} (move : Program α) {s : σ}
    (herror : (Status.mk (Device.read s .status).1).error = none)
    (hready : (Status.mk (Device.read s .status).1).isSet ready = true) :
    (whenReady ready move).run s =
      let reading := Device.read s .status
      let moved := move.run reading.2
      ⟨.moved moved.result, moved.state, .read .status reading.1 :: moved.accesses,
        moved.signals⟩ := by
  rcases run_whenReady_cases ready move s with
    ⟨error, hsome, -⟩ | ⟨-, hnot, -⟩ | ⟨-, -, hrun⟩
  · rw [herror] at hsome
    cases hsome
  · rw [hready] at hnot
    cases hnot
  · exact hrun

theorem run_whenReady_of_not_ready {ready : StatusFlag} (move : Program α) {s : σ}
    (herror : (Status.mk (Device.read s .status).1).error = none)
    (hready : (Status.mk (Device.read s .status).1).isSet ready = false) :
    (whenReady ready move).run s =
      let reading := Device.read s .status
      ⟨.wouldBlock, reading.2, [.read .status reading.1], []⟩ := by
  rcases run_whenReady_cases ready move s with
    ⟨error, hsome, -⟩ | ⟨-, -, hrun⟩ | ⟨-, hset, -⟩
  · rw [herror] at hsome
    cases hsome
  · exact hrun
  · rw [hready] at hset
    cases hset

end Port

/-! ## The answer of a refused call -/

/-- The call was refused: no word has arrived, or there is no room for one. -/
def Reply.Refuses : Reply → Prop
  | .received outcome => outcome = .wouldBlock
  | .receivedByte outcome => outcome = .wouldBlock
  | .sent outcome => outcome = .wouldBlock
  | .none | .truth _ | .word _ | .config _ | .status _ => False

theorem Attempt.eq_wouldBlock_of_map {α β : Type} {change : α → β} {outcome : Attempt α}
    (h : outcome.map change = .wouldBlock) : outcome = .wouldBlock := by
  cases outcome with
  | moved value => cases h
  | wouldBlock => rfl
  | failed error => cases h

namespace Operation

/-- What a call that moves a word answers when it is refused. -/
def refusal : Operation → Reply
  | readOne | readHalfword => .received .wouldBlock
  | readByte => .receivedByte .wouldBlock
  | _ => .sent .wouldBlock

/-- Every call that moves a word waits for one of two flags, and passes a refusal on. -/
theorem program_eq_whenReady {operation : Operation} (h : operation.MovesWord) :
    ∃ (α : Type) (ready : StatusFlag) (move : Program α) (answer : Attempt α → Reply),
      operation.program = answer <$> Port.whenReady ready move ∧
        (ready = .rxNotEmpty ∨ ready = .txEmpty) ∧ answer .wouldBlock = operation.refusal ∧
          ∀ outcome, (answer outcome).Refuses → outcome = .wouldBlock := by
  cases operation with
  | readOne => exact ⟨_, _, _, Reply.received, rfl, .inl rfl, rfl, fun _ h => h⟩
  | readByte =>
      exact ⟨_, _, _, _, Port.map_readWidth 8 Reply.receivedByte, .inl rfl, rfl, fun _ h =>
        Attempt.eq_wouldBlock_of_map h⟩
  | readHalfword =>
      exact ⟨_, _, _, _, Port.map_readWidth 16 Reply.received, .inl rfl, rfl, fun _ h =>
        Attempt.eq_wouldBlock_of_map h⟩
  | writeOne value => exact ⟨_, _, _, Reply.sent, rfl, .inr rfl, rfl, fun _ h => h⟩
  | writeByte value => exact ⟨_, _, _, Reply.sent, rfl, .inr rfl, rfl, fun _ h => h⟩
  | writeHalfword value => exact ⟨_, _, _, Reply.sent, rfl, .inr rfl, rfl, fun _ h => h⟩
  | _ => exact h.elim

/-- No other operation is refused. -/
theorem movesWord_of_refuses {σ : Type} [Device σ] {operation : Operation} {s : σ}
    (h : (operation.program.run s).result.Refuses) : operation.MovesWord := by
  cases operation with
  | readOne | writeOne value | readByte | writeByte value | readHalfword | writeHalfword value =>
      trivial
  | _ => exact h

end Operation

/-! ## Refused calls on a simulated peripheral -/

theorem Status.error_eq_none_iff (status : Status) :
    status.error = none ↔ ∀ error : TransferError, status.isSet error.flag = false := by
  rw [error_eq_find?, List.find?_eq_none]
  constructor
  · intro h error
    exact Bool.eq_false_iff.2 (h error (Labelled.mem_all error))
  · intro h error _
    rw [h error]
    exact Bool.false_ne_true

namespace Simulator

variable {s : Simulator}

theorem lower_of_not_flag {f : StatusFlag} (h : s.flag f = false) : s.lower f = s := by
  have hstatus : s.status &&& ~~~f.mask = s.status := by
    apply BitVec.eq_of_getLsbD_eq
    intro i hi
    rw [flag_eq_getLsbD] at h
    rw [BitVec.getLsbD_and, BitVec.getLsbD_not, StatusFlag.mask, BitVec.getLsbD_twoPow]
    by_cases hposition : f.position = i
    · rw [← hposition, h, Bool.false_and]
    · simp [hi, hposition]
  rw [lower, hstatus]

/-- A status read finds no error flag to clear, and no mode fault to note. -/
structure Settled (s : Simulator) : Prop where
  underrun : s.flag .underrun = false
  overrun : s.flag .overrun = false ∨ s.overrunDataRead = false
  modeFault : s.flag .modeFault = false ∨ s.modeFaultStatusRead = true

/-- A status read that finds nothing to do changes nothing. -/
theorem Settled.afterStatusRead_eq_self (h : s.Settled) : s.afterStatusRead = s := by
  have hsettle : s.settleOverrun = s := by
    rcases h.overrun with hoverrun | hlatch
    · simp [settleOverrun, hoverrun]
    · simp [settleOverrun, hlatch]
  have hnote : s.noteModeFault = s := by
    rcases h.modeFault with hmodeFault | hlatch
    · simp [noteModeFault, hmodeFault]
    · simp [noteModeFault, ← hlatch]
  rw [afterStatusRead, hsettle, hnote, lower_of_not_flag h.underrun]

/-- A status read that shows no error changes nothing. -/
theorem afterStatusRead_of_error_eq_none (h : (Status.mk s.status).error = none) :
    s.afterStatusRead = s := by
  have hclear := (Status.error_eq_none_iff _).1 h
  have hsettled : s.Settled :=
    ⟨hclear .underrun, .inl (hclear .overrun), .inl (hclear .modeFault)⟩
  exact hsettled.afterStatusRead_eq_self

/-- Without an error, a call that finds its register not ready is refused. -/
theorem run_of_not_ready {operation : Operation} (hmoves : operation.MovesWord)
    (herror : (Status.mk s.status).error = none) (hrx : s.flag .rxNotEmpty = false)
    (htx : s.flag .txEmpty = false) :
    (operation.program.run s).result = operation.refusal ∧ (operation.program.run s).state = s := by
  obtain ⟨α, ready, move, answer, hprogram, hready, hrefusal, -⟩ :=
    Operation.program_eq_whenReady hmoves
  have hnot : s.flag ready = false := by
    rcases hready with rfl | rfl
    · exact hrx
    · exact htx
  have hrun := Port.run_whenReady_of_not_ready move (s := s) herror hnot
  rw [hprogram, Program.run_map, hrun, hrefusal]
  exact ⟨rfl, afterStatusRead_of_error_eq_none herror⟩

/-- A refused call changes nothing. -/
theorem state_of_refuses {operation : Operation}
    (h : (operation.program.run s).result.Refuses) : (operation.program.run s).state = s := by
  obtain ⟨α, ready, move, answer, hprogram, -, -, hanswer⟩ :=
    Operation.program_eq_whenReady (Operation.movesWord_of_refuses h)
  rw [hprogram, Program.run_map] at h ⊢
  have hblocked := hanswer _ h
  rcases Port.run_whenReady_cases ready move s with
    ⟨error, -, hrun⟩ | ⟨hnone, -, hrun⟩ | ⟨-, -, hrun⟩
  · rw [hrun] at hblocked
    cases hblocked
  · rw [hrun]
    exact afterStatusRead_of_error_eq_none hnone
  · rw [hrun] at hblocked
    cases hblocked

end Simulator

end SpiController
