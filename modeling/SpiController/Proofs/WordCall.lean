import SpiController.Proofs.Program

/-!
# Calls that move one word

`readOne` and `writeOne`, and the calls for bytes and halfwords on top of them, look at the status
first. Their runs end in one of three ways, according to the status word that they read.
-/

namespace SpiController

namespace Port

variable {σ α : Type} [Device σ]

/-- A call reads the status, and then it reports an error that it sees, refuses because the register
is not ready, or moves the word. -/
theorem run_whenReady_cases (ready : StatusFlag) (move : Program α) (s : σ) :
    let reading := Device.read s .status
    (∃ error, (Status.mk reading.1).error = some error ∧
      (whenReady ready move).run s = ⟨.failed error, reading.2, [.read .status reading.1], []⟩) ∨
    ((Status.mk reading.1).error = none ∧ (Status.mk reading.1).isSet ready = false ∧
      (whenReady ready move).run s = ⟨.wouldBlock, reading.2, [.read .status reading.1], []⟩) ∨
    ((Status.mk reading.1).error = none ∧ (Status.mk reading.1).isSet ready = true ∧
      (whenReady ready move).run s =
        let moved := move.run reading.2
        ⟨.moved moved.result, moved.state, .read .status reading.1 :: moved.accesses,
          moved.signals⟩) := by
  intro reading
  cases he : (Status.mk reading.1).error with
  | some error =>
      refine .inl ⟨error, rfl, ?_⟩
      simp [whenReady, status, reading, he]
  | none =>
      cases hr : (Status.mk reading.1).isSet ready with
      | false =>
          refine .inr (.inl ⟨rfl, rfl, ?_⟩)
          simp [whenReady, status, reading, he, hr]
      | true =>
          refine .inr (.inr ⟨rfl, rfl, ?_⟩)
          simp [whenReady, status, reading, he, hr]

end Port

/-! ## Calls that fail -/

/-- The error that an attempt failed with. -/
def Attempt.failure? {α : Type} : Attempt α → Option TransferError
  | .failed error => some error
  | .moved _ | .wouldBlock => none

@[simp]
theorem Attempt.failure?_map {α β : Type} (change : α → β) (outcome : Attempt α) :
    (outcome.map change).failure? = outcome.failure? := by
  cases outcome <;> rfl

/-- The error that a call for a word failed with. -/
def Reply.failure? : Reply → Option TransferError
  | .received outcome => outcome.failure?
  | .receivedByte outcome => outcome.failure?
  | .sent outcome => outcome.failure?
  | .none | .truth _ | .word _ | .config _ | .status _ => Option.none

theorem Attempt.map_setWidth_self (outcome : Attempt Word) :
    (outcome.map fun word => word.setWidth 16) = outcome := by
  cases outcome with
  | moved word => exact congrArg Attempt.moved (BitVec.setWidth_eq word)
  | wouldBlock => rfl
  | failed error => rfl

/-- A word of a given width is read as any word, and cut to that width. -/
theorem Port.run_readWidth {σ : Type} [Device σ] (width : Nat) (s : σ) :
    (readWidth width).run s =
      { readOne.run s with
        result := (readOne.run s).result.map fun word => word.setWidth width } := by
  simp [readWidth]

theorem Port.map_readWidth {β : Type} (width : Nat) (answer : Attempt (BitVec width) → β) :
    answer <$> readWidth width =
      (fun outcome => answer (outcome.map fun word => word.setWidth width)) <$> readOne := by
  have hread : readWidth width =
      (fun outcome => outcome.map fun word => word.setWidth width) <$> readOne := rfl
  rw [hread, ← LawfulFunctor.comp_map]
  rfl

namespace Operation

/-- The operation reads or writes one word after a look at the status. -/
def MovesWord : Operation → Prop
  | readOne | writeOne _ | readByte | writeByte _ | readHalfword | writeHalfword _ => True
  | _ => False

/-- All calls that move a word look at the status in the same way, and pass its error on. -/
theorem program_of_movesWord {operation : Operation} (h : operation.MovesWord) :
    ∃ (α : Type) (ready : StatusFlag) (move : Program α) (answer : Attempt α → Reply),
      operation.program = answer <$> Port.whenReady ready move ∧
        ∀ outcome, (answer outcome).failure? = outcome.failure? := by
  cases operation with
  | readOne => exact ⟨_, _, _, Reply.received, rfl, fun _ => rfl⟩
  | writeOne value => exact ⟨_, _, _, Reply.sent, rfl, fun _ => rfl⟩
  | readByte =>
      exact ⟨_, _, _, _, Port.map_readWidth 8 Reply.receivedByte, fun outcome =>
        outcome.failure?_map _⟩
  | writeByte value => exact ⟨_, _, _, Reply.sent, rfl, fun _ => rfl⟩
  | readHalfword =>
      exact ⟨_, _, _, _, Port.map_readWidth 16 Reply.received, fun outcome =>
        outcome.failure?_map _⟩
  | writeHalfword value => exact ⟨_, _, _, Reply.sent, rfl, fun _ => rfl⟩
  | _ => exact h.elim

variable {σ : Type} [Device σ]

/-- A call that moves a word fails with the error that the status shows, and only then. -/
theorem failure?_run {operation : Operation} (h : operation.MovesWord) (s : σ) :
    (operation.program.run s).result.failure? = (Status.mk (Device.read s .status).1).error := by
  obtain ⟨α, ready, move, answer, hprogram, hanswer⟩ := program_of_movesWord h
  rw [hprogram, Program.run_map]
  rcases Port.run_whenReady_cases ready move s with
    ⟨error, herror, hrun⟩ | ⟨herror, -, hrun⟩ | ⟨herror, -, hrun⟩
  · rw [hrun, herror]
    exact hanswer _
  · rw [hrun, herror]
    exact hanswer _
  · rw [hrun, herror]
    exact hanswer _

/-- A call that fails has read the status and done no more. -/
theorem state_of_failure {operation : Operation} (h : operation.MovesWord) {s : σ}
    {error : TransferError}
    (hfailure : (operation.program.run s).result.failure? = some error) :
    (operation.program.run s).state = (Device.read s .status).2 := by
  -- the status showed the error, which rules out the other ways to end
  have hseen := (failure?_run h s).symm.trans hfailure
  obtain ⟨α, ready, move, answer, hprogram, -⟩ := program_of_movesWord h
  rw [hprogram, Program.run_map]
  rcases Port.run_whenReady_cases ready move s with
    ⟨error, -, hrun⟩ | ⟨hnone, -⟩ | ⟨hnone, -⟩
  · rw [hrun]
  · rw [hnone] at hseen
    cases hseen
  · rw [hnone] at hseen
    cases hseen

end Operation

/-! ## Calls that hand over a word -/

namespace Operation

/-- The word that an operation hands over when there is room, a byte with zeros above it. -/
def word? : Operation → Option Word
  | writeOne value => some value
  | writeByte value => some (value.setWidth 16)
  | writeHalfword value => some value
  | _ => none

/-- All calls that hand over a word are `writeOne`. -/
theorem program_of_word? {operation : Operation} {word : Word} (h : operation.word? = some word) :
    operation.program = Reply.sent <$> Port.writeOne word := by
  cases operation with
  | writeOne value => cases h; rfl
  | writeByte value => cases h; rfl
  | writeHalfword value =>
      cases h
      exact congrArg (Reply.sent <$> Port.writeOne ·) (BitVec.setWidth_eq word)
  | _ => cases h

end Operation

end SpiController
