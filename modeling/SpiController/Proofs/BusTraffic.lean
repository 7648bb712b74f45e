import SpiController.Proofs.Configuration
import SpiController.Proofs.WordCall

/-!
# The moves of an operation on the bus

A driver reads a register, writes one, or modifies one, which is a read and directly after it a
write of the same register. `Performs` says that accesses make given moves and that every
modification changes no bits but the ones that belong to it. `Operation.traffic` is the table of the
moves of every operation, and `Operation.ownBits` the table of the bits that it may change.
`Operation.makes_program` says that the operations keep to the two tables on every device, whatever
the words read are; the moves of a call for a word depend on its answer alone.
-/

namespace SpiController

/-! ## Moves -/

/-- One move on the bus. -/
inductive Move where
  | read (address : Address)
  | write (address : Address) (value : Word)
  /-- A read, and directly after it a write of the same register. -/
  | modify (address : Address)
  deriving DecidableEq, Repr

/-- The words differ in bits of the mask only. -/
def AgreeOutside (mask old new : Word) : Prop :=
  new &&& ~~~mask = old &&& ~~~mask

/-- The accesses make the moves, one after the other, and a modification changes own bits only. -/
inductive Performs (own : Address → Word) : List Move → List Access → Prop
  | nil : Performs own [] []
  | read {moves : List Move} {accesses : List Access} (address : Address) (value : Word)
      (rest : Performs own moves accesses) :
      Performs own (.read address :: moves) (.read address value :: accesses)
  | write {moves : List Move} {accesses : List Access} (address : Address) (value : Word)
      (rest : Performs own moves accesses) :
      Performs own (.write address value :: moves) (.write address value :: accesses)
  | modify {moves : List Move} {accesses : List Access} {address : Address} {old new : Word}
      (keeps : AgreeOutside (own address) old new) (rest : Performs own moves accesses) :
      Performs own (.modify address :: moves)
        (.read address old :: .write address new :: accesses)

variable {own : Address → Word}

theorem Performs.append {first second : List Move} {earlier later : List Access}
    (hfirst : Performs own first earlier) (hsecond : Performs own second later) :
    Performs own (first ++ second) (earlier ++ later) := by
  induction hfirst with
  | nil => exact hsecond
  | read address value _ ih => exact .read address value ih
  | write address value _ ih => exact .write address value ih
  | modify keeps _ ih => exact .modify keeps ih

/-! ## Changes that keep the bits outside a mask -/

theorem agreeOutside_of_getLsbD {mask old new : Word}
    (h : ∀ i, mask.getLsbD i = false → new.getLsbD i = old.getLsbD i) :
    AgreeOutside mask old new := by
  apply BitVec.eq_of_getLsbD_eq
  intro i _
  rw [BitVec.getLsbD_and, BitVec.getLsbD_and, BitVec.getLsbD_not]
  cases hmask : mask.getLsbD i with
  | false => rw [h i hmask]
  | true => simp

/-- Setting bits of the mask. -/
theorem agreeOutside_or {mask bits : Word} (h : bits &&& ~~~mask = 0) (content : Word) :
    AgreeOutside mask content (content ||| bits) := by
  rw [AgreeOutside, BitVec.and_or_distrib_right, h]
  exact BitVec.or_zero

/-- Clearing bits of the mask. -/
theorem agreeOutside_and {mask keep : Word} (h : keep &&& ~~~mask = ~~~mask) (content : Word) :
    AgreeOutside mask content (content &&& keep) := by
  rw [AgreeOutside, BitVec.and_assoc, h]

theorem agreeOutside_write (field : Field .flag) {mask : Word}
    (h : mask.getLsbD field.offset = true) (value : Bool) (content : Word) :
    AgreeOutside mask content (field.write value content) := by
  apply agreeOutside_of_getLsbD
  intro i hi
  have hne : i ≠ field.offset := by
    rintro rfl
    exact Bool.false_ne_true (hi.symm.trans h)
  rw [field.getLsbD_write_flag, if_neg hne]

/-- A configuration is stored in the bits that are not preserved. -/
theorem agreeOutside_apply (config : Config) (content : Word) :
    AgreeOutside 0xcfbf content (config.apply content) := by
  have hmask : (0xcfbf : Word) = ~~~Config.preserveMask := by decide
  rw [hmask]
  apply agreeOutside_of_getLsbD
  intro i hi
  rw [BitVec.getLsbD_not] at hi
  rw [config.getLsbD_apply]
  by_cases hlt : i < 16
  · have hkept : Config.preserveMask.getLsbD i = true := by simpa [hlt] using hi
    rw [if_pos hkept]
  · simp [BitVec.getLsbD_of_ge _ i (Nat.le_of_not_lt hlt)]

/-! ## Programs -/

namespace Program

variable {α β : Type}

/-- On every device, the accesses of the program make the moves, which may depend on its result. -/
def Makes (own : Address → Word) (p : Program α) (moves : α → List Move) : Prop :=
  ∀ (σ : Type) [Device σ] (s : σ), Performs own (moves (p.run s).result) (p.run s).accesses

theorem makes_pure (a : α) : (pure a : Program α).Makes own fun _ => [] := by
  intro σ _ s
  exact .nil

theorem Makes.bind {p : Program α} {next : α → Program β} {first second : List Move}
    (hp : p.Makes own fun _ => first) (hnext : ∀ a, (next a).Makes own fun _ => second) :
    (p >>= next).Makes own fun _ => first ++ second := by
  intro σ _ s
  rw [run_bind]
  exact (hp σ s).append (hnext _ σ _)

theorem Makes.map {p : Program α} {moves : α → List Move} (hp : p.Makes own moves) (change : α → β)
    {after : β → List Move} (h : ∀ a, after (change a) = moves a) :
    (change <$> p).Makes own after := by
  intro σ _ s
  rw [run_map, h]
  exact hp σ s

theorem Makes.answerless {p : Program Unit} {moves : List Move} (hp : p.Makes own fun _ => moves) :
    p.answerless.Makes own fun _ => moves := by
  have h : p.answerless.Makes own fun _ => moves ++ [] := hp.bind fun _ => makes_pure _
  rwa [List.append_nil] at h

theorem makes_emit (request : Signal) : (emit request).Makes own fun _ => [] := by
  intro σ _ s
  exact .nil

theorem makes_readRegister (address : Address) :
    (readRegister address).Makes own fun _ => [.read address] := by
  intro σ _ s
  exact .read _ _ .nil

theorem makes_writeRegister (address : Address) (value : Word) :
    (writeRegister address value).Makes own fun _ => [.write address value] := by
  intro σ _ s
  exact .write _ _ .nil

theorem makes_modifyRegister {address : Address} {change : Word → Word}
    (h : ∀ content, AgreeOutside (own address) content (change content)) :
    (modifyRegister address change).Makes own fun _ => [.modify address] := by
  intro σ _ s
  exact .modify (h _) .nil

end Program

namespace Port

open Program

theorem makes_readField {kind : FieldKind} (field : Field kind) :
    (readField field).Makes own fun _ => [.read field.register] :=
  (makes_readRegister _).bind fun _ => makes_pure _

theorem makes_writeField (field : Field .flag)
    (h : (own field.register).getLsbD field.offset = true) (value : Bool) :
    (writeField field value).Makes own fun _ => [.modify field.register] :=
  makes_modifyRegister (agreeOutside_write field h value)

theorem makes_status : status.Makes own fun _ => [.read .status] :=
  (makes_readRegister _).bind fun _ => makes_pure _

theorem makes_clearCrcError : clearCrcError.Makes own fun _ => [.write .status 0xffef] := by
  have hword : ~~~StatusFlag.crcError.mask = 0xffef := by decide
  rw [clearCrcError, hword]
  exact makes_writeRegister .status 0xffef

end Port

/-! ## Calls for a word -/

/-- The word was moved. -/
def Attempt.isMoved {α : Type} : Attempt α → Bool
  | .moved _ => true
  | .wouldBlock | .failed _ => false

@[simp]
theorem Attempt.isMoved_map {α β : Type} (change : α → β) (outcome : Attempt α) :
    (outcome.map change).isMoved = outcome.isMoved := by
  cases outcome <;> rfl

/-- The reply says that a word was moved. -/
def Reply.isMoved : Reply → Bool
  | .received outcome => outcome.isMoved
  | .receivedByte outcome => outcome.isMoved
  | .sent outcome => outcome.isMoved
  | .none | .truth _ | .word _ | .config _ | .status _ => false

namespace Port

open Program

/-- After the look at the status, a word is moved exactly when the outcome says so. -/
theorem makes_whenReady {α : Type} (ready : StatusFlag) {move : Program α} {moves : List Move}
    (hmove : move.Makes own fun _ => moves) :
    (whenReady ready move).Makes own fun outcome =>
      .read .status :: if outcome.isMoved then moves else [] := by
  intro σ _ s
  rcases run_whenReady_cases ready move s with ⟨error, -, hrun⟩ | ⟨-, -, hrun⟩ | ⟨-, -, hrun⟩
  · rw [hrun]
    exact .read _ _ .nil
  · rw [hrun]
    exact .read _ _ .nil
  · rw [hrun]
    exact .read _ _ (hmove σ _)

theorem makes_readOne :
    readOne.Makes own fun outcome =>
      .read .status :: if outcome.isMoved then [.read .data] else [] :=
  makes_whenReady .rxNotEmpty (makes_readField WholeWord.data)

theorem makes_writeOne (value : Word) :
    (writeOne value).Makes own fun outcome =>
      .read .status :: if outcome.isMoved then [.write .data value] else [] :=
  makes_whenReady .txEmpty (makes_writeRegister .data value)

end Port

/-! ## The tables -/

namespace Operation

/-- A mask for one register. -/
def bitsOf (register : Address) (mask : Word) : Address → Word :=
  fun address => if address = register then mask else 0

/-- The bits of each register that an operation may change when it modifies the register. -/
def ownBits : Operation → Address → Word
  | configure _ => bitsOf .control1 0xcfbf
  | enable | disable => bitsOf .control1 0x0040
  | setSoftwareSelect | resetSoftwareSelect => bitsOf .control1 0x0100
  | setFrameLength _ => bitsOf .control1 0x0800
  | requestCrcTransmit => bitsOf .control1 0x1000
  | enableCrc | disableCrc => bitsOf .control1 0x2000
  | setLineDirection _ => bitsOf .control1 0x4000
  | enableDma .rx | disableDma .rx => bitsOf .control2 0x0001
  | enableDma .tx | disableDma .tx => bitsOf .control2 0x0002
  | enableSelectOutput | disableSelectOutput => bitsOf .control2 0x0004
  | enableInterrupt .txEmpty | disableInterrupt .txEmpty => bitsOf .control2 0x0080
  | enableInterrupt .rxNotEmpty | disableInterrupt .rxNotEmpty => bitsOf .control2 0x0040
  | enableInterrupt _ | disableInterrupt _ => bitsOf .control2 0x0020
  | reset | setClockEnabled _ | config | isEnabled | transmit _ | receive | readTxCrc | readRxCrc
  | readCrcPolynomial | readOne | writeOne _ | readByte | writeByte _ | readHalfword
  | writeHalfword _ | status | readStatusFlag _ | isInterruptEnabled _ | readInterruptFlag _
  | clearCrcError | clearStatusFlag _ | clearInterruptFlag _ => fun _ => 0

/-- The moves of an operation. Those of a call for a word depend on whether a word was moved. -/
def traffic (operation : Operation) (moved : Bool) : List Move :=
  match operation with
  | reset | setClockEnabled _ => []
  | configure value => [.modify .control1, .write .crcPolynomial value.crcPolynomial]
  | config => [.read .control1, .read .crcPolynomial]
  | enable | disable | setSoftwareSelect | resetSoftwareSelect | setLineDirection _ | enableCrc
  | disableCrc | requestCrcTransmit => [.modify .control1]
  | setFrameLength _ => [.modify .control1, .modify .control1]
  | enableDma _ | disableDma _ | enableSelectOutput | disableSelectOutput | enableInterrupt _
  | disableInterrupt _ => [.modify .control2]
  | isEnabled => [.read .control1]
  | transmit value => [.write .data value]
  | receive => [.read .data]
  | readTxCrc => [.read .txCrc]
  | readRxCrc => [.read .rxCrc]
  | readCrcPolynomial => [.read .crcPolynomial]
  | readOne | readByte | readHalfword =>
      .read .status :: if moved then [.read .data] else []
  | writeOne value | writeHalfword value =>
      .read .status :: if moved then [.write .data value] else []
  | writeByte value =>
      .read .status :: if moved then [.write .data (value.setWidth 16)] else []
  | status | readStatusFlag _ => [.read .status]
  | isInterruptEnabled _ => [.read .control2]
  | readInterruptFlag _ => [.read .control2, .read .status]
  | clearCrcError | clearStatusFlag _ | clearInterruptFlag _ => [.write .status 0xffef]

open Port Program in
/-- On every device, every operation makes the moves of the table and changes its own bits only. -/
theorem makes_program (operation : Operation) :
    operation.program.Makes operation.ownBits fun reply => operation.traffic reply.isMoved := by
  cases operation with
  | reset => exact ((makes_emit _).bind fun _ => makes_emit _).answerless
  | setClockEnabled enabled => exact (makes_emit _).answerless
  | configure config =>
      exact ((makes_modifyRegister (agreeOutside_apply config)).bind fun _ =>
        makes_writeRegister _ _).answerless
  | config =>
      exact ((makes_readRegister _).bind fun _ =>
        (makes_readRegister _).bind fun _ => makes_pure _).map _ fun _ => rfl
  | enable => exact (makes_writeField Control1.enabled (by decide) true).answerless
  | disable => exact (makes_writeField Control1.enabled (by decide) false).answerless
  | isEnabled => exact (makes_readField _).map _ fun _ => rfl
  | enableDma request =>
      cases request with
      | tx => exact (makes_writeField Control2.txDma (by decide) true).answerless
      | rx => exact (makes_writeField Control2.rxDma (by decide) true).answerless
  | disableDma request =>
      cases request with
      | tx => exact (makes_writeField Control2.txDma (by decide) false).answerless
      | rx => exact (makes_writeField Control2.rxDma (by decide) false).answerless
  | transmit value => exact (makes_writeRegister _ _).answerless
  | receive => exact (makes_readField _).map _ fun _ => rfl
  | setSoftwareSelect =>
      exact (makes_writeField Control1.internalSelect (by decide) true).answerless
  | resetSoftwareSelect =>
      exact (makes_writeField Control1.internalSelect (by decide) false).answerless
  | enableSelectOutput =>
      exact (makes_writeField Control2.selectOutput (by decide) true).answerless
  | disableSelectOutput =>
      exact (makes_writeField Control2.selectOutput (by decide) false).answerless
  | setFrameLength length =>
      have hown : (bitsOf .control1 0x0800 .control1).getLsbD 11 = true := by decide
      have hbits : length.bits &&& ~~~bitsOf .control1 0x0800 .control1 = 0 := by
        cases length <;> decide
      exact ((makes_writeField Control1.frame16 hown false).bind fun _ =>
        makes_modifyRegister (agreeOutside_or hbits)).answerless
  | setLineDirection direction =>
      cases direction with
      | rx => exact (makes_modifyRegister (agreeOutside_and (by decide))).answerless
      | tx => exact (makes_modifyRegister (agreeOutside_or (by decide))).answerless
  | enableCrc => exact (makes_writeField Control1.crcEnabled (by decide) true).answerless
  | disableCrc => exact (makes_writeField Control1.crcEnabled (by decide) false).answerless
  | requestCrcTransmit => exact (makes_writeField Control1.crcNext (by decide) true).answerless
  | readTxCrc | readRxCrc | readCrcPolynomial => exact (makes_readField _).map _ fun _ => rfl
  | readOne => exact makes_readOne.map _ fun _ => rfl
  | writeOne value => exact (makes_writeOne value).map _ fun _ => rfl
  | readByte =>
      have hread : program readByte = _ := map_readWidth 8 Reply.receivedByte
      rw [hread]
      exact makes_readOne.map _ fun outcome => by simp [traffic, Reply.isMoved]
  | writeByte value => exact (makes_writeOne _).map _ fun _ => rfl
  | readHalfword =>
      have hread : program readHalfword = _ := map_readWidth 16 Reply.received
      rw [hread]
      exact makes_readOne.map _ fun outcome => by simp [traffic, Reply.isMoved]
  | writeHalfword value =>
      rw [program_of_word? rfl]
      exact (makes_writeOne value).map _ fun _ => rfl
  | status => exact makes_status.map _ fun _ => rfl
  | readStatusFlag flag => exact (makes_status.bind fun _ => makes_pure _).map _ fun _ => rfl
  | enableInterrupt source =>
      refine (makes_modifyRegister (agreeOutside_or ?_)).answerless
      cases source <;> decide
  | disableInterrupt source =>
      refine (makes_modifyRegister (agreeOutside_and ?_)).answerless
      cases source <;> decide
  | isInterruptEnabled source =>
      exact ((makes_readRegister _).bind fun _ => makes_pure _).map _ fun _ => rfl
  | readInterruptFlag source =>
      exact ((makes_readRegister _).bind fun _ =>
        (makes_readRegister _).bind fun _ => makes_pure _).map _ fun _ => rfl
  | clearCrcError | clearStatusFlag _ | clearInterruptFlag _ =>
      exact makes_clearCrcError.answerless

end Operation

end SpiController
