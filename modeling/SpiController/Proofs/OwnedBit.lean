import SpiController.Proofs.Configuration
import SpiController.Proofs.Interrupt
import SpiController.Proofs.WordCall

/-!
# The bits that an operation owns

Every operation of a port that changes a plain register gives values to certain bits and keeps the
others. `Operation.assigns` is the table of these bits; `Operation.assigns_program` says that the
program of every operation performs its row of the table, on every device with plain registers.
-/

namespace SpiController

/-- The bits that an operation gives a value to. Enable and the two CRC control bits are the ones
that a configuration leaves out. -/
def Operation.assigns : Operation → Assignment
  | configure value => fun address i =>
      match address with
      | .control1 => if Config.preserveMask.getLsbD i then none else some (value.encode.getLsbD i)
      | .crcPolynomial => some (value.crcPolynomial.getLsbD i)
      | _ => none
  | enable => .bit .control1 6 true
  | disable => .bit .control1 6 false
  | setSoftwareSelect => .bit .control1 8 true
  | resetSoftwareSelect => .bit .control1 8 false
  | setFrameLength length => .bit .control1 11 (length == .bits16)
  | requestCrcTransmit => .bit .control1 12 true
  | enableCrc => .bit .control1 13 true
  | disableCrc => .bit .control1 13 false
  | setLineDirection direction => .bit .control1 14 (direction == .tx)
  | enableDma .rx => .bit .control2 0 true
  | disableDma .rx => .bit .control2 0 false
  | enableDma .tx => .bit .control2 1 true
  | disableDma .tx => .bit .control2 1 false
  | enableSelectOutput => .bit .control2 2 true
  | disableSelectOutput => .bit .control2 2 false
  | enableInterrupt source => .bit .control2 source.enableBit true
  | disableInterrupt source => .bit .control2 source.enableBit false
  | reset | setClockEnabled _ | config | isEnabled | transmit _ | receive | readTxCrc | readRxCrc
  | readCrcPolynomial | readOne | writeOne _ | readByte | writeByte _ | readHalfword
  | writeHalfword _ | status | readStatusFlag _ | isInterruptEnabled _ | readInterruptFlag _
  | clearCrcError | clearStatusFlag _ | clearInterruptFlag _ => .none

theorem Assignment.bit_eq_some_iff {register address : Address} {position i : Nat}
    {given value : Bool} :
    bit register position given address i = some value ↔
      (address = register ∧ i = position) ∧ given = value := by
  rw [bit, Option.ite_none_right_eq_some, Option.some_inj]

/-- Some operation owns the bit. Nothing owns the reserved bits of control register 2 and the
computed CRCs. -/
def Address.HasOwner : Address → Nat → Prop
  | control1, _ | crcPolynomial, _ => True
  | control2, i => i ∈ [0, 1, 2, 5, 6, 7]
  | status, _ | data, _ | rxCrc, _ | txCrc, _ => False

theorem Operation.hasOwner_of_assigns {operation : Operation} {address : Address} {i : Nat}
    {value : Bool} (h : operation.assigns address i = some value) : address.HasOwner i := by
  cases operation with
  | configure config =>
      cases address with
      | control1 | crcPolynomial => trivial
      | control2 | status | data | rxCrc | txCrc => cases h
  | enable | disable | setSoftwareSelect | resetSoftwareSelect | enableCrc | disableCrc
  | requestCrcTransmit =>
      obtain ⟨⟨rfl, -⟩, -⟩ := Assignment.bit_eq_some_iff.1 h
      trivial
  | setFrameLength length | setLineDirection direction =>
      obtain ⟨⟨rfl, -⟩, -⟩ := Assignment.bit_eq_some_iff.1 h
      trivial
  | enableSelectOutput | disableSelectOutput =>
      obtain ⟨⟨rfl, rfl⟩, -⟩ := Assignment.bit_eq_some_iff.1 h
      simp [Address.HasOwner]
  | enableDma request | disableDma request =>
      cases request with
      | rx | tx =>
          obtain ⟨⟨rfl, rfl⟩, -⟩ := Assignment.bit_eq_some_iff.1 h
          simp [Address.HasOwner]
  | enableInterrupt source | disableInterrupt source =>
      obtain ⟨⟨rfl, rfl⟩, -⟩ := Assignment.bit_eq_some_iff.1 h
      cases source <;> simp [Address.HasOwner, InterruptSource.enableBit]
  | _ => cases h

namespace Port

open Address Program

/-! ## Operations that change a plain register -/

theorem assigns_writeField (field : Field .flag) (value : Bool) (hstores : field.register.Stores) :
    (writeField field value).Assigns (.bit field.register field.offset value) :=
  assigns_bit_of_change hstores (field.getLsbD_write_flag value)

/-- Setting a bit by a mask. -/
theorem assigns_setBit {address : Address} (hstores : address.Stores) {position : Nat}
    (hposition : position < 16) :
    (modifyRegister address fun content => content ||| BitVec.twoPow 16 position).Assigns
      (.bit address position true) := by
  apply assigns_bit_of_change hstores
  intro content i
  by_cases h : i = position
  · simp [h, hposition]
  · simp [h, Ne.symm h]

/-- Clearing a bit by a mask. -/
theorem assigns_clearBit {address : Address} (hstores : address.Stores) {position : Nat}
    (hposition : position < 16) :
    (modifyRegister address fun content => content &&& ~~~BitVec.twoPow 16 position).Assigns
      (.bit address position false) := by
  apply assigns_bit_of_change hstores
  intro content i
  by_cases h : i = position
  · simp [h, hposition]
  · by_cases hi : i < 16
    · simp [h, hi]
    · simp [h, BitVec.getLsbD_of_ge _ _ (Nat.le_of_not_lt hi)]

theorem assigns_setLineDirection (direction : LineDirection) :
    (setLineDirection direction).Assigns (.bit .control1 14 (direction == .tx)) := by
  cases direction with
  | rx =>
      have hmask : LineDirection.rx.bits = ~~~BitVec.twoPow 16 14 := by decide
      have h : (modifyRegister .control1 fun content => content &&& ~~~BitVec.twoPow 16 14).Assigns
          (.bit .control1 14 false) :=
        assigns_clearBit stores_control1 (by decide)
      rwa [← hmask] at h
  | tx =>
      have hbit : LineDirection.tx.bits = BitVec.twoPow 16 14 := by decide
      have h : (modifyRegister .control1 fun content => content ||| BitVec.twoPow 16 14).Assigns
          (.bit .control1 14 true) :=
        assigns_setBit stores_control1 (by decide)
      rwa [← hbit] at h

theorem assigns_enableInterrupt (source : InterruptSource) :
    (enableInterrupt source).Assigns (.bit .control2 source.enableBit true) := by
  have hposition := source.enableBit_lt
  rw [enableInterrupt, source.enableMask_eq]
  exact assigns_setBit stores_control2 (by omega)

theorem assigns_disableInterrupt (source : InterruptSource) :
    (disableInterrupt source).Assigns (.bit .control2 source.enableBit false) := by
  have hposition := source.enableBit_lt
  rw [disableInterrupt, source.enableMask_eq]
  exact assigns_clearBit stores_control2 (by omega)

/-- Of the two writes, the first one clears the bit and the second one sets it for long frames. -/
theorem assigns_setFrameLength (length : FrameLength) :
    (setFrameLength length).Assigns (.bit .control1 11 (length == .bits16)) := by
  have hclear := assigns_writeField Control1.frame16 false stores_control1
  cases length with
  | bits8 =>
      have hkeep :
          (modifyRegister .control1 fun content => content ||| FrameLength.bits8.bits).Assigns
            .none := by
        apply assigns_modifyRegister _ stores_control1
        · intro content i
          simp [FrameLength.bits, Assignment.none]
        · intro c _ i
          rfl
      exact hclear.bind fun _ => hkeep
  | bits16 =>
      have hset : (modifyRegister .control1 fun content => content ||| BitVec.twoPow 16 11).Assigns
          (.bit .control1 11 true) :=
        assigns_setBit stores_control1 (by decide)
      have hboth : (Assignment.bit .control1 11 true).overriding (.bit .control1 11 false) =
          .bit .control1 11 true := by
        funext address i
        simp only [Assignment.overriding, Assignment.bit]
        split
        · rfl
        · rfl
      have h : (setFrameLength .bits16).Assigns
          ((Assignment.bit .control1 11 true).overriding (.bit .control1 11 false)) :=
        hclear.bind fun _ => hset
      rwa [hboth] at h

theorem assigns_configure (config : Config) :
    (configure config).Assigns (Operation.assigns (.configure config)) := by
  have hcontrol : (modifyRegister .control1 config.apply).Assigns fun address i =>
      if address = .control1 then
        if Config.preserveMask.getLsbD i then none else some (config.encode.getLsbD i)
      else none := by
    apply assigns_modifyRegister _ stores_control1
    · intro content i
      rw [config.getLsbD_apply, if_pos rfl]
      split
      · rfl
      · rfl
    · intro c hc i
      exact if_neg hc
  have hpolynomial : (writeRegister .crcPolynomial config.crcPolynomial).Assigns fun address i =>
      if address = .crcPolynomial then some (config.crcPolynomial.getLsbD i) else none :=
    assigns_writeRegister stores_crcPolynomial
  -- each of the two assigns to one register, so that the two do not meet
  have hboth : Operation.assigns (.configure config) =
      Assignment.overriding
        (fun address i =>
          if address = .crcPolynomial then some (config.crcPolynomial.getLsbD i) else none)
        fun address i =>
          if address = .control1 then
            if Config.preserveMask.getLsbD i then none else some (config.encode.getLsbD i)
          else none := by
    funext address i
    cases address <;> rfl
  rw [hboth]
  exact hcontrol.bind fun _ => hpolynomial

/-! ## Operations that change none -/

theorem assigns_readField {kind : FieldKind} (field : Field kind) :
    (readField field).Assigns .none :=
  (assigns_readRegister _).bind fun _ => assigns_pure _

theorem assigns_status : status.Assigns .none :=
  (assigns_readRegister _).bind fun _ => assigns_pure _

theorem assigns_transmit (value : Word) : (transmit value).Assigns .none :=
  assigns_writeRegister_of_not_plain (by decide) value

theorem assigns_whenReady {α : Type} (ready : StatusFlag) {move : Program α}
    (hmove : move.Assigns .none) : (whenReady ready move).Assigns .none := by
  refine assigns_status.bind_of_none fun reading => ?_
  cases reading.error with
  | some error => exact assigns_pure _
  | none =>
      change (if reading.isSet ready = true then _ else _ : Program (Attempt α)).Assigns .none
      split
      · exact hmove.bind fun _ => assigns_pure _
      · exact assigns_pure _

theorem assigns_readOne : readOne.Assigns .none :=
  assigns_whenReady _ (assigns_readField _)

theorem assigns_readWidth (width : Nat) : (readWidth width).Assigns .none :=
  assigns_readOne.bind fun _ => assigns_pure _

theorem assigns_writeOne (value : Word) : (writeOne value).Assigns .none :=
  assigns_whenReady _ (assigns_transmit value)

theorem assigns_clearCrcError : clearCrcError.Assigns .none :=
  assigns_writeRegister_of_not_plain (by decide) _

end Port

namespace Operation

open Address Port Program in
/-- Every operation gives its bits their values and keeps all other bits of the plain registers. -/
theorem assigns_program (operation : Operation) :
    operation.program.Assigns operation.assigns := by
  cases operation with
  | reset => exact ((assigns_emit _).bind fun _ => assigns_emit _).answerless
  | setClockEnabled enabled => exact (assigns_emit _).answerless
  | configure config => exact (assigns_configure config).answerless
  | config =>
      exact ((assigns_readRegister _).bind fun _ =>
        (assigns_readRegister _).bind fun _ => assigns_pure _).map _
  | enable => exact (assigns_writeField Control1.enabled true stores_control1).answerless
  | disable => exact (assigns_writeField Control1.enabled false stores_control1).answerless
  | isEnabled => exact (assigns_readField _).map _
  | enableDma request =>
      cases request with
      | tx => exact (assigns_writeField Control2.txDma true stores_control2).answerless
      | rx => exact (assigns_writeField Control2.rxDma true stores_control2).answerless
  | disableDma request =>
      cases request with
      | tx => exact (assigns_writeField Control2.txDma false stores_control2).answerless
      | rx => exact (assigns_writeField Control2.rxDma false stores_control2).answerless
  | transmit value => exact (assigns_transmit value).answerless
  | receive => exact (assigns_readField _).map _
  | setSoftwareSelect =>
      exact (assigns_writeField Control1.internalSelect true stores_control1).answerless
  | resetSoftwareSelect =>
      exact (assigns_writeField Control1.internalSelect false stores_control1).answerless
  | enableSelectOutput =>
      exact (assigns_writeField Control2.selectOutput true stores_control2).answerless
  | disableSelectOutput =>
      exact (assigns_writeField Control2.selectOutput false stores_control2).answerless
  | setFrameLength length => exact (assigns_setFrameLength length).answerless
  | setLineDirection direction => exact (assigns_setLineDirection direction).answerless
  | enableCrc =>
      exact (assigns_writeField Control1.crcEnabled true stores_control1).answerless
  | disableCrc =>
      exact (assigns_writeField Control1.crcEnabled false stores_control1).answerless
  | requestCrcTransmit =>
      exact (assigns_writeField Control1.crcNext true stores_control1).answerless
  | readTxCrc | readRxCrc | readCrcPolynomial => exact (assigns_readField _).map _
  | readOne => exact assigns_readOne.map _
  | writeOne value => exact (assigns_writeOne value).map _
  | readByte => exact (assigns_readWidth 8).map _
  | writeByte value => exact (assigns_writeOne _).map _
  | readHalfword => exact (assigns_readWidth 16).map _
  | writeHalfword value => exact (assigns_writeOne _).map _
  | status => exact assigns_status.map _
  | readStatusFlag flag => exact (assigns_status.bind fun _ => assigns_pure _).map _
  | enableInterrupt source => exact (assigns_enableInterrupt source).answerless
  | disableInterrupt source => exact (assigns_disableInterrupt source).answerless
  | isInterruptEnabled source =>
      exact ((assigns_readRegister _).bind fun _ => assigns_pure _).map _
  | readInterruptFlag source =>
      exact ((assigns_readRegister _).bind fun _ =>
        (assigns_readRegister _).bind fun _ => assigns_pure _).map _
  | clearCrcError | clearStatusFlag _ | clearInterruptFlag _ =>
      exact assigns_clearCrcError.answerless

end Operation

end SpiController
