import SpiController.Proofs.PlainRegister

/-!
# When an interrupt source is pending

The test for a pending source takes the word of the source, which holds its enable bit above and its
flag below, and looks for any of these bits in the status register. The flag is one of them. The
other is a reserved bit of the status register, eight places above the enable bit of the source in
control register 2. So a source that is enabled is pending when its flag is raised or when that
reserved bit is set, and the error source, which has no flag, when the reserved bit is set.
-/

namespace SpiController

namespace InterruptSource

/-- The bit of control register 2 that enables a source. The error sources share one. -/
def enableBit : InterruptSource → Nat
  | .txEmpty => 7
  | .rxNotEmpty => 6
  | .error | .overrun | .crcError | .modeFault | .underrun => 5

theorem enableBit_lt (source : InterruptSource) : source.enableBit < 8 := by
  cases source <;> decide

theorem enableMask_eq (source : InterruptSource) :
    source.enableMask = BitVec.twoPow 16 source.enableBit := by
  cases source <;> decide

/-- The bit of the status register that the word of a source shares past its flag. -/
def reservedBit (source : InterruptSource) : Nat :=
  source.enableBit + enableShift

theorem bits_eq_or (source : InterruptSource) :
    source.bits = BitVec.twoPow 16 source.reservedBit |||
      (source.flag?.map StatusFlag.mask).getD 0 := by
  cases source <;> decide

end InterruptSource

/-- A word shares a bit with a one-bit mask when it has that bit. -/
theorem and_twoPow_ne_zero_iff (content : Word) {position : Nat} (h : position < 16) :
    content &&& BitVec.twoPow 16 position ≠ 0 ↔ content.getLsbD position = true := by
  rw [BitVec.and_twoPow]
  cases content.getLsbD position with
  | false => simp
  | true =>
      have hbit : (BitVec.twoPow 16 position).getLsbD position = true := by simp [h]
      refine iff_of_true (fun hzero => ?_) rfl
      rw [if_pos rfl] at hzero
      rw [hzero] at hbit
      simp at hbit

theorem or_ne_zero_iff (first second : Word) :
    first ||| second ≠ 0 ↔ first ≠ 0 ∨ second ≠ 0 :=
  (not_congr BitVec.or_eq_zero_iff).trans Decidable.not_and_iff_or_not

namespace InterruptSource

/-- A status word shares a bit with the word of a source when it has the reserved bit of the source
or shows its flag. -/
theorem and_bits_ne_zero_iff (source : InterruptSource) (status : Word) :
    status &&& source.bits ≠ 0 ↔ status.getLsbD source.reservedBit = true ∨
      ∃ flag, source.flag? = some flag ∧ (Status.mk status).isSet flag = true := by
  have hposition : source.reservedBit < 16 := by
    have := source.enableBit_lt
    simp only [reservedBit, enableShift]
    omega
  rw [bits_eq_or, BitVec.and_or_distrib_left, or_ne_zero_iff, and_twoPow_ne_zero_iff _ hposition]
  refine or_congr Iff.rfl ?_
  cases source.flag? with
  | none => simp
  | some flag => simp [Status.isSet]

end InterruptSource

/-- A condition that is not needed only matters when the other one fails. -/
private theorem and_or_iff_and_iff {p q r : Prop} : (p ∧ (q ∨ r) ↔ p ∧ r) ↔ ¬ (p ∧ q ∧ ¬ r) := by
  constructor
  · rintro h ⟨hp, hq, hr⟩
    exact hr (h.1 ⟨hp, .inl hq⟩).2
  · intro h
    constructor
    · rintro ⟨hp, hq | hr⟩
      · exact ⟨hp, Classical.byContradiction fun hr => h ⟨hp, hq, hr⟩⟩
      · exact ⟨hp, hr⟩
    · rintro ⟨hp, hr⟩
      exact ⟨hp, .inr hr⟩

namespace Port

open PlainRegisters

variable {σ : Type} [Device σ] [PlainRegisters σ] (s : σ)

theorem result_readStatusFlag (flag : StatusFlag) :
    ((readStatusFlag flag).run s).result = (Status.mk (content s .status)).isSet flag := by
  rw [← read_fst]
  rfl

theorem result_isInterruptEnabled_iff (source : InterruptSource) :
    ((isInterruptEnabled source).run s).result = true ↔
      (content s .control2).getLsbD source.enableBit = true := by
  have hposition : source.enableBit < 16 := by
    have := source.enableBit_lt
    omega
  rw [← and_twoPow_ne_zero_iff _ hposition, ← InterruptSource.enableMask_eq, ← read_fst]
  exact bne_iff_ne

/-- The port reports the flag that goes by the name of the source as raised. -/
def Raised (source : InterruptSource) : Prop :=
  ∃ flag, source.flag? = some flag ∧ ((readStatusFlag flag).run s).result = true

/-- A source is pending when it is enabled and its flag or its reserved bit is set. -/
theorem result_readInterruptFlag_iff (source : InterruptSource) :
    ((readInterruptFlag source).run s).result = true ↔
      (content s .control2).getLsbD source.enableBit = true ∧
        ((content s .status).getLsbD source.reservedBit = true ∨ Raised s source) := by
  -- the read of control register 2 has no effect on the status that is read next
  have hquiet : (Device.read s .control2).2 = s := read_plain s (by decide)
  have hrun : ((readInterruptFlag source).run s).result =
      (((isInterruptEnabled source).run s).result && content s .status &&& source.bits != 0) := by
    simp [readInterruptFlag, isInterruptEnabled, hquiet, read_fst]
  rw [hrun, Bool.and_eq_true, bne_iff_ne, result_isInterruptEnabled_iff,
    InterruptSource.and_bits_ne_zero_iff]
  simp only [Raised, result_readStatusFlag]

/-- To be pending means to be enabled and raised, unless the reserved bit is all there is. -/
theorem pending_iff_enabled_and_raised_iff (source : InterruptSource) :
    (((readInterruptFlag source).run s).result = true ↔
        (content s .control2).getLsbD source.enableBit = true ∧ Raised s source) ↔
      ¬ ((content s .control2).getLsbD source.enableBit = true ∧
        (content s .status).getLsbD source.reservedBit = true ∧ ¬ Raised s source) := by
  rw [result_readInterruptFlag_iff]
  exact and_or_iff_and_iff

/-- Whatever the registers hold, on a simulated peripheral and in memory: a source is pending
exactly when it is enabled and its flag is raised, or it is enabled and its reserved bit is set. So
to be pending means to be enabled and raised unless the reserved bit is all there is. -/
theorem interrupt_pending_iff (source : InterruptSource) :
    (∀ s : Simulator,
      (((readInterruptFlag source).run s).result = true ↔
        (s.peek .control2).getLsbD source.enableBit = true ∧
          ((s.peek .status).getLsbD source.reservedBit = true ∨ Raised s source)) ∧
      ((((readInterruptFlag source).run s).result = true ↔
          (s.peek .control2).getLsbD source.enableBit = true ∧ Raised s source) ↔
        ¬ ((s.peek .control2).getLsbD source.enableBit = true ∧
          (s.peek .status).getLsbD source.reservedBit = true ∧ ¬ Raised s source))) ∧
    ∀ b : MemoryBlock,
      (((readInterruptFlag source).run b).result = true ↔
        (b.peek .control2).getLsbD source.enableBit = true ∧
          ((b.peek .status).getLsbD source.reservedBit = true ∨ Raised b source)) ∧
      ((((readInterruptFlag source).run b).result = true ↔
          (b.peek .control2).getLsbD source.enableBit = true ∧ Raised b source) ↔
        ¬ ((b.peek .control2).getLsbD source.enableBit = true ∧
          (b.peek .status).getLsbD source.reservedBit = true ∧ ¬ Raised b source)) := by
  constructor
  · intro s
    exact ⟨result_readInterruptFlag_iff s source, pending_iff_enabled_and_raised_iff s source⟩
  · intro b
    exact ⟨result_readInterruptFlag_iff b source, pending_iff_enabled_and_raised_iff b source⟩

/-- Sources that are enabled are pending under a reserved bit of the status register alone: one
whose flag is clear, and the error source, which has none. -/
theorem pending_without_flag :
    let s := (Simulator.initial.poke .control2 0x00a0).poke .status 0xa000
    ((readInterruptFlag .txEmpty).run s).result = true ∧
      ((readStatusFlag .txEmpty).run s).result = false ∧
      ((readInterruptFlag .error).run s).result = true := by
  decide

end Port

end SpiController
