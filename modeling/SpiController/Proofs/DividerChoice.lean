import Mathlib.Algebra.GroupWithZero.Nat
import SpiController.Divider

/-!
# The choice of a divider

The divider chosen for a target rate is the smallest one that keeps the serial clock within the
target, compared exactly and not by the rounded output (`fastestWithin?_exact`). The comparison is
made on a product of 64 bits, which is the product of the numbers (`toNat_product`), and the dividers
are searched from the smallest to the largest (`divisors_increase`), so that the first one found is
the smallest one.

So the divider found is at most as large as any that keeps within the target
(`fastestWithin?_le_of_keepsWithin`): a larger target or a slower clock takes no larger divider. The
rate that a divider gives leads back to it when nothing was rounded off
(`choice_monotone_and_inverse`).
-/

namespace SpiController.Divider

variable {clock target : Hertz}

/-! ## One divider -/

theorem toNat_divisor_le (d : Divider) : d.divisor.toNat ≤ 256 := by
  cases d <;> decide

/-- A rate of 32 bits times a divisor fits 64 bits. -/
theorem product_lt (d : Divider) (target : Hertz) :
    target.toNat * d.divisor.toNat < 2 ^ 64 := by
  have htarget : target.toNat < 2 ^ 32 := target.isLt
  have hdivisor := d.toNat_divisor_le
  calc target.toNat * d.divisor.toNat
      ≤ 2 ^ 32 * 256 := Nat.mul_le_mul (Nat.le_of_lt htarget) hdivisor
    _ < 2 ^ 64 := by decide

theorem toNat_setWidth_64 (word : BitVec 32) : (word.setWidth 64).toNat = word.toNat :=
  BitVec.toNat_setWidth_of_le (by decide)

/-- The product that is compared does not wrap. -/
theorem toNat_product (d : Divider) (target : Hertz) :
    (target.setWidth 64 * d.divisor.setWidth 64).toNat = target.toNat * d.divisor.toNat := by
  rw [BitVec.toNat_mul, toNat_setWidth_64, toNat_setWidth_64, Nat.mod_eq_of_lt (d.product_lt target)]

theorem umulOverflow_product (d : Divider) (target : Hertz) :
    (target.setWidth 64).umulOverflow (d.divisor.setWidth 64) = false := by
  rw [BitVec.umulOverflow, toNat_setWidth_64, toNat_setWidth_64, decide_eq_false_iff_not]
  exact Nat.not_le.2 (d.product_lt target)

theorem keepsWithin_iff (d : Divider) :
    d.keepsWithin clock target = true ↔ clock.toNat ≤ target.toNat * d.divisor.toNat := by
  rw [keepsWithin, decide_eq_true_iff, BitVec.le_def, toNat_setWidth_64, toNat_product]

/-- A divider that keeps the exact rate within the target does so with the rounded one. -/
theorem output_le (d : Divider) (h : clock.toNat ≤ target.toNat * d.divisor.toNat) :
    d.output clock ≤ target := by
  rw [output, BitVec.le_def, BitVec.toNat_udiv]
  apply Nat.div_le_of_le_mul
  rw [Nat.mul_comm]
  exact h

/-! ## The search -/

/-- The dividers stand in increasing order. -/
theorem divisors_increase :
    (Labelled.all : List Divider).Pairwise fun d e => d.divisor < e.divisor := by
  decide

/-- The search finds the divider that keeps within the target while no smaller one does. -/
theorem fastestWithin?_eq_some_iff (d : Divider) :
    fastestWithin? clock target = some d ↔
      d.keepsWithin clock target = true ∧
        ∀ e : Divider, e.divisor < d.divisor → e.keepsWithin clock target = false := by
  rw [fastestWithin?, List.find?_eq_some_iff_append]
  refine and_congr_right fun _ => ?_
  constructor
  · rintro ⟨before, after, hall, hbefore⟩ e he
    have hincrease := divisors_increase
    rw [hall, List.pairwise_append, List.pairwise_cons] at hincrease
    -- a smaller divider stands before `d`
    have hmem : e ∈ before := by
      have he_all := Labelled.mem_all e
      rw [hall] at he_all
      rcases List.mem_append.1 he_all with hmem | hmem
      · exact hmem
      · rcases List.mem_cons.1 hmem with rfl | hmem
        · exact absurd he (BitVec.lt_irrefl _)
        · exact absurd he (BitVec.lt_asymm (hincrease.2.1.1 e hmem))
    rw [← Bool.not_eq_true']
    exact hbefore e hmem
  · intro hsmaller
    obtain ⟨before, after, hall⟩ := List.append_of_mem (Labelled.mem_all d)
    have hincrease := divisors_increase
    rw [hall, List.pairwise_append] at hincrease
    refine ⟨before, after, hall, fun e he => ?_⟩
    rw [hsmaller e (hincrease.2.2 e he d List.mem_cons_self)]
    rfl

/-- The search fails when the largest divisor does not keep within the target. -/
theorem fastestWithin?_eq_none_iff :
    fastestWithin? clock target = none ↔ 256 * target.toNat < clock.toNat := by
  rw [fastestWithin?, List.find?_eq_none]
  have hlargest : Divider.div256.divisor.toNat = 256 := rfl
  constructor
  · intro h
    have hnot := h .div256 (Labelled.mem_all _)
    rw [keepsWithin_iff, hlargest, Nat.mul_comm] at hnot
    exact Nat.lt_of_not_le hnot
  · intro h d _
    rw [keepsWithin_iff]
    have hdivisor : target.toNat * d.divisor.toNat ≤ target.toNat * 256 :=
      Nat.mul_le_mul_left _ d.toNat_divisor_le
    omega

/-- The choice of a divider, for every clock and target. A divider is chosen when its divisor is the
smallest one that keeps the clock within the target, and none when even 256 does not. No product in
the comparison outgrows its 64 bits, and the rate that the chosen divider gives does not exceed the
target. A clock that stands still takes the smallest divider, and no running clock keeps within
zero. -/
theorem fastestWithin?_exact (clock target : Hertz) :
    (∀ d : Divider, fastestWithin? clock target = some d ↔
      clock.toNat ≤ target.toNat * d.divisor.toNat ∧
        ∀ e : Divider, e.divisor < d.divisor → target.toNat * e.divisor.toNat < clock.toNat) ∧
    (fastestWithin? clock target = none ↔ 256 * target.toNat < clock.toNat) ∧
    (∀ d : Divider, (target.setWidth 64).umulOverflow (d.divisor.setWidth 64) = false) ∧
    (∀ d : Divider, fastestWithin? clock target = some d → d.output clock ≤ target) ∧
    fastestWithin? 0 target = some .div2 ∧
    (0 < clock → fastestWithin? clock 0 = none) := by
  have hsome (clock target : Hertz) (d : Divider) : fastestWithin? clock target = some d ↔
      clock.toNat ≤ target.toNat * d.divisor.toNat ∧
        ∀ e : Divider, e.divisor < d.divisor → target.toNat * e.divisor.toNat < clock.toNat := by
    rw [fastestWithin?_eq_some_iff, keepsWithin_iff]
    simp only [← Bool.not_eq_true, keepsWithin_iff, Nat.not_le]
  refine ⟨hsome clock target, fastestWithin?_eq_none_iff, fun d => d.umulOverflow_product target,
    ?_, ?_, ?_⟩
  · intro d h
    exact d.output_le ((hsome clock target d).1 h).1
  · rw [hsome]
    refine ⟨Nat.zero_le _, fun e he => ?_⟩
    -- 2 is the smallest divisor
    cases e <;> exact absurd he (by decide)
  · intro h
    rw [fastestWithin?_eq_none_iff]
    exact h

/-- At the fastest clock, the slowest divider is chosen for a target that it just keeps within, and
none for the target below. -/
theorem slowest_divider_at_boundary :
    fastestWithin? 0xffffffff 0x1000000 = some .div256 ∧
      Divider.div256.output 0xffffffff ≤ 0x1000000 ∧
      fastestWithin? 0xffffffff 0xffffff = none := by
  obtain ⟨-, -, -, houtput, -⟩ := fastestWithin?_exact 0xffffffff 0x1000000
  have hchosen : fastestWithin? 0xffffffff 0x1000000 = some .div256 := by decide
  exact ⟨hchosen, houtput _ hchosen, (fastestWithin?_exact 0xffffffff 0xffffff).2.1.2 (by decide)⟩

/-! ## Choices compared -/

/-- The divider found is at most as large as any one that keeps within the target. -/
theorem fastestWithin?_le_of_keepsWithin {d : Divider} (h : d.keepsWithin clock target = true) :
    ∃ e : Divider, fastestWithin? clock target = some e ∧ e.divisor ≤ d.divisor := by
  cases hchosen : fastestWithin? clock target with
  | none =>
      rw [fastestWithin?, List.find?_eq_none] at hchosen
      exact absurd h (hchosen d (Labelled.mem_all d))
  | some e =>
      refine ⟨e, rfl, ?_⟩
      rw [← BitVec.not_lt]
      intro hlt
      -- a smaller divider would have been found first
      have hnot := ((fastestWithin?_eq_some_iff e).1 hchosen).2 d hlt
      exact Bool.false_ne_true (hnot.symm.trans h)

/-- A larger target and a slower clock take a divider that is at most as large. -/
theorem fastestWithin?_monotone {clock' target' : Hertz} {d : Divider} (hclock : clock' ≤ clock)
    (htarget : target ≤ target') (h : fastestWithin? clock target = some d) :
    ∃ e : Divider, fastestWithin? clock' target' = some e ∧ e.divisor ≤ d.divisor := by
  have hkeeps := ((fastestWithin?_eq_some_iff d).1 h).1
  rw [keepsWithin_iff] at hkeeps
  rw [BitVec.le_def] at hclock htarget
  apply fastestWithin?_le_of_keepsWithin
  rw [keepsWithin_iff]
  calc clock'.toNat
      ≤ clock.toNat := hclock
    _ ≤ target.toNat * d.divisor.toNat := hkeeps
    _ ≤ target'.toNat * d.divisor.toNat := Nat.mul_le_mul_right _ htarget

/-! ## The rate of a divider as the target -/

/-- A divider keeps within its own rate when nothing was rounded off. -/
theorem keepsWithin_output_iff (d : Divider) :
    d.keepsWithin clock (d.output clock) = true ↔ d.divisor.toNat ∣ clock.toNat := by
  rw [keepsWithin_iff, output, BitVec.toNat_udiv, Nat.dvd_iff_div_mul_eq]
  constructor
  · intro h
    exact Nat.le_antisymm (Nat.div_mul_le_self _ _) h
  · intro h
    exact Nat.le_of_eq h.symm

/-- Of a running clock, no smaller divider keeps within the rate of one that divides it. -/
theorem keepsWithin_output_of_lt {d e : Divider} (hdvd : d.divisor.toNat ∣ clock.toNat)
    (hclock : 0 < clock) (hlt : e.divisor < d.divisor) :
    e.keepsWithin clock (d.output clock) = false := by
  rw [BitVec.lt_def] at hclock hlt
  have hrate : 0 < clock.toNat / d.divisor.toNat :=
    Nat.div_pos (Nat.le_of_dvd hclock hdvd) (Nat.zero_lt_of_lt hlt)
  rw [← Bool.not_eq_true, keepsWithin_iff, Nat.not_le, output, BitVec.toNat_udiv]
  calc clock.toNat / d.divisor.toNat * e.divisor.toNat
      < clock.toNat / d.divisor.toNat * d.divisor.toNat := Nat.mul_lt_mul_of_pos_left hlt hrate
    _ = clock.toNat := Nat.div_mul_cancel hdvd

theorem fastestWithin?_output_iff (d : Divider) :
    fastestWithin? clock (d.output clock) = some d ↔
      d.divisor.toNat ∣ clock.toNat ∧ (0 < clock ∨ d = .div2) := by
  rw [fastestWithin?_eq_some_iff, keepsWithin_output_iff]
  refine and_congr_right fun hdvd => ?_
  constructor
  · intro hsmaller
    by_cases hclock : 0 < clock
    · exact .inl hclock
    -- a clock that stands still is kept within any target by the smallest divider
    · right
      have hzero : clock.toNat = 0 := Nat.eq_zero_of_not_pos hclock
      have hkeeps : Divider.div2.keepsWithin clock (d.output clock) = true := by
        rw [keepsWithin_iff, hzero]
        exact Nat.zero_le _
      have hnot : ¬ Divider.div2.divisor < d.divisor := by
        intro hlt
        rw [hsmaller .div2 hlt] at hkeeps
        cases hkeeps
      cases d with
      | div2 => rfl
      | _ => exact absurd (by decide) hnot
  · rintro (hclock | rfl) e hlt
    · exact keepsWithin_output_of_lt hdvd hclock hlt
    -- 2 is the smallest divisor
    · cases e <;> exact absurd hlt (by decide)

/-- The choice of a divider follows the clock and the target. With a larger target a divider is
still found, and it is no larger than before; so it is with a slower clock. The rate that a divider
gives, as the target, leads back to that divider exactly when it divides the clock, apart from the
clock that stands still, for which the smallest divider is chosen. -/
theorem choice_monotone_and_inverse :
    (∀ (clock target target' : Hertz) (d : Divider),
      fastestWithin? clock target = some d → target ≤ target' →
        ∃ e : Divider, fastestWithin? clock target' = some e ∧ e.divisor ≤ d.divisor) ∧
    (∀ (clock clock' target : Hertz) (d : Divider),
      fastestWithin? clock target = some d → clock' ≤ clock →
        ∃ e : Divider, fastestWithin? clock' target = some e ∧ e.divisor ≤ d.divisor) ∧
    ∀ (clock : Hertz) (d : Divider), fastestWithin? clock (d.output clock) = some d ↔
      d.divisor.toNat ∣ clock.toNat ∧ (0 < clock ∨ d = .div2) := by
  refine ⟨?_, ?_, fun clock d => fastestWithin?_output_iff d⟩
  · intro clock target target' d h htarget
    exact fastestWithin?_monotone (BitVec.le_refl clock) htarget h
  · intro clock clock' target d h hclock
    exact fastestWithin?_monotone hclock (BitVec.le_refl target) h

/-- At 72 MHz the divider of a target of 1 MHz is no larger at 9 MHz, and neither is that of a clock
of 36 MHz. The rate of divider 16 leads back to it, but not when the clock is 1 Hz faster. -/
theorem choices_at_72_megahertz :
    fastestWithin? 72000000 1000000 = some .div128 ∧
      (∃ e : Divider, fastestWithin? 72000000 9000000 = some e ∧
        e.divisor ≤ Divider.div128.divisor) ∧
      (∃ e : Divider, fastestWithin? 36000000 1000000 = some e ∧
        e.divisor ≤ Divider.div128.divisor) ∧
      fastestWithin? 72000000 (Divider.div16.output 72000000) = some .div16 ∧
      fastestWithin? 72000001 (Divider.div16.output 72000001) ≠ some .div16 := by
  obtain ⟨htarget, hclock, hinverse⟩ := choice_monotone_and_inverse
  have hchosen : fastestWithin? 72000000 1000000 = some .div128 := by decide
  refine ⟨hchosen, htarget _ _ _ _ hchosen (by decide), hclock _ _ _ _ hchosen (by decide),
    (hinverse _ _).2 (by decide), fun h => ?_⟩
  exact absurd ((hinverse _ _).1 h).1 (by decide)

end SpiController.Divider
