import Mathlib.Algebra.BigOperators.Group.List.Basic
import Mathlib.Algebra.GroupWithZero.Nat
import SpiController.Proofs.Simulator.Effect

/-!
# Time in slices

It does not matter in how many runs of the clock the cycles pass: as long as the count fits its 32
bits, several runs one after the other leave the state that one run for all their cycles leaves
(`clock_slices`).

A run that fits is an `advance`, in which the cycles are counted without bound
(`clock_eq_advance`). Advancing twice is advancing once (`advance_advance`): the frame ends in the
slice in which the whole of the time would end it, and nothing is left for the cycles after that.
-/

namespace SpiController.Simulator

variable {s : Simulator}

/-! ## Advancing without bound -/

/-- The state after some cycles of the clock, with no bound on their count. -/
def advance (s : Simulator) (cycles : Nat) : Simulator :=
  match s.enabled, s.inFlight with
  | true, some word =>
      if s.elapsed.toNat + cycles < s.frameLength.cycles.toNat then
        { s with elapsed := BitVec.ofNat 32 (s.elapsed.toNat + cycles) }
      else
        s.complete word
  | _, _ => s

theorem advance_of_idle (h : s.enabled = false ∨ s.inFlight = none) (cycles : Nat) :
    s.advance cycles = s := by
  rcases h with h | h
  · simp [advance, h]
  · simp [advance, h]

theorem advance_of_lt {word : Word} {cycles : Nat} (henabled : s.enabled = true)
    (hword : s.inFlight = some word)
    (h : s.elapsed.toNat + cycles < s.frameLength.cycles.toNat) :
    s.advance cycles = { s with elapsed := BitVec.ofNat 32 (s.elapsed.toNat + cycles) } := by
  simp [advance, henabled, hword, h]

theorem advance_of_le {word : Word} {cycles : Nat} (henabled : s.enabled = true)
    (hword : s.inFlight = some word)
    (h : s.frameLength.cycles.toNat ≤ s.elapsed.toNat + cycles) :
    s.advance cycles = s.complete word := by
  simp [advance, henabled, hword, Nat.not_lt.2 h]

/-- A run of the clock whose count fits is an advance. -/
theorem clock_eq_advance {cycles : BitVec 32} (h : s.elapsed.toNat + cycles.toNat < 2 ^ 32) :
    s.clock cycles = .ok (s.advance cycles.toNat) := by
  cases hclock : s.clock cycles with
  | error fault =>
      obtain ⟨-, -, -, hoverflow⟩ := (s.clock_eq_error_iff_le cycles fault).1 hclock
      exact absurd h (Nat.not_lt.2 hoverflow)
  | ok after =>
      congr 1
      rcases s.clock_cases hclock with ⟨rfl, hidle⟩ | ⟨word, hticks, hlt, rfl⟩ |
        ⟨word, hticks, hge, rfl⟩
      · exact (advance_of_idle hidle _).symm
      · rw [BitVec.lt_def, hticks.toNat_add] at hlt
        rw [advance_of_lt hticks.1 hticks.2.1 hlt, ← hticks.toNat_add, BitVec.ofNat_toNat,
          BitVec.setWidth_eq]
      · rw [BitVec.le_def, hticks.toNat_add] at hge
        rw [advance_of_le hticks.1 hticks.2.1 hge]

/-- An unfinished frame has seen few cycles, so that their count fits. -/
theorem toNat_count_of_lt {count : Nat} (h : count < s.frameLength.cycles.toNat) :
    (BitVec.ofNat 32 count).toNat = count := by
  have hframe := s.frameLength.cycles_le
  rw [BitVec.toNat_ofNat, Nat.mod_eq_of_lt (by omega)]

/-- An advance adds at most its own cycles to the count. -/
theorem elapsed_advance_le (s : Simulator) (cycles : Nat) :
    (s.advance cycles).elapsed.toNat ≤ s.elapsed.toNat + cycles := by
  by_cases hidle : s.enabled = false ∨ s.inFlight = none
  · rw [advance_of_idle hidle]
    exact Nat.le_add_right _ _
  · rw [not_or, Bool.not_eq_false] at hidle
    obtain ⟨henabled, hflying⟩ := hidle
    obtain ⟨word, hword⟩ := Option.ne_none_iff_exists'.1 hflying
    by_cases hlt : s.elapsed.toNat + cycles < s.frameLength.cycles.toNat
    · rw [advance_of_lt henabled hword hlt]
      exact Nat.le_of_eq (toNat_count_of_lt hlt)
    · rw [advance_of_le henabled hword (Nat.not_lt.1 hlt), complete_eq]
      exact Nat.zero_le _

/-- The cycles seen so far count like those to come. -/
theorem advance_of_count {word : Word} {count : BitVec 32} {first : Nat} (henabled : s.enabled = true)
    (hword : s.inFlight = some word) (h : count.toNat = s.elapsed.toNat + first) (second : Nat) :
    ({ s with elapsed := count } : Simulator).advance second = s.advance (first + second) := by
  have hsum : count.toNat + second = s.elapsed.toNat + (first + second) := by omega
  by_cases hlt : s.elapsed.toNat + (first + second) < s.frameLength.cycles.toNat
  · have hcount := advance_of_lt (s := { s with elapsed := count })
      henabled hword (hsum ▸ hlt)
    rw [hcount, advance_of_lt henabled hword hlt, hsum]
  · have hcount := advance_of_le (s := { s with elapsed := count })
      henabled hword (hsum ▸ Nat.not_lt.1 hlt)
    rw [hcount, advance_of_le henabled hword (Nat.not_lt.1 hlt)]
    rfl

/-- Advancing twice is advancing once for the sum of the cycles. -/
theorem advance_advance (s : Simulator) (first second : Nat) :
    (s.advance first).advance second = s.advance (first + second) := by
  by_cases hidle : s.enabled = false ∨ s.inFlight = none
  · rw [advance_of_idle hidle, advance_of_idle hidle, advance_of_idle hidle]
  · rw [not_or, Bool.not_eq_false] at hidle
    obtain ⟨henabled, hflying⟩ := hidle
    obtain ⟨word, hword⟩ := Option.ne_none_iff_exists'.1 hflying
    by_cases hfirst : s.elapsed.toNat + first < s.frameLength.cycles.toNat
    · rw [advance_of_lt henabled hword hfirst]
      exact advance_of_count henabled hword (toNat_count_of_lt hfirst) second
    -- the frame is over after the first part, and there is no word for the second
    · have hboth : s.frameLength.cycles.toNat ≤ s.elapsed.toNat + (first + second) := by omega
      rw [advance_of_le henabled hword (Nat.not_lt.1 hfirst), advance_of_le henabled hword hboth]
      exact advance_of_idle (.inr (s.inFlight_complete word)) second

/-! ## Runs of the clock -/

/-- Runs of the clock whose cycles fit the count are one advance. -/
theorem foldlM_clock {runs : List (BitVec 32)} (hruns : runs ≠ [])
    (hfits : s.elapsed.toNat + (runs.map BitVec.toNat).sum < 2 ^ 32) :
    runs.foldlM clock s = .ok (s.advance (runs.map BitVec.toNat).sum) := by
  induction runs generalizing s with
  | nil => exact absurd rfl hruns
  | cons cycles rest ih =>
      rw [List.map_cons, List.sum_cons] at hfits ⊢
      rw [List.foldlM_cons, clock_eq_advance (by omega)]
      change rest.foldlM clock (s.advance cycles.toNat) = _
      by_cases hrest : rest = []
      · subst hrest
        rfl
      · have hcount := s.elapsed_advance_le cycles.toNat
        rw [ih hrest (by omega), advance_advance]

/-- Time passes alike in one run of the clock and in several runs with the same cycles in all, from
any state on, as long as the count fits. No run faults, and the states at the end are the same in
every part. -/
theorem clock_slices (s : Simulator) (runs : List (BitVec 32)) (hruns : runs ≠ [])
    (hfits : s.elapsed.toNat + (runs.map BitVec.toNat).sum ≤ 2 ^ 32 - 1) :
    ∃ after, runs.foldlM clock s = .ok after ∧
      s.clock (BitVec.ofNat 32 (runs.map BitVec.toNat).sum) = .ok after := by
  have hsum : (BitVec.ofNat 32 (runs.map BitVec.toNat).sum).toNat =
      (runs.map BitVec.toNat).sum := by
    rw [BitVec.toNat_ofNat, Nat.mod_eq_of_lt (by omega)]
  refine ⟨s.advance (runs.map BitVec.toNat).sum, foldlM_clock hruns (by omega), ?_⟩
  rw [clock_eq_advance (by omega), hsum]

/-- A frame that was shortened after twelve cycles ends at once, in the first of three slices and in
the whole alike, and its word is lost to the one that waits. -/
theorem slices_of_shortened_frame :
    let s : Simulator := { initial with
      control1 := 0x1040
      status := StatusFlag.rxNotEmpty.mask
      inFlight := some 0x1a5
      elapsed := 12 }
    let runs : List (BitVec 32) := [0, 3, 5]
    runs ≠ [] ∧ s.elapsed.toNat + (runs.map BitVec.toNat).sum ≤ 2 ^ 32 - 1 ∧
      runs.foldlM clock s = .ok (s.complete 0x1a5) ∧ s.clock 8 = .ok (s.complete 0x1a5) ∧
      (s.complete 0x1a5).flag .overrun = true := by
  intro s runs
  have hruns : runs ≠ [] := by decide
  have hfits : s.elapsed.toNat + (runs.map BitVec.toNat).sum ≤ 2 ^ 32 - 1 := by decide
  have hwhole : s.clock 8 = .ok (s.complete 0x1a5) := by decide
  obtain ⟨after, hslices, hone⟩ := clock_slices s runs hruns hfits
  obtain rfl : after = s.complete 0x1a5 := Except.ok.inj (hone.symm.trans hwhole)
  exact ⟨hruns, hfits, hslices, hwhole, by decide⟩

end SpiController.Simulator
