import SpiController.Port.Operation

/-!
# The accesses of a program

A program acts on a device through its accesses alone (`Program.state_run`). Where two devices give
out the same words, it does the same on both (`Indistinct.run`).
-/

namespace SpiController

/-- What an access does to a device. -/
def Access.apply {σ : Type} [Device σ] (s : σ) : Access → σ
  | .read address _ => (Device.read s address).2
  | .write address value => Device.write s address value

namespace Program

variable {σ α β : Type}

/-- A program leaves a device as its accesses do, one after the other. -/
theorem state_run [Device σ] (p : Program α) (s : σ) :
    (p.run s).state = (p.run s).accesses.foldl Access.apply s := by
  induction p generalizing s with
  | done result => rfl
  | read address next ih => exact ih _ _
  | write address value next ih => exact ih _
  | signal request next ih => exact ih s

/-- Every word that a program reads is the one that the device, as the accesses so far have left it,
gives out then. -/
theorem eq_of_accesses_eq_append [Device σ] (p : Program α) {s : σ} {earlier later : List Access}
    {address : Address} {value : Word}
    (h : (p.run s).accesses = earlier ++ .read address value :: later) :
    value = (Device.read (earlier.foldl Access.apply s) address).1 := by
  induction p generalizing s earlier with
  | done result => simp [run] at h
  | read place next ih =>
      cases earlier with
      | nil =>
          simp only [run, List.nil_append, List.cons.injEq, Access.read.injEq] at h
          obtain ⟨⟨rfl, rfl⟩, -⟩ := h
          rfl
      | cons first earlier =>
          simp only [run, List.cons_append, List.cons.injEq] at h
          obtain ⟨rfl, h⟩ := h
          have hvalue := ih _ h
          exact hvalue
  | write place stored next ih =>
      cases earlier with
      | nil => simp [run] at h
      | cons first earlier =>
          simp only [run, List.cons_append, List.cons.injEq] at h
          obtain ⟨rfl, h⟩ := h
          have hvalue := ih h
          exact hvalue
  | signal request next ih => exact ih h

/-- A program whose result is changed runs as before. -/
@[simp]
theorem run_map [Device σ] (change : α → β) (p : Program α) (s : σ) :
    (change <$> p).run s =
      ⟨change (p.run s).result, (p.run s).state, (p.run s).accesses, (p.run s).signals⟩ := by
  rw [map_eq_pure_bind, run_bind]
  simp

/-! ## Two devices -/

section Indistinct

variable {τ : Type} [Device σ] [Device τ]

/-- States that are related give out the same words, and are related again after the same
accesses. -/
structure Indistinct (Related : σ → τ → Prop) : Prop where
  word : ∀ {s t}, Related s t → ∀ address, (Device.read s address).1 = (Device.read t address).1
  read : ∀ {s t}, Related s t → ∀ address,
    Related (Device.read s address).2 (Device.read t address).2
  write : ∀ {s t}, Related s t → ∀ address value,
    Related (Device.write s address value) (Device.write t address value)

/-- The two runs differ in nothing but their states, which are related. -/
structure Matches (Related : σ → τ → Prop) (first : Run σ α) (second : Run τ α) : Prop where
  result : first.result = second.result
  accesses : first.accesses = second.accesses
  signals : first.signals = second.signals
  state : Related first.state second.state

/-- A program does the same on two devices that are indistinct. -/
theorem Indistinct.run {Related : σ → τ → Prop} (hrelated : Indistinct Related) (p : Program α)
    {s : σ} {t : τ} (h : Related s t) : Matches Related (p.run s) (p.run t) := by
  induction p generalizing s t with
  | done result => exact ⟨rfl, rfl, rfl, h⟩
  | read address next ih =>
      -- the program goes on alike, since it has read the same word
      have hnext := ih (Device.read s address).1 (hrelated.read h address)
      rw [hrelated.word h address] at hnext
      simp only [Program.run, hrelated.word h address]
      exact ⟨hnext.result, congrArg _ hnext.accesses, hnext.signals, hnext.state⟩
  | write address value next ih =>
      have hnext := ih (hrelated.write h address value)
      exact ⟨hnext.result, congrArg _ hnext.accesses, hnext.signals, hnext.state⟩
  | signal request next ih =>
      have hnext := ih h
      exact ⟨hnext.result, hnext.accesses, congrArg _ hnext.signals, hnext.state⟩

end Indistinct

end Program

end SpiController
