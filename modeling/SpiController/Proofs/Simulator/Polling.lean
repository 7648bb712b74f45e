import SpiController.Proofs.PlainRegister
import SpiController.Proofs.Refusal

/-!
# Polling a register

A read of the status or of the data register has side effects, and yet it does not matter how often
it is repeated: what a first read finds to do, a second one does not find again
(`settled_afterStatusRead`, `afterDataRead_afterDataRead`). So a loop that polls a register leaves
what one read leaves, and sees one word from the second read on (`run_poll_succ`, `polls`). This
holds in every state, also in one whose flags and latches no run leaves together.
-/

namespace SpiController

namespace Program

/-- Read a register some number of times in a row, and give the words read. -/
def poll (address : Address) : Nat → Program (List Word)
  | 0 => pure []
  | n + 1 => do
      let value ← readRegister address
      let rest ← poll address n
      return value :: rest

variable {σ : Type} [Device σ]

/-- A poll is one read, and then a poll of what it leaves. -/
theorem run_poll_succ (address : Address) (n : Nat) (s : σ) :
    (poll address (n + 1)).run s =
      let first := Device.read s address
      let rest := (poll address n).run first.2
      ⟨first.1 :: rest.result, rest.state, .read address first.1 :: rest.accesses,
        rest.signals⟩ := by
  simp [poll]

/-- A register whose read changes nothing gives out one word all the time. -/
theorem run_poll_of_quiet {address : Address} {s : σ} (h : (Device.read s address).2 = s)
    (n : Nat) :
    (poll address n).run s =
      ⟨List.replicate n (Device.read s address).1, s,
        List.replicate n (.read address (Device.read s address).1), []⟩ := by
  induction n with
  | zero => rfl
  | succ n ih => simp only [run_poll_succ, h, ih, List.replicate_succ]

end Program

namespace Simulator

variable (s : Simulator)

/-! ## The status register -/

/-- A status read clears the underrun in the status register, and the overrun if the data register
was read before. -/
theorem status_afterStatusRead :
    s.afterStatusRead.status =
      s.status &&& ~~~(if s.overrunDataRead then StatusFlag.overrun.mask else 0) &&&
        ~~~StatusFlag.underrun.mask := by
  have hsettle : s.settleOverrun.status =
      s.status &&& ~~~(if s.overrunDataRead then StatusFlag.overrun.mask else 0) := by
    rw [settleOverrun]
    cases s.overrunDataRead with
    | false =>
        simp only [Bool.and_false, Bool.false_eq_true, if_false]
        exact BitVec.and_allOnes.symm
    | true =>
        -- to clear the flag when it is not set changes nothing
        cases hflag : s.flag .overrun with
        | true => rfl
        | false => exact (congrArg (·.status) (lower_of_not_flag hflag)).symm
  have hnote : s.settleOverrun.noteModeFault.status = s.settleOverrun.status := by
    rw [noteModeFault_eq]
  rw [afterStatusRead, lower, hnote, hsettle]

/-- A status read leaves nothing to do for another one. -/
theorem settled_afterStatusRead : s.afterStatusRead.Settled where
  underrun := by simp [flag_afterStatusRead]
  overrun := by
    rw [flag_afterStatusRead, afterStatusRead_eq]
    cases s.overrunDataRead with
    | false => exact .inr rfl
    | true => exact .inl (by simp)
  modeFault := by
    have hflag : s.afterStatusRead.flag .modeFault = s.flag .modeFault := by
      rw [flag_afterStatusRead]
      exact (Bool.and_true _).trans (Bool.and_true _)
    rw [hflag, afterStatusRead_eq]
    cases s.flag .modeFault with
    | false => exact .inl rfl
    | true => exact .inr (Bool.or_true _)

/-! ## The data register -/

/-- Once the receive buffer is empty, and an overrun noted, a data read finds nothing to do. -/
theorem afterDataRead_afterDataRead : s.afterDataRead.afterDataRead = s.afterDataRead := by
  have hempty : s.afterDataRead.flag .rxNotEmpty = false := by simp [flag_afterDataRead]
  have hflag : s.afterDataRead.flag .overrun = s.flag .overrun := by simp [flag_afterDataRead]
  have hlatch : s.afterDataRead.overrunDataRead = (s.overrunDataRead || s.flag .overrun) := by
    rw [afterDataRead_eq]
  have hnoted : (s.afterDataRead.overrunDataRead || s.afterDataRead.flag .overrun) =
      s.afterDataRead.overrunDataRead := by
    rw [hflag, hlatch, Bool.or_assoc, Bool.or_self]
  rw [s.afterDataRead.afterDataRead_eq, lower_of_not_flag hempty, hnoted]

/-! ## All registers -/

/-- To read a register again changes nothing. -/
theorem afterRead_afterRead (address : Address) :
    (s.afterRead address).afterRead address = s.afterRead address := by
  cases address with
  | status => exact s.settled_afterStatusRead.afterStatusRead_eq_self
  | data => exact s.afterDataRead_afterDataRead
  | control1 | control2 | crcPolynomial | rxCrc | txCrc => rfl

/-- A poll leaves what its first read leaves, and sees one word from the second read on. -/
theorem run_poll (address : Address) (n : Nat) :
    (Program.poll address (n + 1)).run s =
      ⟨s.peek address :: List.replicate n ((s.afterRead address).peek address),
        s.afterRead address,
        .read address (s.peek address) ::
          List.replicate n (.read address ((s.afterRead address).peek address)), []⟩ := by
  have hrest := Program.run_poll_of_quiet (s.afterRead_afterRead address) n
  rw [Program.run_poll_succ]
  simp only [device_read, hrest]

/-- Polls from any state on, whatever its flags and latches are. Polling the status register any
number of times leaves the state that one read leaves, and from the second read on it shows the
first word without the underrun, and without the overrun if the data register was read before.
Polling the data register leaves the state that one read leaves and shows one word. A read of
another register changes nothing. Every read that a program makes shows the word that the register
held just before. -/
theorem polls (s : Simulator) :
    (∀ n, let run := (Program.poll .status (n + 1)).run s
      let settled := s.peek .status &&&
        ~~~(if s.overrunDataRead then StatusFlag.overrun.mask else 0) &&&
          ~~~StatusFlag.underrun.mask
      run.state = ((Program.readRegister .status).run s).state ∧
        run.result = s.peek .status :: List.replicate n settled) ∧
    (∀ n, let run := (Program.poll .data (n + 1)).run s
      run.state = ((Program.readRegister .data).run s).state ∧
        run.result = List.replicate (n + 1) (s.peek .data)) ∧
    (∀ address : Address, address ≠ .status → address ≠ .data →
      ((Program.readRegister address).run s).state = s) ∧
    ∀ {α : Type} (p : Program α) (earlier later : List Access) (address : Address) (value : Word),
      (p.run s).accesses = earlier ++ .read address value :: later →
        value = (earlier.foldl Access.apply s).peek address := by
  refine ⟨?_, ?_, ?_, ?_⟩
  · intro n run settled
    have hrun : run = _ := s.run_poll .status n
    have hsettled : (s.afterRead .status).peek .status = settled := s.status_afterStatusRead
    rw [hrun, hsettled]
    exact ⟨rfl, rfl⟩
  · intro n run
    have hrun : run = _ := s.run_poll .data n
    have hword : (s.afterRead .data).peek .data = s.peek .data := by
      rw [afterRead_eq]
      rfl
    rw [hrun, hword]
    exact ⟨rfl, rfl⟩
  · intro address hstatus hdata
    exact s.afterRead_of_plain ⟨hstatus, hdata⟩
  · intro α p earlier later address value h
    exact p.eq_of_accesses_eq_append h

/-- All four errors are raised, and the data register was read since the overrun: the second of four
polls shows two errors less than the first, and nothing changes after that. A word that is received
past the errors is the one that waited. -/
theorem polls_of_four_errors :
    let s : Simulator := { initial with status := 0x007b, data := 0x42, overrunDataRead := true }
    let run := (Program.poll .status 4).run s
    let received := (Port.readStatusFlag .busy >>= fun _ => Port.receive).run s
    run.result = [0x007b, 0x0033, 0x0033, 0x0033] ∧
      run.state = { s with
        status := 0x0033, overrunDataRead := false, modeFaultStatusRead := true } ∧
      ((Program.poll .data 2).run s).result = [0x42, 0x42] ∧
      ((Program.readRegister .control1).run s).state = s ∧
      received.accesses = [.read .status 0x007b, .read .data 0x42] ∧
      0x42 = ([Access.read .status 0x007b].foldl Access.apply s).peek .data := by
  intro s run received
  obtain ⟨hstatus, hdata, hother, hread⟩ := polls s
  have haccesses : received.accesses = [.read .status 0x007b, .read .data 0x42] := by decide
  exact ⟨(hstatus 3).2.trans (by decide), (hstatus 3).1.trans (by decide), (hdata 1).2,
    hother .control1 (by decide) (by decide), haccesses, hread _ [_] [] .data 0x42 haccesses⟩

end Simulator

end SpiController
