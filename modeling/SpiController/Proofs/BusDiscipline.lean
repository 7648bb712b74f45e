import SpiController.Proofs.BusTraffic

/-!
# Bus discipline

Reads of the status and the data register have side effects, so a stray one loses a flag or a word.
`Disciplined` says for every operation how often it accesses these two registers, what it writes to
them, and how it changes the control registers. All of this is counted off its moves
(`Performs.countP_reads`, `Performs.filterMap_written?`, `Performs.modified`), and so it holds on
every device (`bus_discipline`).
-/

namespace SpiController

/-! ## Counting reads and collecting writes -/

/-- The access reads the register. -/
def Access.reads (address : Address) : Access → Bool
  | .read register _ => register == address
  | .write _ _ => false

/-- The word that the access writes to the register. -/
def Access.written? (address : Address) : Access → Option Word
  | .read _ _ => none
  | .write register value => if register = address then some value else none

/-- The move has a read of the register. -/
def Move.reads (address : Address) : Move → Bool
  | .read register | .modify register => register == address
  | .write _ _ => false

/-- The word that the move is to write to the register. -/
def Move.written? (address : Address) : Move → Option Word
  | .write register value => if register = address then some value else none
  | .read _ | .modify _ => none

/-- A write of the new word after these accesses directly follows a read of the register, and
changes bits of the mask only. -/
def FollowsRead (address : Address) (mask : Word) (earlier : List Access) (new : Word) : Prop :=
  ∃ before old, earlier = before ++ [.read address old] ∧ AgreeOutside mask old new

theorem FollowsRead.cons {address : Address} {mask new : Word} {earlier : List Access}
    (h : FollowsRead address mask earlier new) (access : Access) :
    FollowsRead address mask (access :: earlier) new := by
  obtain ⟨before, old, rfl, hagree⟩ := h
  exact ⟨access :: before, old, rfl, hagree⟩

namespace Performs

variable {own : Address → Word} {moves : List Move} {accesses : List Access} {address : Address}

/-- Each read on the bus belongs to one move. -/
theorem countP_reads (h : Performs own moves accesses) :
    accesses.countP (Access.reads address) = moves.countP (Move.reads address) := by
  induction h with
  | nil => rfl
  | read register value _ ih => simp [List.countP_cons, Access.reads, Move.reads, ih]
  | write register value _ ih => simp [Access.reads, Move.reads, ih]
  | modify _ _ ih => simp [List.countP_cons, Access.reads, Move.reads, ih]

/-- The words written to a register that is not modified are those of the moves. -/
theorem filterMap_written? (h : Performs own moves accesses) (hmodify : .modify address ∉ moves) :
    accesses.filterMap (Access.written? address) = moves.filterMap (Move.written? address) := by
  induction h with
  | nil => rfl
  | read register value _ ih =>
      have ih := ih (fun hmem => hmodify (List.mem_cons_of_mem _ hmem))
      simpa [List.filterMap_cons, Access.written?, Move.written?] using ih
  | write register value _ ih =>
      have ih := ih (fun hmem => hmodify (List.mem_cons_of_mem _ hmem))
      simp only [List.filterMap_cons, Access.written?, Move.written?, ih]
  | @modify _ _ register _ _ _ _ ih =>
      have ih := ih (fun hmem => hmodify (List.mem_cons_of_mem _ hmem))
      have hne : register ≠ address := by
        rintro rfl
        exact hmodify List.mem_cons_self
      simpa [List.filterMap_cons, Access.written?, Move.written?, hne] using ih

/-- A write of a register that is written in modifications only directly follows a read of it, and
keeps the bits that are not its owner's. -/
theorem modified (h : Performs own moves accesses) (hwrite : ∀ value, .write address value ∉ moves)
    {earlier later : List Access} {new : Word}
    (haccesses : accesses = earlier ++ .write address new :: later) :
    .modify address ∈ moves ∧ FollowsRead address (own address) earlier new := by
  induction h generalizing earlier with
  | nil => simp at haccesses
  | read register value _ ih =>
      have ih := @ih fun value hmem => hwrite value (List.mem_cons_of_mem _ hmem)
      cases earlier with
      | nil => cases haccesses
      | cons access earlier =>
          obtain ⟨hmem, hfollows⟩ := ih (List.cons.inj haccesses).2
          exact ⟨List.mem_cons_of_mem _ hmem, hfollows.cons access⟩
  | write register value _ ih =>
      have ih := @ih fun value hmem => hwrite value (List.mem_cons_of_mem _ hmem)
      cases earlier with
      | nil =>
          cases (List.cons.inj haccesses).1
          exact absurd List.mem_cons_self (hwrite new)
      | cons access earlier =>
          obtain ⟨hmem, hfollows⟩ := ih (List.cons.inj haccesses).2
          exact ⟨List.mem_cons_of_mem _ hmem, hfollows.cons access⟩
  | @modify _ _ register old _ keeps _ ih =>
      have ih := @ih fun value hmem => hwrite value (List.mem_cons_of_mem _ hmem)
      -- the write is the second access of this modification, or it belongs to a later move
      rcases earlier with - | ⟨first, - | ⟨second, earlier⟩⟩
      · cases haccesses
      · obtain ⟨hread, htail⟩ := List.cons.inj haccesses
        cases (List.cons.inj htail).1
        exact ⟨List.mem_cons_self, [], old, congrArg (· :: []) hread.symm, keeps⟩
      · obtain ⟨hmem, hfollows⟩ := ih (List.cons.inj (List.cons.inj haccesses).2).2
        exact ⟨List.mem_cons_of_mem _ hmem, (hfollows.cons second).cons first⟩

end Performs

/-! ## What the operations are for -/

namespace Operation

/-- The operation tells about the status, or looks at it before it moves a word. -/
def looksAtStatus : Operation → Bool
  | status | readStatusFlag _ | readInterruptFlag _ | readOne | writeOne _ | readByte | writeByte _
  | readHalfword | writeHalfword _ => true
  | _ => false

/-- The operation takes the received word. A call for a word does if a word was moved. -/
def takesWord (operation : Operation) (moved : Bool) : Bool :=
  match operation with
  | receive => true
  | readOne | readByte | readHalfword => moved
  | _ => false

/-- The word that the operation puts in the data register. A call that hands one over does if a word
was moved. -/
def puts? (operation : Operation) (moved : Bool) : Option Word :=
  match operation with
  | transmit value => some value
  | _ => if moved then operation.word? else none

theorem puts?_of_ne_transmit {operation : Operation} (h : ∀ value, operation ≠ .transmit value)
    (moved : Bool) : operation.puts? moved = if moved then operation.word? else none := by
  cases operation with
  | transmit value => exact absurd rfl (h value)
  | _ => rfl

/-- The operation clears a flag. -/
def clearsFlag : Operation → Bool
  | clearCrcError | clearStatusFlag _ | clearInterruptFlag _ => true
  | _ => false

/-- The CRC polynomial that the operation stores. -/
def polynomial? : Operation → Option Word
  | configure value => some value.crcPolynomial
  | _ => none

/-! ## The moves of the operations -/

variable (operation : Operation) (moved : Bool)

theorem countP_reads_status_traffic :
    (operation.traffic moved).countP (Move.reads .status) =
      if operation.looksAtStatus then 1 else 0 := by
  cases operation <;> cases moved <;> rfl

theorem countP_reads_data_traffic :
    (operation.traffic moved).countP (Move.reads .data) =
      if operation.takesWord moved then 1 else 0 := by
  cases operation <;> cases moved <;> rfl

theorem written?_data_traffic :
    (operation.traffic moved).filterMap (Move.written? .data) =
      (operation.puts? moved).toList := by
  cases operation <;> cases moved <;> rfl

theorem written?_status_traffic :
    (operation.traffic moved).filterMap (Move.written? .status) =
      if operation.clearsFlag then [0xffef] else [] := by
  cases operation <;> cases moved <;> rfl

theorem written?_crcPolynomial_traffic :
    (operation.traffic moved).filterMap (Move.written? .crcPolynomial) =
      operation.polynomial?.toList := by
  cases operation <;> cases moved <;> rfl

/-- No operation writes a computed CRC. -/
theorem written?_crc_traffic :
    (operation.traffic moved).filterMap (Move.written? .rxCrc) = [] ∧
      (operation.traffic moved).filterMap (Move.written? .txCrc) = [] := by
  cases operation <;> cases moved <;> exact ⟨rfl, rfl⟩

variable {operation moved} {address : Address}

/-- The control registers are written in modifications only. -/
theorem ne_control_of_write_mem {value : Word}
    (h : .write address value ∈ operation.traffic moved) :
    address ≠ .control1 ∧ address ≠ .control2 := by
  constructor
  · rintro rfl
    cases operation <;> cases moved <;> simp [traffic] at h
  · rintro rfl
    cases operation <;> cases moved <;> simp [traffic] at h

theorem traffic_of_clearsFlag (h : operation.clearsFlag = true) :
    operation.traffic moved = [.write .status 0xffef] := by
  cases operation with
  | clearCrcError | clearStatusFlag flag | clearInterruptFlag source => rfl
  | _ => cases h

/-- Only control registers are modified. -/
theorem control_of_modify_mem (h : .modify address ∈ operation.traffic moved) :
    address = .control1 ∨ address = .control2 := by
  cases operation <;> cases moved <;> simp_all [traffic]

/-- Only registers with own bits are modified. -/
theorem ownBits_ne_zero_of_modify_mem (h : .modify address ∈ operation.traffic moved) :
    operation.ownBits address ≠ 0 := by
  cases operation with
  | enableDma request | disableDma request =>
      obtain rfl : address = .control2 := by simpa [traffic] using h
      cases request <;> decide
  | enableInterrupt source | disableInterrupt source =>
      obtain rfl : address = .control2 := by simpa [traffic] using h
      cases source <;> decide
  | _ => cases moved <;> simp_all [traffic, ownBits, bitsOf]

end Operation

/-! ## Discipline -/

/-- What the accesses of an operation are like, given whether its reply says that a word was
moved. -/
structure Disciplined (operation : Operation) (moved : Bool) (accesses : List Access) : Prop where
  /-- The status register is read once, or not at all. -/
  statusReads : accesses.countP (Access.reads .status) = if operation.looksAtStatus then 1 else 0
  /-- The data register is read once to take a word, and not otherwise. -/
  dataReads : accesses.countP (Access.reads .data) = if operation.takesWord moved then 1 else 0
  /-- The data register is written once to put a word in it, and not otherwise. -/
  dataWrites : accesses.filterMap (Access.written? .data) = (operation.puts? moved).toList
  /-- The status register is written to clear a flag only. -/
  statusWrites : accesses.filterMap (Access.written? .status) =
    if operation.clearsFlag then [0xffef] else []
  /-- Clearing a flag, whichever it is, is that write and nothing else. -/
  clearing : operation.clearsFlag = true → accesses = [.write .status 0xffef]
  /-- The computed CRCs are never written. -/
  crcWrites : accesses.filterMap (Access.written? .rxCrc) = [] ∧
    accesses.filterMap (Access.written? .txCrc) = []
  /-- The polynomial is written with a configuration only. -/
  polynomialWrites : accesses.filterMap (Access.written? .crcPolynomial) =
    operation.polynomial?.toList
  /-- A control register is written directly after a read of it, by an operation with own bits
  there, and in no other bits. -/
  controlWrites : ∀ register, register = .control1 ∨ register = .control2 →
    ∀ earlier new later, accesses = earlier ++ .write register new :: later →
      operation.ownBits register ≠ 0 ∧
        FollowsRead register (operation.ownBits register) earlier new

theorem Performs.disciplined {operation : Operation} {moved : Bool} {accesses : List Access}
    (h : Performs operation.ownBits (operation.traffic moved) accesses) :
    Disciplined operation moved accesses := by
  -- a register that is not modified gets the words of the moves
  have hwritten : ∀ address : Address, address ≠ .control1 → address ≠ .control2 →
      accesses.filterMap (Access.written? address) =
        (operation.traffic moved).filterMap (Move.written? address) := by
    intro address hfirst hsecond
    apply h.filterMap_written?
    intro hmem
    exact (Operation.control_of_modify_mem hmem).elim hfirst hsecond
  constructor
  · exact h.countP_reads.trans (operation.countP_reads_status_traffic moved)
  · exact h.countP_reads.trans (operation.countP_reads_data_traffic moved)
  · exact (hwritten .data nofun nofun).trans (operation.written?_data_traffic moved)
  · exact (hwritten .status nofun nofun).trans (operation.written?_status_traffic moved)
  · intro hclears
    rw [Operation.traffic_of_clearsFlag hclears] at h
    cases h with
    | write _ _ rest =>
        cases rest
        rfl
  · obtain ⟨hrx, htx⟩ := operation.written?_crc_traffic moved
    exact ⟨(hwritten .rxCrc nofun nofun).trans hrx, (hwritten .txCrc nofun nofun).trans htx⟩
  · exact (hwritten .crcPolynomial nofun nofun).trans
      (operation.written?_crcPolynomial_traffic moved)
  · intro register hregister earlier new later haccesses
    have hwrite : ∀ value, .write register value ∉ operation.traffic moved := by
      intro value hmem
      obtain ⟨hfirst, hsecond⟩ := Operation.ne_control_of_write_mem hmem
      exact hregister.elim hfirst hsecond
    obtain ⟨hmem, hfollows⟩ := h.modified hwrite haccesses
    exact ⟨Operation.ownBits_ne_zero_of_modify_mem hmem, hfollows⟩

/-- Every operation keeps bus discipline, on a simulated peripheral, on registers in memory and on
any other device, in every state. -/
theorem bus_discipline {σ : Type} [Device σ] (operation : Operation) (s : σ) :
    Disciplined operation (operation.program.run s).result.isMoved
      (operation.program.run s).accesses :=
  (operation.makes_program σ s).disciplined

end SpiController
