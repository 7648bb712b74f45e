import SpiController.MemoryBlock
import SpiController.Proofs.Program
import SpiController.Proofs.Simulator.Event

/-!
# Registers without side effects

On a peripheral, reading the status or the data register has side effects. The other registers are
plain: reading one changes nothing, and an access of one register leaves the others alone. A device
with `PlainRegisters` obeys these laws, whatever it does with the status and the data register. The
simulated peripheral and the registers in memory are such devices.

An `Assignment` gives values to some bits of some registers. A program performs it
(`Program.Assigns`) when on each such device it leaves the plain registers with these bits and with
all other bits as they were, that is, when it takes their contents there (`Assignment.Takes`).
-/

namespace SpiController

namespace Address

/-- The register is neither the status nor the data register. -/
def Plain (address : Address) : Prop :=
  address ≠ .status ∧ address ≠ .data

/-- The register is not one of the computed CRCs, which are read only. -/
def Writable (address : Address) : Prop :=
  address ≠ .rxCrc ∧ address ≠ .txCrc

instance : DecidablePred Plain :=
  fun _ => inferInstanceAs (Decidable (_ ∧ _))

instance : DecidablePred Writable :=
  fun _ => inferInstanceAs (Decidable (_ ∧ _))

/-- A write of the register stores the word and does nothing else. -/
structure Stores (address : Address) : Prop where
  plain : address.Plain
  writable : address.Writable

theorem stores_control1 : Stores control1 :=
  ⟨by decide, by decide⟩

theorem stores_control2 : Stores control2 :=
  ⟨by decide, by decide⟩

theorem stores_crcPolynomial : Stores crcPolynomial :=
  ⟨by decide, by decide⟩

theorem Plain.cases {address : Address} (h : address.Plain) :
    address = .control1 ∨ address = .control2 ∨ address = .crcPolynomial ∨ address = .rxCrc ∨
      address = .txCrc := by
  revert h
  cases address <;> decide

end Address

/-- A device on which the plain registers do nothing but store. -/
class PlainRegisters (σ : Type) [Device σ] where
  /-- What a register holds. -/
  content : σ → Address → Word
  read_fst : ∀ (s : σ) address, (Device.read s address).1 = content s address
  read_plain : ∀ (s : σ) {address : Address}, address.Plain → (Device.read s address).2 = s
  content_read : ∀ (s : σ) address {c : Address}, c.Plain →
    content (Device.read s address).2 c = content s c
  content_write : ∀ (s : σ) {address : Address} value {c : Address}, address.Writable → c.Plain →
    content (Device.write s address value) c = if c = address then value else content s c

/-! ## The two devices -/

instance : PlainRegisters MemoryBlock where
  content := MemoryBlock.peek
  read_fst _ _ := rfl
  read_plain _ _ _ := rfl
  content_read _ _ _ _ := rfl
  content_write b address value c _ _ := b.peek_write address c value

namespace Simulator

variable (s : Simulator)

theorem afterRead_of_plain {address : Address} (h : address.Plain) : s.afterRead address = s := by
  rcases h.cases with rfl | rfl | rfl | rfl | rfl <;> rfl

/-- Reads change no plain register. -/
theorem peek_afterRead (address : Address) {c : Address} (hc : c.Plain) :
    (s.afterRead address).peek c = s.peek c := by
  rw [afterRead_eq]
  rcases hc.cases with rfl | rfl | rfl | rfl | rfl <;> rfl

/-- A write changes at most the one plain register that it is for. -/
theorem peek_write {address : Address} (value : Word) {c : Address} (haddress : address.Writable)
    (hc : c.Plain) : (s.write address value).peek c = if c = address then value else s.peek c := by
  cases address with
  | control1 =>
      rw [write, store, storeControl1_eq]
      rcases hc.cases with rfl | rfl | rfl | rfl | rfl <;> rfl
  | status =>
      rw [write, store, storeStatus_eq]
      rcases hc.cases with rfl | rfl | rfl | rfl | rfl <;> rfl
  | data =>
      rw [write, store, storeData_eq]
      rcases hc.cases with rfl | rfl | rfl | rfl | rfl <;> rfl
  | control2 | crcPolynomial => rcases hc.cases with rfl | rfl | rfl | rfl | rfl <;> rfl
  | rxCrc => exact absurd rfl haddress.1
  | txCrc => exact absurd rfl haddress.2

instance : PlainRegisters Simulator where
  content := peek
  read_fst _ _ := rfl
  read_plain s _ h := s.afterRead_of_plain h
  content_read s address _ hc := s.peek_afterRead address hc
  content_write s _ value _ haddress hc := s.peek_write value haddress hc

end Simulator

/-! ## Assignments -/

/-- Values for some of the bits of the registers. -/
abbrev Assignment :=
  Address → Nat → Option Bool

namespace Assignment

/-- No bit has a value. -/
def none : Assignment :=
  fun _ _ => .none

/-- One bit of one register has a value. -/
def bit (register : Address) (position : Nat) (value : Bool) : Assignment :=
  fun address i => if address = register ∧ i = position then some value else .none

/-- Both assignments, of which the later one decides where they meet. -/
def overriding (later earlier : Assignment) : Assignment :=
  fun address i => (later address i).or (earlier address i)

/-- From the one content of the plain registers to the other, the bits of the assignment get their
values, and all other bits stay. -/
def Takes (assignment : Assignment) (before after : Address → Word) : Prop :=
  ∀ address : Address, address.Plain → ∀ i,
    (after address).getLsbD i = (assignment address i).getD ((before address).getLsbD i)

/-- A register without a bit of the assignment is kept. -/
theorem Takes.eq_of_none {assignment : Assignment} {before after : Address → Word}
    (h : assignment.Takes before after) {address : Address} (hplain : address.Plain)
    (hnone : ∀ i, assignment address i = .none) : after address = before address := by
  apply BitVec.eq_of_getLsbD_eq
  intro i _
  rw [h address hplain, hnone i]
  rfl

/-- An assignment of one flag is a write of it. -/
theorem Takes.eq_write (field : Field .flag) {value : Bool} {before after : Address → Word}
    (h : (bit field.register field.offset value).Takes before after)
    (hplain : field.register.Plain) :
    after field.register = field.write value (before field.register) := by
  apply BitVec.eq_of_getLsbD_eq
  intro i _
  rw [h _ hplain, field.getLsbD_write_flag, bit]
  by_cases hi : i = field.offset
  · simp [hi]
  · simp [hi]

end Assignment

namespace Program

open PlainRegisters

variable {α β : Type}

/-- On every device with plain registers, the program gives the bits of the assignment their values
and keeps all other bits. -/
def Assigns (p : Program α) (assignment : Assignment) : Prop :=
  ∀ (σ : Type) [Device σ] [PlainRegisters σ] (s : σ),
    assignment.Takes (content s) (content (p.run s).state)

theorem assigns_pure (a : α) : (pure a : Program α).Assigns .none := by
  intro σ _ _ s address haddress i
  rfl

/-- Of two programs one after the other, the second one decides. -/
theorem Assigns.bind {p : Program α} {next : α → Program β} {earlier later : Assignment}
    (hp : p.Assigns earlier) (hnext : ∀ a, (next a).Assigns later) :
    (p >>= next).Assigns (later.overriding earlier) := by
  intro σ _ _ s address haddress i
  rw [run_bind, Assignment.overriding, Option.getD_or, ← hp σ s address haddress i]
  exact hnext _ σ _ address haddress i

/-- A program that assigns nothing, before one that does. -/
theorem Assigns.bind_of_none {p : Program α} {next : α → Program β} {assignment : Assignment}
    (hp : p.Assigns .none) (hnext : ∀ a, (next a).Assigns assignment) :
    (p >>= next).Assigns assignment := by
  intro σ _ _ s address haddress i
  have h := hp.bind hnext σ s address haddress i
  rwa [Assignment.overriding, Assignment.none, Option.or_none] at h

theorem Assigns.map {p : Program α} {assignment : Assignment} (hp : p.Assigns assignment)
    (change : α → β) : (change <$> p).Assigns assignment := by
  intro σ _ _ s address haddress i
  rw [run_map]
  exact hp σ s address haddress i

theorem Assigns.answerless {p : Program Unit} {assignment : Assignment}
    (hp : p.Assigns assignment) : p.answerless.Assigns assignment :=
  hp.bind fun _ => assigns_pure _

theorem assigns_emit (request : Signal) : (emit request).Assigns .none := by
  intro σ _ _ s address haddress i
  rfl

theorem assigns_readRegister (address : Address) : (readRegister address).Assigns .none := by
  intro σ _ _ s c hc i
  rw [run_readRegister, content_read s address hc]
  rfl

/-- A write of the status or the data register assigns nothing. -/
theorem assigns_writeRegister_of_not_plain {address : Address} (haddress : ¬ address.Plain)
    (value : Word) : (writeRegister address value).Assigns .none := by
  intro σ _ _ s c hc i
  have hne : c ≠ address := by
    rintro rfl
    exact haddress hc
  have hwritable : address.Writable := by
    constructor
    · rintro rfl
      exact haddress (by decide)
    · rintro rfl
      exact haddress (by decide)
  rw [run_writeRegister, content_write s value hwritable hc, if_neg hne]
  rfl

/-- A write of a plain register gives a value to each of its bits. -/
theorem assigns_writeRegister {address : Address} {value : Word} (hstores : address.Stores) :
    (writeRegister address value).Assigns
      fun c i => if c = address then some (value.getLsbD i) else none := by
  intro σ _ _ s c hc i
  rw [run_writeRegister, content_write s value hstores.writable hc]
  by_cases h : c = address
  · simp [h]
  · simp [h]

/-- A modification assigns what the change of the register does, bit by bit. -/
theorem assigns_modifyRegister {address : Address} (change : Word → Word)
    {assignment : Assignment} (hstores : address.Stores)
    (hchange : ∀ content i,
      (change content).getLsbD i = (assignment address i).getD (content.getLsbD i))
    (hothers : ∀ c, c ≠ address → ∀ i, assignment c i = none) :
    (modifyRegister address change).Assigns assignment := by
  intro σ _ _ s c hc i
  rw [run_modifyRegister]
  simp only [read_plain s hstores.plain, read_fst, content_write s _ hstores.writable hc]
  by_cases h : c = address
  · rw [if_pos h, h]
    exact hchange _ i
  · rw [if_neg h, hothers c h i]
    rfl

theorem assigns_bit_of_change {address : Address} {change : Word → Word} {position : Nat}
    {value : Bool} (hstores : address.Stores)
    (hchange : ∀ content i,
      (change content).getLsbD i = if i = position then value else content.getLsbD i) :
    (modifyRegister address change).Assigns (.bit address position value) := by
  apply assigns_modifyRegister change hstores
  · intro content i
    rw [hchange, Assignment.bit]
    by_cases h : i = position
    · simp [h]
    · simp [h]
  · intro c hc i
    simp [Assignment.bit, hc]

end Program

end SpiController
