import SpiController.Clocking
import SpiController.Register.Address

/-!
# Programs on a register bus

A driver reads registers, writes registers and asks for changes of its clock and reset line. A
`Program` is a finite tree of such accesses, in which what follows a read may depend on the word
read. It is syntax: `Program.run` gives it a meaning on any `Device`, with the accesses made, so
that a law about the accesses of a driver holds on every device at once.
-/

namespace SpiController

/-- Something whose registers can be read and written, with whatever side effects that has. -/
class Device (σ : Type) where
  /-- The word that a read returns, and the device after it. -/
  read : σ → Address → Word × σ
  write : σ → Address → Word → σ

/-- One access on the bus, with the word that went over it. -/
inductive Access where
  | read (address : Address) (value : Word)
  | write (address : Address) (value : Word)
  deriving DecidableEq, Repr

/-- A driver's accesses, and its result of type `α`. -/
inductive Program (α : Type) where
  | done (result : α)
  | read (address : Address) (next : Word → Program α)
  | write (address : Address) (value : Word) (next : Program α)
  | signal (request : Signal) (next : Program α)

/-- What a run of a program yields: its result, the device afterwards, and the accesses and signals
in the order in which they were made. -/
structure Run (σ α : Type) where
  result : α
  state : σ
  accesses : List Access
  signals : List Signal
  deriving DecidableEq, Repr

namespace Program

variable {σ α β : Type}

/-- The program that goes on with `next` after `p`. -/
protected def bind (p : Program α) (next : α → Program β) : Program β :=
  match p with
  | .done result => next result
  | .read address rest => .read address fun value => (rest value).bind next
  | .write address value rest => .write address value (rest.bind next)
  | .signal request rest => .signal request (rest.bind next)

instance : Monad Program where
  pure := .done
  bind := .bind

/-- Run a program on a device. -/
def run [Device σ] : Program α → σ → Run σ α
  | .done result, s => ⟨result, s, [], []⟩
  | .read address next, s =>
      let r := Device.read s address
      let rest := (next r.1).run r.2
      { rest with accesses := .read address r.1 :: rest.accesses }
  | .write address value next, s =>
      let rest := next.run (Device.write s address value)
      { rest with accesses := .write address value :: rest.accesses }
  | .signal request next, s =>
      let rest := next.run s
      { rest with signals := request :: rest.signals }

/-! ## Single accesses -/

/-- Read a register. -/
def readRegister (address : Address) : Program Word :=
  .read address .done

/-- Write a register. -/
def writeRegister (address : Address) (value : Word) : Program Unit :=
  .write address value (.done ())

/-- Read a register and write it back changed. -/
def modifyRegister (address : Address) (change : Word → Word) : Program Unit := do
  let value ← readRegister address
  writeRegister address (change value)

/-- Ask for a change of the clock and reset line. -/
def emit (request : Signal) : Program Unit :=
  .signal request (.done ())

/-! ## Laws -/

private theorem bind_done (p : Program α) : p.bind .done = p := by
  induction p with
  | done result => rfl
  | read address next ih => simp [Program.bind, ih]
  | write address value next ih => simp [Program.bind, ih]
  | signal request next ih => simp [Program.bind, ih]

private theorem bind_bind {γ : Type} (p : Program α) (f : α → Program β) (g : β → Program γ) :
    (p.bind f).bind g = p.bind fun a => (f a).bind g := by
  induction p with
  | done result => rfl
  | read address next ih => simp [Program.bind, ih]
  | write address value next ih => simp [Program.bind, ih]
  | signal request next ih => simp [Program.bind, ih]

instance : LawfulMonad Program :=
  LawfulMonad.mk' Program bind_done (fun _ _ => rfl) bind_bind

variable [Device σ]

@[simp]
theorem run_pure (a : α) (s : σ) : (pure a : Program α).run s = ⟨a, s, [], []⟩ := rfl

/-- Two programs one after the other: the second starts where the first ended. -/
@[simp]
theorem run_bind (p : Program α) (next : α → Program β) (s : σ) :
    (p >>= next).run s =
      let first := p.run s
      let second := (next first.result).run first.state
      ⟨second.result, second.state, first.accesses ++ second.accesses,
        first.signals ++ second.signals⟩ := by
  change (p.bind next).run s = _
  induction p generalizing s with
  | done result => rfl
  | read address rest ih => simp [Program.bind, run, ih]
  | write address value rest ih => simp [Program.bind, run, ih]
  | signal request rest ih => simp [Program.bind, run, ih]

@[simp]
theorem run_readRegister (address : Address) (s : σ) :
    (readRegister address).run s =
      ⟨(Device.read s address).1, (Device.read s address).2,
        [.read address (Device.read s address).1], []⟩ := rfl

@[simp]
theorem run_writeRegister (address : Address) (value : Word) (s : σ) :
    (writeRegister address value).run s =
      ⟨(), Device.write s address value, [.write address value], []⟩ := rfl

/-- A modification is one read and one write of the same register. -/
@[simp]
theorem run_modifyRegister (address : Address) (change : Word → Word) (s : σ) :
    (modifyRegister address change).run s =
      let r := Device.read s address
      ⟨(), Device.write r.2 address (change r.1),
        [.read address r.1, .write address (change r.1)], []⟩ := rfl

@[simp]
theorem run_emit (request : Signal) (s : σ) :
    (emit request).run s = ⟨(), s, [], [request]⟩ := rfl

end Program

end SpiController
