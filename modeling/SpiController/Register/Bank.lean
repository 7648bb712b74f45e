import SpiController.Register.Address

/-!
# Banks of registers

A `Bank α` holds one value of type `α` for every address. Its two laws say that storing at an
address replaces the content there and leaves the other six as they are.
-/

namespace SpiController

/-- One value for each register. -/
@[ext]
structure Bank (α : Type) where
  control1 : α
  control2 : α
  status : α
  data : α
  crcPolynomial : α
  rxCrc : α
  txCrc : α
  deriving DecidableEq, Repr

namespace Bank

variable {α : Type}

/-- The same value for every register. -/
def replicate (v : α) : Bank α :=
  ⟨v, v, v, v, v, v, v⟩

/-- The content of one register. -/
def get (b : Bank α) : Address → α
  | .control1 => b.control1
  | .control2 => b.control2
  | .status => b.status
  | .data => b.data
  | .crcPolynomial => b.crcPolynomial
  | .rxCrc => b.rxCrc
  | .txCrc => b.txCrc

/-- Replace the content of one register. -/
def set (b : Bank α) (address : Address) (v : α) : Bank α :=
  match address with
  | .control1 => { b with control1 := v }
  | .control2 => { b with control2 := v }
  | .status => { b with status := v }
  | .data => { b with data := v }
  | .crcPolynomial => { b with crcPolynomial := v }
  | .rxCrc => { b with rxCrc := v }
  | .txCrc => { b with txCrc := v }

/-- The contents in the order of the addresses. -/
def toList (b : Bank α) : List α :=
  (Labelled.all : List Address).map b.get

@[simp]
theorem get_replicate (v : α) (address : Address) : (replicate v).get address = v := by
  cases address <;> rfl

theorem get_set (b : Bank α) (a c : Address) (v : α) :
    (b.set a v).get c = if c = a then v else b.get c := by
  cases a <;> cases c <;> rfl

@[simp]
theorem get_set_self (b : Bank α) (a : Address) (v : α) : (b.set a v).get a = v := by
  cases a <;> rfl

theorem get_set_of_ne (b : Bank α) {a c : Address} (v : α) (h : c ≠ a) :
    (b.set a v).get c = b.get c := by
  rw [get_set, if_neg h]

/-- Two banks are equal when all of their contents are. -/
theorem ext_get {b c : Bank α} (h : ∀ a, b.get a = c.get a) : b = c :=
  Bank.ext (h .control1) (h .control2) (h .status) (h .data) (h .crcPolynomial) (h .rxCrc)
    (h .txCrc)

end Bank

end SpiController
