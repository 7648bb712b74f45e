/-!
# Labels

The finite choices of an SPI peripheral (directions, flags, registers, …) are written by name in
diagnostics and in reports. `Labelled` lists the values of a type in their declared order, names
each, and carries the law that a name leads back to its value.
-/

namespace SpiController

/-- A type with finitely many values, each listed under a name of its own. -/
class Labelled (α : Type) where
  /-- Every value, in declared order. -/
  all : List α
  /-- The name of a value. -/
  label : α → String
  /-- Searching the list for the name of a value finds that value. -/
  find_label : ∀ a, all.find? (fun b => label b == label a) = some a

namespace Labelled

variable {α : Type} [Labelled α]

/-- The value of a name, if the type has one. -/
def ofLabel? (name : String) : Option α :=
  (all : List α).find? fun b => label b == name

@[simp]
theorem ofLabel?_label (a : α) : ofLabel? (label a) = some a :=
  find_label a

theorem mem_all (a : α) : a ∈ (all : List α) :=
  List.mem_of_find?_eq_some (find_label a)

theorem label_injective {a b : α} (h : label a = label b) : a = b := by
  have hb : ofLabel? (label a) = some b := h ▸ ofLabel?_label b
  exact Option.some.inj ((ofLabel?_label a).symm.trans hb)

end Labelled

end SpiController
