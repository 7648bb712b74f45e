import SpiController.Instance

/-!
# Ownership of the peripherals

The peripherals of the chip are handed out as one value, which can be taken once. They can also be
stolen, all together or one at a time, which always succeeds and leaves it to the caller that no
two owners get in each other's way. Stealing all of them counts as taking them; stealing one does
not.
-/

namespace SpiController

/-- A way to get hold of peripherals. -/
inductive Acquisition where
  /-- Take all of them, unless that was done before. -/
  | take
  /-- Steal all of them. -/
  | steal
  | stealOne (peripheral : Peripheral)
  deriving DecidableEq, Repr

/-- What an acquisition hands out. -/
inductive Grant where
  | nothing
  | all
  | one (peripheral : Peripheral)
  deriving DecidableEq, Repr

/-- Whether the peripherals have been taken. -/
structure Ownership where
  taken : Bool
  deriving DecidableEq, Repr

namespace Ownership

/-- Nothing has been taken. -/
def initial : Ownership := ⟨false⟩

/-- The grant of an acquisition, and the ownership after it. -/
def acquire (o : Ownership) : Acquisition → Grant × Ownership
  | .take => if o.taken then (.nothing, o) else (.all, ⟨true⟩)
  | .steal => (.all, ⟨true⟩)
  | .stealOne peripheral => (.one peripheral, o)

/-- The grants of acquisitions made one after the other. -/
def grants (o : Ownership) : List Acquisition → List Grant
  | [] => []
  | a :: rest => (o.acquire a).1 :: (o.acquire a).2.grants rest

end Ownership

/-- The text of what was handed out; nothing has none. -/
def Grant.describe : Grant → Option String
  | .nothing => none
  | .all =>
      some (Diagnostic.record "Peripherals" ((Labelled.all : List Peripheral).map fun peripheral =>
        (Labelled.label peripheral, Labelled.label peripheral)))
  | .one peripheral => some (Labelled.label peripheral)

end SpiController
