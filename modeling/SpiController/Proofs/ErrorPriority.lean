import SpiController.Status

/-!
# Which error a reading reports

Every error has its flag. A reading of the status register reports the first error, in order of
seriousness, whose flag it shows.
-/

namespace SpiController

/-- The status flag that stands for an error. -/
def TransferError.flag : TransferError → StatusFlag
  | .overrun => .overrun
  | .modeFault => .modeFault
  | .crc => .crcError
  | .underrun => .underrun

namespace Status

/-- The errors stand in order of seriousness. -/
theorem error_eq_find? (s : Status) :
    s.error = (Labelled.all : List TransferError).find? fun e => s.isSet e.flag := by
  have hcons (e : TransferError) (rest : List TransferError) :
      ((e :: rest).find? fun e => s.isSet e.flag) =
        if s.bits.getLsbD e.flag.position = true then some e
        else rest.find? fun e => s.isSet e.flag := by
    rw [List.find?_cons, isSet_eq_getLsbD]
    cases s.bits.getLsbD e.flag.position <;> rfl
  have hall : (Labelled.all : List TransferError) = [.overrun, .modeFault, .crc, .underrun] := rfl
  rw [hall, hcons, hcons, hcons, hcons, List.find?_nil]
  simp only [error, Field.read_flag]
  rfl

/-- A reported error is shown by its flag. -/
theorem isSet_of_error {s : Status} {e : TransferError} (h : s.error = some e) :
    s.isSet e.flag = true := by
  rw [error_eq_find?] at h
  exact List.find?_some (p := fun e : TransferError => s.isSet e.flag) h

/-- A reading that shows fewer flags reports the same error exactly when it still shows it. -/
theorem error_of_imp {s t : Status} {e : TransferError} (h : s.error = some e)
    (himp : ∀ f : TransferError, t.isSet f.flag = true → s.isSet f.flag = true) :
    t.error = some e ↔ t.isSet e.flag = true := by
  constructor
  · exact isSet_of_error
  · intro ht
    rw [error_eq_find?, List.find?_eq_some_iff_append] at h ⊢
    obtain ⟨-, before, after, hall, hbefore⟩ := h
    -- the errors before it are not shown by `s`, and so not by `t`
    refine ⟨ht, before, after, hall, fun f hf => ?_⟩
    have hnot := hbefore f hf
    rw [Bool.not_eq_true', ← Bool.not_eq_true] at hnot ⊢
    exact mt (himp f) hnot

end Status

end SpiController
