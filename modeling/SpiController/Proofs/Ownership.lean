import SpiController.Ownership

/-!
# The peripherals are handed out once

A call marks the peripherals as taken when it takes or steals all of them. What a call is granted
depends on that mark alone. One step tells how a call changes it (`taken_next`), and a run keeps it
from the first marking call on (`taken_foldl_next`). A taken mark refuses every take
(`count_take_le`), and a single steal puts its own grant among the others and moves nothing else
(`grants_stealOne`). `handed_out_once` collects this for the runs of a fresh process.
-/

namespace SpiController

/-- The peripherals count as taken after the call. -/
def Acquisition.marks : Acquisition → Bool
  | .take => true
  | .steal => true
  | .stealOne _ => false

theorem Acquisition.any_marks_iff (calls : List Acquisition) :
    calls.any marks = true ↔ .take ∈ calls ∨ .steal ∈ calls := by
  rw [List.any_eq_true]
  constructor
  · rintro ⟨call, hcall, hmarks⟩
    cases call with
    | take => exact .inl hcall
    | steal => exact .inr hcall
    | stealOne peripheral => cases hmarks
  · rintro (htake | hsteal)
    · exact ⟨.take, htake, rfl⟩
    · exact ⟨.steal, hsteal, rfl⟩

namespace Ownership

/-- The ownership after a call. -/
def next (o : Ownership) (call : Acquisition) : Ownership :=
  (o.acquire call).2

/-! ## One call -/

/-- A take that succeeds does what a steal does. -/
theorem acquire_take (o : Ownership) :
    o.acquire .take = if o.taken then (.nothing, o) else o.acquire .steal := rfl

theorem taken_next (o : Ownership) (call : Acquisition) :
    (o.next call).taken = (o.taken || call.marks) := by
  cases call with
  | take =>
      rw [next, acquire_take]
      cases h : o.taken with
      | false => rfl
      | true => exact h
  | steal => exact (Bool.or_true _).symm
  | stealOne peripheral => exact (Bool.or_false _).symm

/-- How many takes can still succeed. -/
def chances (o : Ownership) : Nat :=
  if o.taken then 0 else 1

/-- A take that succeeds uses up a chance, and no call gives one back. -/
theorem chances_next (o : Ownership) (call : Acquisition) :
    (if (call, (o.acquire call).1) == (.take, .all) then 1 else 0) + (o.next call).chances ≤
      o.chances := by
  rcases o with ⟨taken⟩
  cases call with
  | take => cases taken <;> decide
  | steal => cases taken <;> decide
  | stealOne peripheral => exact Nat.le_of_eq (Nat.zero_add _)

/-! ## Runs -/

theorem grants_cons (o : Ownership) (call : Acquisition) (rest : List Acquisition) :
    o.grants (call :: rest) = (o.acquire call).1 :: (o.next call).grants rest := rfl

/-- After a run the peripherals count as taken when they did before, or a call has marked them. -/
theorem taken_foldl_next (o : Ownership) (calls : List Acquisition) :
    (calls.foldl next o).taken = (o.taken || calls.any Acquisition.marks) := by
  induction calls generalizing o with
  | nil => exact (Bool.or_false _).symm
  | cons call rest ih => rw [List.foldl_cons, ih, taken_next, List.any_cons, Bool.or_assoc]

@[simp]
theorem length_grants (o : Ownership) (calls : List Acquisition) :
    (o.grants calls).length = calls.length := by
  induction calls generalizing o with
  | nil => rfl
  | cons call rest ih => rw [grants_cons, List.length_cons, ih, List.length_cons]

theorem grants_append (o : Ownership) (earlier later : List Acquisition) :
    o.grants (earlier ++ later) = o.grants earlier ++ (earlier.foldl next o).grants later := by
  induction earlier generalizing o with
  | nil => rfl
  | cons call rest ih =>
      rw [List.cons_append, grants_cons, ih, grants_cons, List.cons_append, List.foldl_cons]

/-- A call is granted what the ownership after the calls before it allows. -/
theorem getElem?_grants (o : Ownership) (earlier later : List Acquisition) (call : Acquisition) :
    (o.grants (earlier ++ call :: later))[earlier.length]? =
      some ((earlier.foldl next o).acquire call).1 := by
  have hlength := o.length_grants earlier
  rw [grants_append, List.getElem?_append_right (Nat.le_of_eq hlength), hlength, Nat.sub_self,
    grants_cons]
  rfl

/-- The grants after a call are those of a run from the ownership that the call leaves. -/
theorem drop_grants (o : Ownership) (earlier later : List Acquisition) (call : Acquisition) :
    (o.grants (earlier ++ call :: later)).drop (earlier.length + 1) =
      ((earlier.foldl next o).next call).grants later := by
  have hlength : (o.grants (earlier ++ [call])).length = earlier.length + 1 := by simp
  rw [List.append_cons, grants_append, List.drop_left' hlength, List.foldl_append]
  rfl

/-- A run grants no more takes than can still succeed. -/
theorem count_take_le (o : Ownership) (calls : List Acquisition) :
    (calls.zip (o.grants calls)).count (.take, .all) ≤ o.chances := by
  induction calls generalizing o with
  | nil => exact Nat.zero_le _
  | cons call rest ih =>
      have hstep := o.chances_next call
      have hrest := ih (o.next call)
      rw [grants_cons, List.zip_cons_cons, List.count_cons]
      omega

/-- A single steal adds its own grant, and every other call is granted what it is without it. -/
theorem grants_stealOne (o : Ownership) (earlier later : List Acquisition)
    (peripheral : Peripheral) :
    o.grants (earlier ++ .stealOne peripheral :: later) =
      (o.grants (earlier ++ later)).insertIdx earlier.length (.one peripheral) := by
  induction earlier generalizing o with
  | nil => rfl
  | cons call rest ih =>
      rw [List.cons_append, grants_cons, ih, List.cons_append, grants_cons, List.length_cons,
        List.insertIdx_succ_cons]

/-! ## Runs of a fresh process -/

/-- The peripherals are handed out once. In a run of a fresh process a take gets all of them when
no take and no steal of all comes before it, and nothing otherwise. So at most one take gets them. A
steal of all always gets them, and no take after it does. Leaving out the steal of one peripheral
leaves out the grant of that steal, and all other grants stay as they are. -/
theorem handed_out_once (calls : List Acquisition) :
    (∀ earlier later, calls = earlier ++ .take :: later →
      (initial.grants calls)[earlier.length]? =
        some (if .take ∈ earlier ∨ .steal ∈ earlier then .nothing else .all)) ∧
    (calls.zip (initial.grants calls)).count (.take, .all) ≤ 1 ∧
    (∀ earlier later, calls = earlier ++ .steal :: later →
      (initial.grants calls)[earlier.length]? = some .all ∧
      (.take, .all) ∉ later.zip ((initial.grants calls).drop (earlier.length + 1))) ∧
    ∀ earlier peripheral later, calls = earlier ++ .stealOne peripheral :: later →
      initial.grants calls =
        (initial.grants (earlier ++ later)).insertIdx earlier.length (.one peripheral) := by
  refine ⟨?_, initial.count_take_le calls, ?_, ?_⟩
  · rintro earlier later rfl
    have htaken : (earlier.foldl next initial).taken = true ↔
        .take ∈ earlier ∨ .steal ∈ earlier := by
      rw [taken_foldl_next, ← Acquisition.any_marks_iff]
      rfl
    rw [getElem?_grants, acquire_take]
    by_cases hmarked : .take ∈ earlier ∨ .steal ∈ earlier
    · rw [if_pos hmarked, if_pos (htaken.2 hmarked)]
    · rw [if_neg hmarked, if_neg (mt htaken.1 hmarked)]
      rfl
  · rintro earlier later rfl
    refine ⟨getElem?_grants initial earlier later .steal, ?_⟩
    -- the calls after the steal start without a chance
    rw [drop_grants, ← List.count_eq_zero]
    exact Nat.le_zero.1 (count_take_le _ later)
  · rintro earlier peripheral later rfl
    exact initial.grants_stealOne earlier later peripheral

/-- A take after the steal of one peripheral gets them all, and one after that nothing. -/
theorem take_between_steals :
    let calls : List Acquisition := [.stealOne .spi2, .take, .steal, .take]
    (initial.grants calls)[1]? = some .all ∧
      (initial.grants calls)[3]? = some .nothing ∧
      (calls.zip (initial.grants calls)).count (.take, .all) ≤ 1 ∧
      (.take, .all) ∉ [Acquisition.take].zip ((initial.grants calls).drop 3) ∧
      initial.grants calls =
        (initial.grants [.take, .steal, .take]).insertIdx 0 (.one .spi2) := by
  intro calls
  obtain ⟨htake, hcount, hsteal, hone⟩ := handed_out_once calls
  have hfirst := htake [.stealOne .spi2] [.steal, .take] rfl
  have hlast := htake [.stealOne .spi2, .take, .steal] [] rfl
  have hafter := (hsteal [.stealOne .spi2, .take] [.take] rfl).2
  exact ⟨hfirst, hlast, hcount, hafter, hone [] .spi2 [.take, .steal, .take] rfl⟩

end Ownership

end SpiController
