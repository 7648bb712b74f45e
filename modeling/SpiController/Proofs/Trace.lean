import Mathlib.Data.List.Induction

/-!
# Traces of a system

A system is a function `next` from a state and an input to the state afterwards. `trace` lists the
transitions that it makes on a list of inputs, and `List.foldl next` gives the state at the end.

A few facts about traces carry the rest. What is put into a store comes out again in order, as soon
as every transition says so (`trace_conserves`). What only some inputs can end holds up to the first
of them (`trace_holds_until`). A value that every transition replaces or keeps is the last
replacement (`value_foldl`), and a view that every input acts on follows the inputs (`view_foldl`).
A latch that is set under a flag and falls with it tells whether the setting has occurred since the
flag rose (`latch_iff_occursSince`). A flag that nothing sets, and that falls under a latch, falls
when two inputs come in order (`flag_foldl_of_latch`).
-/

namespace SpiController

/-- One input of a system, with the states before and after it. -/
structure Transition (σ ι : Type) where
  before : σ
  input : ι
  after : σ
  deriving DecidableEq, Repr

/-- The transitions on a list of inputs. -/
def trace {σ ι : Type} (next : σ → ι → σ) (s : σ) : List ι → List (Transition σ ι)
  | [] => []
  | input :: rest => ⟨s, input, next s input⟩ :: trace next (next s input) rest

namespace Transition

variable {σ ι : Type}

/-- The flag goes from clear to set. -/
def Rises (flag : σ → Bool) (t : Transition σ ι) : Prop :=
  flag t.before = false ∧ flag t.after = true

/-- The flag goes from set to clear. -/
def Falls (flag : σ → Bool) (t : Transition σ ι) : Prop :=
  flag t.before = true ∧ flag t.after = false

instance (flag : σ → Bool) : DecidablePred (Rises flag : Transition σ ι → Prop) :=
  fun _ => inferInstanceAs (Decidable (_ ∧ _))

instance (flag : σ → Bool) : DecidablePred (Falls flag : Transition σ ι → Prop) :=
  fun _ => inferInstanceAs (Decidable (_ ∧ _))

end Transition

/-- After the last transition with `start` there is one with `p`. -/
def OccursSince {τ : Type} (start p : τ → Prop) (past : List τ) : Prop :=
  ∃ earlier first later, past = earlier ++ first :: later ∧ start first ∧
    (∀ t ∈ later, ¬ start t) ∧ ∃ t ∈ later, p t

section Trace

variable {σ ι α : Type} (next : σ → ι → σ)

private theorem filterMap_cons_eq_append {β : Type} (f : β → Option α) (b : β) (bs : List β) :
    (b :: bs).filterMap f = (f b).toList ++ bs.filterMap f := by
  cases h : f b with
  | none => rw [List.filterMap_cons_none h]; rfl
  | some a => rw [List.filterMap_cons_some h]; rfl

theorem trace_append (s : σ) (first second : List ι) :
    trace next s (first ++ second) =
      trace next s first ++ trace next (first.foldl next s) second := by
  induction first generalizing s with
  | nil => rfl
  | cons input rest ih => simp [trace, ih]

theorem trace_concat (s : σ) (inputs : List ι) (input : ι) :
    trace next s (inputs ++ [input]) =
      trace next s inputs ++
        [⟨inputs.foldl next s, input, next (inputs.foldl next s) input⟩] := by
  rw [trace_append]
  rfl

@[simp]
theorem map_input_trace (s : σ) (inputs : List ι) :
    (trace next s inputs).map (·.input) = inputs := by
  induction inputs generalizing s with
  | nil => rfl
  | cons input rest ih => simp [trace, ih]

/-- Wherever a trace is cut, the inputs can be cut too. -/
theorem trace_eq_append_cons {s : σ} {inputs : List ι} {earlier later : List (Transition σ ι)}
    {t : Transition σ ι} (h : trace next s inputs = earlier ++ t :: later) :
    ∃ first input second, inputs = first ++ input :: second ∧ earlier = trace next s first ∧
      t = ⟨first.foldl next s, input, next (first.foldl next s) input⟩ ∧
      later = trace next t.after second := by
  induction inputs generalizing s earlier with
  | nil => simp [trace] at h
  | cons input rest ih =>
      cases earlier with
      | nil =>
          simp only [trace, List.nil_append, List.cons.injEq] at h
          obtain ⟨rfl, rfl⟩ := h
          exact ⟨[], input, rest, rfl, rfl, rfl, rfl⟩
      | cons u earlier =>
          simp only [trace, List.cons_append, List.cons.injEq] at h
          obtain ⟨rfl, h⟩ := h
          obtain ⟨first, input', second, rfl, rfl, ht, hl⟩ := ih h
          exact ⟨input :: first, input', second, rfl, rfl, ht, hl⟩

theorem input_mem_of_mem_trace {s : σ} {inputs : List ι} {t : Transition σ ι}
    (h : t ∈ trace next s inputs) : t.input ∈ inputs := by
  rw [← map_input_trace next s inputs]
  exact List.mem_map_of_mem h

/-- An invariant holds before every transition, and every transition is a step of the system. -/
theorem forall_mem_trace (Invariant : σ → Prop) {Permitted : ι → Prop}
    (keeps : ∀ s input, Permitted input → Invariant s → Invariant (next s input))
    {s : σ} (hs : Invariant s) {inputs : List ι} (permitted : ∀ input ∈ inputs, Permitted input) :
    ∀ t ∈ trace next s inputs,
      Invariant t.before ∧ Permitted t.input ∧ t.after = next t.before t.input := by
  induction inputs generalizing s with
  | nil =>
      intro t ht
      cases ht
  | cons input rest ih =>
      intro t ht
      rw [List.forall_mem_cons] at permitted
      rcases List.mem_cons.1 ht with rfl | ht
      · exact ⟨hs, permitted.1, rfl⟩
      · exact ih (keeps s input permitted.1 hs) permitted.2 t ht

/-- A store gives back what it is given, in order: at the end, the items taken and then those still
stored are the items stored at the start and then those given. The law is asked of single
transitions, under an invariant that they keep. -/
theorem trace_conserves (Invariant : σ → Prop) {Permitted : ι → Prop} (stored : σ → List α)
    {taken given : Transition σ ι → Option α}
    (keeps : ∀ s input, Permitted input → Invariant s → Invariant (next s input))
    (law : ∀ s input, Permitted input → Invariant s →
      (taken ⟨s, input, next s input⟩).toList ++ stored (next s input) =
        stored s ++ (given ⟨s, input, next s input⟩).toList)
    {s : σ} (hs : Invariant s) {inputs : List ι} (permitted : ∀ input ∈ inputs, Permitted input) :
    (trace next s inputs).filterMap taken ++ stored (inputs.foldl next s) =
      stored s ++ (trace next s inputs).filterMap given := by
  induction inputs generalizing s with
  | nil => simp [trace]
  | cons input rest ih =>
      rw [List.forall_mem_cons] at permitted
      -- what the first transition leaves stored is what the rest starts with
      have rest_law := ih (keeps s input permitted.1 hs) permitted.2
      have step_law := law s input permitted.1 hs
      simp only [trace, filterMap_cons_eq_append, List.foldl_cons, List.append_assoc]
      rw [rest_law, ← List.append_assoc, step_law, List.append_assoc]

/-- What only the inputs with `Ends` can end holds up to the first of them: after every transition
before it, and before it. -/
theorem trace_holds_until (Holds : σ → Prop) (Ends : ι → Prop) {Permitted : ι → Prop}
    (keeps : ∀ s input, Permitted input → ¬ Ends input → Holds s → Holds (next s input))
    {s : σ} (hs : Holds s) {inputs : List ι} (permitted : ∀ input ∈ inputs, Permitted input)
    {later rest : List (Transition σ ι)} (h : trace next s inputs = later ++ rest)
    (hlater : ∀ t ∈ later, ¬ Ends t.input) :
    (∀ t ∈ later, Holds t.after) ∧ ∀ t tail, rest = t :: tail → Holds t.before := by
  induction later generalizing s inputs with
  | nil =>
      refine ⟨by simp, ?_⟩
      rintro t tail rfl
      cases inputs with
      | nil => simp [trace] at h
      | cons input inputs =>
          simp only [trace, List.nil_append, List.cons.injEq] at h
          obtain ⟨rfl, -⟩ := h
          exact hs
  | cons t later ih =>
      cases inputs with
      | nil => simp [trace] at h
      | cons input inputs =>
          -- the first transition is not the end, so that the induction goes on after it
          simp only [trace, List.cons_append, List.cons.injEq] at h
          obtain ⟨rfl, h⟩ := h
          rw [List.forall_mem_cons] at permitted hlater
          have hnext := keeps s input permitted.1 hlater.1 hs
          obtain ⟨hafter, hbefore⟩ := ih hnext permitted.2 h hlater.2
          exact ⟨List.forall_mem_cons.2 ⟨hnext, hafter⟩, hbefore⟩

private theorem getLast?_append_getD (first : Option α) (later : List α) (value : α) :
    (first.toList ++ later).getLast?.getD value = later.getLast?.getD (first.getD value) := by
  rw [List.getLast?_append, Option.getD_or]
  cases first <;> rfl

/-- A value that every transition either replaces or keeps is at the end the last replacement, or
what it was at the start if there is none. -/
theorem value_foldl (value : σ → α) {given : Transition σ ι → Option α} {Permitted : ι → Prop}
    (law : ∀ s input, Permitted input →
      value (next s input) = (given ⟨s, input, next s input⟩).getD (value s))
    {s : σ} {inputs : List ι} (permitted : ∀ input ∈ inputs, Permitted input) :
    value (inputs.foldl next s) =
      ((trace next s inputs).filterMap given).getLast?.getD (value s) := by
  induction inputs generalizing s with
  | nil => rfl
  | cons input rest ih =>
      rw [List.forall_mem_cons] at permitted
      rw [List.foldl_cons, ih permitted.2, law s input permitted.1, trace, filterMap_cons_eq_append,
        getLast?_append_getD]

/-- Where the input alone tells the replacement, the last input that has one decides. -/
theorem value_foldl_of_input (value : σ → α) {given : ι → Option α} {Permitted : ι → Prop}
    (law : ∀ s input, Permitted input → value (next s input) = (given input).getD (value s))
    {s : σ} {inputs : List ι} (permitted : ∀ input ∈ inputs, Permitted input) :
    value (inputs.foldl next s) = (inputs.filterMap given).getLast?.getD (value s) := by
  have hlast : value (inputs.foldl next s) =
      ((trace next s inputs).filterMap (given ∘ Transition.input)).getLast?.getD (value s) :=
    value_foldl next value law permitted
  rw [hlast, ← List.filterMap_map, map_input_trace]

/-- A view of the state that every input acts on follows the inputs. -/
theorem view_foldl (view : σ → α) {act : α → ι → α} {Permitted : ι → Prop}
    (law : ∀ s input, Permitted input → view (next s input) = act (view s) input)
    {s : σ} {inputs : List ι} (permitted : ∀ input ∈ inputs, Permitted input) :
    view (inputs.foldl next s) = inputs.foldl act (view s) := by
  induction inputs generalizing s with
  | nil => rfl
  | cons input rest ih =>
      rw [List.forall_mem_cons] at permitted
      rw [List.foldl_cons, ih permitted.2, law s input permitted.1, List.foldl_cons]

end Trace

/-! ## What has occurred since -/

section OccursSince

variable {τ : Type} {start p : τ → Prop}

private theorem exists_last {past : List τ} (h : ∃ t ∈ past, start t) :
    ∃ earlier first later, past = earlier ++ first :: later ∧ start first ∧
      ∀ t ∈ later, ¬ start t := by
  induction past with
  | nil => simp at h
  | cons t rest ih =>
      -- a start in the rest is later than one at the head
      by_cases hr : ∃ u ∈ rest, start u
      · obtain ⟨earlier, first, later, rfl, hf, hl⟩ := ih hr
        exact ⟨t :: earlier, first, later, rfl, hf, hl⟩
      · obtain ⟨u, hu, hs⟩ := h
        rcases List.mem_cons.1 hu with rfl | hu
        · refine ⟨[], u, rest, rfl, hs, ?_⟩
          intro v hv hsv
          exact hr ⟨v, hv, hsv⟩
        · exact absurd ⟨u, hu, hs⟩ hr

@[simp]
theorem not_occursSince_nil : ¬ OccursSince start p [] := by
  rintro ⟨earlier, first, later, h, -⟩
  simp at h

/-- One more transition: a new start forgets all, and any other one counts if there was a start. -/
theorem occursSince_concat {past : List τ} {t : τ} :
    OccursSince start p (past ++ [t]) ↔
      ¬ start t ∧ (OccursSince start p past ∨ p t ∧ ∃ u ∈ past, start u) := by
  constructor
  · rintro ⟨earlier, first, later, h, hf, hl, u, hu, hp⟩
    -- `later` has an element, so `t` is its last one and the rest of it is in `past`
    rcases List.eq_nil_or_concat later with rfl | ⟨later, v, rfl⟩
    · simp at hu
    · rw [List.concat_eq_append] at h hl hu
      rw [← List.cons_append, ← List.append_assoc] at h
      obtain ⟨rfl, hv⟩ := List.append_inj' h rfl
      obtain rfl : t = v := by simpa using hv
      refine ⟨hl t (by simp), ?_⟩
      rcases List.mem_append.1 hu with hu | hu
      · refine .inl ⟨earlier, first, later, rfl, hf, ?_, u, hu, hp⟩
        intro w hw
        exact hl w (List.mem_append_left _ hw)
      · obtain rfl : u = t := by simpa using hu
        exact .inr ⟨hp, first, by simp, hf⟩
  · rintro ⟨ht, ⟨earlier, first, later, rfl, hf, hl, u, hu, hp⟩ | ⟨hp, hs⟩⟩
    · refine ⟨earlier, first, later ++ [t], by simp, hf, ?_, u, by simp [hu], hp⟩
      simpa [or_imp, forall_and] using ⟨hl, ht⟩
    · obtain ⟨earlier, first, later, rfl, hf, hl⟩ := exists_last hs
      refine ⟨earlier, first, later ++ [t], by simp, hf, ?_, t, by simp, hp⟩
      simpa [or_imp, forall_and] using ⟨hl, ht⟩

end OccursSince

section Latch

variable {σ ι : Type} (next : σ → ι → σ)

/-- A flag that is set now and was clear at the start has risen. -/
theorem exists_rises {flag : σ → Bool} {s : σ} (hs : flag s = false) {inputs : List ι}
    (h : flag (inputs.foldl next s) = true) : ∃ t ∈ trace next s inputs, t.Rises flag := by
  induction inputs generalizing s with
  | nil =>
      rw [List.foldl_nil, hs] at h
      cases h
  | cons input rest ih =>
      cases hn : flag (next s input) with
      | true => exact ⟨_, List.mem_cons_self, hs, hn⟩
      | false =>
          obtain ⟨t, ht, hr⟩ := ih hn h
          exact ⟨t, List.mem_cons_of_mem _ ht, hr⟩

/-- A latch that `notes` set while a flag is set, and that falls with the flag, is set exactly when
the flag is and a note has occurred since it rose. -/
theorem latch_iff_occursSince (flag latch : σ → Bool) (notes : Transition σ ι → Prop)
    {Permitted : ι → Prop}
    (law : ∀ s input, Permitted input → (latch s = true → flag s = true) →
      (latch (next s input) = true ↔ flag (next s input) = true ∧
        (latch s = true ∨ flag s = true ∧ notes ⟨s, input, next s input⟩)))
    {s : σ} (hflag : flag s = false) (hlatch : latch s = false) {inputs : List ι}
    (permitted : ∀ input ∈ inputs, Permitted input) :
    latch (inputs.foldl next s) = true ↔
      flag (inputs.foldl next s) = true ∧
        OccursSince (Transition.Rises flag) notes (trace next s inputs) := by
  induction inputs using List.reverseRecOn with
  | nil => simp [trace, hlatch]
  -- on the inputs from the end, since the past grows there
  | append_singleton inputs input ih =>
      rw [List.forall_mem_append, List.forall_mem_singleton] at permitted
      have ih := ih permitted.1
      have step := law _ input permitted.2 fun h => (ih.1 h).1
      rw [trace_concat, occursSince_concat, List.foldl_append, List.foldl_cons, List.foldl_nil, step]
      refine and_congr_right fun hafter => ?_
      cases hbefore : flag (inputs.foldl next s) with
      | false =>
          -- the flag rises here, so that neither side can hold
          have hnot : ¬ latch (inputs.foldl next s) = true := by simp [ih, hbefore]
          simp [hnot, Transition.Rises, hbefore, hafter]
      | true =>
          -- the flag rose before, and does not rise again here
          have hrose := exists_rises next hflag hbefore
          have hnow : ¬ Transition.Rises flag
              ⟨inputs.foldl next s, input, next (inputs.foldl next s) input⟩ := by
            rintro ⟨hclear, -⟩
            exact Bool.false_ne_true (hclear.symm.trans hbefore)
          simp [ih, hbefore, hnow, hrose]

end Latch

/-! ## Flags that only clear -/

section Clearing

variable {σ ι : Type} (next : σ → ι → σ)

/-- A flag that nothing sets is set as long as no input that clears it has come. -/
theorem flag_foldl_of_clears (flag : σ → Bool) {clears : ι → Bool}
    (law : ∀ s input, flag (next s input) = (flag s && !clears input)) (s : σ) (inputs : List ι) :
    flag (inputs.foldl next s) = (flag s && !inputs.any clears) := by
  induction inputs generalizing s with
  | nil => exact (Bool.and_true _).symm
  | cons input rest ih =>
      rw [List.foldl_cons, ih, law, List.any_cons, Bool.not_or, Bool.and_assoc]

/-- A flag that nothing sets, and that `clear` clears under a latch, is cleared when the latch is
set at the start and `clear` comes, or when `note`, which sets the latch, comes and then `clear`. -/
theorem flag_foldl_of_latch [DecidableEq ι] (flag latch : σ → Bool) {note clear : ι}
    (flag_law : ∀ s input, flag (next s input) = (flag s && !(input == clear && latch s)))
    (latch_law : ∀ s input, flag (next s input) = true →
      (latch (next s input) = true ↔ latch s = true ∨ input = note)) (s : σ) (inputs : List ι) :
    flag (inputs.foldl next s) = true ↔
      flag s = true ∧
        ¬ (latch s = true ∧ clear ∈ inputs ∨ [note, clear].Sublist inputs) := by
  induction inputs generalizing s with
  | nil => simp
  | cons input rest ih =>
      have hsequence : [note, clear].Sublist (input :: rest) ↔
          [note, clear].Sublist rest ∨ input = note ∧ clear ∈ rest := by
        simp [List.sublist_cons_iff, eq_comm]
      rw [List.foldl_cons, ih, hsequence, List.mem_cons]
      cases hnext : flag (next s input) with
      | false =>
          -- the flag was clear already, or this is the input that clears it
          have hcleared := (flag_law s input).symm.trans hnext
          simp only [Bool.and_eq_false_iff, Bool.not_eq_false', Bool.and_eq_true, beq_iff_eq]
            at hcleared
          rcases hcleared with hclear | ⟨rfl, hlatch⟩
          · simp [hclear]
          · simp [hlatch]
      | true =>
          have hset := (flag_law s input).symm.trans hnext
          simp only [Bool.and_eq_true, Bool.not_eq_true', Bool.and_eq_false_iff,
            beq_eq_false_iff_ne] at hset
          obtain ⟨hflag, hkept⟩ := hset
          rw [latch_law s input hnext, hflag]
          refine and_congr_right fun _ => not_congr ?_
          rcases hkept with hinput | hlatch
          · simp only [Ne.symm hinput, false_or]
            rw [or_and_right, or_assoc]
            exact or_congr_right or_comm
          · simp [hlatch, or_comm]

end Clearing

end SpiController
