import SpiController.Proofs.Simulator.Session

/-!
# No word is lost silently

The receive buffer is a store for one word. Every word that arrives while it is empty is read once,
in order and unaltered, or waits to be read. Every other word is lost, and the overrun flag says so
until the status register is read.
-/

namespace SpiController.Simulator

/-- The word that waits to be read. -/
def pending (s : Simulator) : List Word :=
  if s.flag .rxNotEmpty then [s.data] else []

/-- The word that a read of the data register returns while one waits to be read. -/
def taken? (t : Transition Simulator Event) : Option Word :=
  if t.input = .read .data ∧ t.before.flag .rxNotEmpty = true then some (t.before.read .data).1
  else none

/-- The word that arrives in a transition. -/
def arriving? (t : Transition Simulator Event) : Option Word :=
  t.before.arrival? t.input

/-- A word arrives while another one waits to be read. -/
def LosesWord (t : Transition Simulator Event) : Prop :=
  (arriving? t).isSome = true ∧ t.before.flag .rxNotEmpty = true

instance : DecidablePred LosesWord :=
  fun _ => inferInstanceAs (Decidable (_ ∧ _))

variable {s : Simulator} {event : Event}

/-- A word waits after an event if one arrived, or if one waited and was not read. -/
theorem flag_rxNotEmpty_undergo (h : event.Avoids [.rxNotEmpty] [.status]) :
    (s.undergo event).flag .rxNotEmpty = true ↔
      (s.flag .rxNotEmpty = true ∧ event ≠ .read .data) ∨ (s.arrival? event).isSome = true := by
  have hraise : event ≠ .stimulus (.raise .rxNotEmpty) := by
    rintro rfl
    exact h (List.mem_singleton_self _)
  have hclears : s.clears .rxNotEmpty event = true ↔ event = .read .data := by
    simp [clears_iff]
  have hsets : s.sets .rxNotEmpty event = true ↔ (s.arrival? event).isSome = true := by
    simp [sets_iff, hraise]
  rw [s.flag_undergo (h.mono (by simp) (by simp)), Bool.or_eq_true, Bool.and_eq_true,
    Bool.not_eq_true', ← Bool.not_eq_true, hclears, hsets]

theorem pending_of_flag (h : s.flag .rxNotEmpty = true) : s.pending = [s.data] :=
  if_pos h

theorem pending_of_not_flag (h : ¬ s.flag .rxNotEmpty = true) : s.pending = [] :=
  if_neg h

/-- The receive buffer gives back what it is given, at every event. -/
theorem taken_append_pending (h : event.Avoids [.rxNotEmpty] [.status, .data]) :
    (taken? ⟨s, event, s.undergo event⟩).toList ++ (s.undergo event).pending =
      s.pending ++ (if LosesWord ⟨s, event, s.undergo event⟩ then none
        else arriving? ⟨s, event, s.undergo event⟩).toList := by
  have hflag := flag_rxNotEmpty_undergo (s := s) (h.mono (List.Subset.refl _) (by simp))
  have hdata := s.data_undergo (h.mono (by simp) (by simp))
  by_cases hread : event = .read .data
  · subst hread
    -- a read takes the word that waits, and nothing arrives with it
    have hempty : ¬ (s.undergo (.read .data)).flag .rxNotEmpty = true := by
      simp [hflag, arrival?, completed?]
    have harriving : arriving? ⟨s, .read .data, s.undergo (.read .data)⟩ = none := rfl
    rw [pending_of_not_flag hempty, harriving, ite_self]
    by_cases hbefore : s.flag .rxNotEmpty = true
    · have htaken : taken? ⟨s, .read .data, s.undergo (.read .data)⟩ = some s.data :=
        if_pos ⟨rfl, hbefore⟩
      rw [pending_of_flag hbefore, htaken]
      rfl
    · have htaken : taken? ⟨s, .read .data, s.undergo (.read .data)⟩ = none := by
        apply if_neg
        rintro ⟨-, hfull⟩
        exact hbefore hfull
      rw [pending_of_not_flag hbefore, htaken]
      rfl
  · have htaken : taken? ⟨s, event, s.undergo event⟩ = none := by
      apply if_neg
      rintro ⟨hinput, -⟩
      exact hread hinput
    rw [htaken]
    by_cases hbefore : s.flag .rxNotEmpty = true
    · have hafter : (s.undergo event).flag .rxNotEmpty = true := hflag.2 (.inl ⟨hbefore, hread⟩)
      -- the buffer is full and stays as it is, and what arrives is lost
      have hlost : (if LosesWord ⟨s, event, s.undergo event⟩ then none
          else arriving? ⟨s, event, s.undergo event⟩) = none := by
        cases harrival : s.arrival? event with
        | none => simp [arriving?, harrival]
        | some word => simp [LosesWord, arriving?, harrival, hbefore]
      rw [pending_of_flag hbefore, pending_of_flag hafter, hlost, hdata, if_pos hbefore]
      rfl
    · have hkept : ¬ LosesWord ⟨s, event, s.undergo event⟩ := by
        rintro ⟨-, hfull⟩
        exact hbefore hfull
      -- the buffer is empty and takes what arrives
      rw [pending_of_not_flag hbefore, if_neg hkept, arriving?]
      cases harrival : s.arrival? event with
      | none =>
          have hafter : ¬ (s.undergo event).flag .rxNotEmpty = true := by
            simp [hflag, hbefore, harrival]
          rw [pending_of_not_flag hafter]
          rfl
      | some word =>
          have hafter : (s.undergo event).flag .rxNotEmpty = true := by simp [hflag, harrival]
          rw [pending_of_flag hafter, hdata, if_neg hbefore, harrival]
          rfl

/-- From any state on, the words taken and then the one that waits are the one that waited at first
and then all arrivals that are not lost. -/
theorem taken_trace (s : Simulator) {inputs : List Event}
    (permitted : ∀ event ∈ inputs, event.Avoids [.rxNotEmpty] [.status, .data]) :
    (trace undergo s inputs).filterMap taken? ++ (inputs.foldl undergo s).pending =
      s.pending ++
        ((trace undergo s inputs).filter fun t => ¬ LosesWord t).filterMap arriving? := by
  rw [List.filterMap_filter]
  -- an arrival counts as given unless it is lost
  simp only [decide_eq_true_eq, ite_not]
  exact trace_conserves undergo (fun _ => True) pending (fun _ _ _ _ => trivial)
    (fun _ _ h _ => taken_append_pending h) trivial permitted

/-! ## The overrun flag -/

/-- A lost word raises the overrun flag. -/
theorem flag_overrun_of_losesWord (h : event.Avoids [] [.status])
    (hlost : LosesWord ⟨s, event, s.undergo event⟩) :
    (s.undergo event).flag .overrun = true := by
  obtain ⟨harrival, hfull⟩ := hlost
  have hsets : s.sets .overrun event = true :=
    (s.sets_iff event .overrun).2 (.inr (.inr (.inl ⟨harrival, .inr ⟨rfl, hfull⟩⟩)))
  rw [s.flag_undergo h, hsets, Bool.or_true]

/-- Nothing but a status read clears the overrun flag. -/
theorem flag_overrun_undergo (h : event.Avoids [] [.status]) (hread : event ≠ .read .status)
    (hflag : s.flag .overrun = true) : (s.undergo event).flag .overrun = true := by
  have hclears : ¬ s.clears .overrun event = true := by simp [clears_iff, hread]
  rw [s.flag_undergo h, hflag, Bool.eq_false_iff.2 hclears]
  rfl

/-- Reception in a session that leaves the receive buffer and the status register to the bus and the
transfers. The words read while one waits, and then the one still waiting, are the arrivals in order
without those lost. After a lost word the overrun flag is set, and it stays so up to the next status
read, which shows it. -/
theorem reception_session (steps : List Step)
    (permitted : ∀ step ∈ steps, step.Avoids [.rxNotEmpty] [.status, .data]) :
    (initial.history steps).filterMap taken? ++ (steps.foldl proceed initial).pending =
        ((initial.history steps).filter fun t => ¬ LosesWord t).filterMap arriving? ∧
      ∀ earlier lost later rest, initial.history steps = earlier ++ lost :: (later ++ rest) →
        LosesWord lost → (∀ t ∈ later, t.input ≠ .read .status) →
          (∀ t ∈ lost :: later, t.after.flag .overrun = true) ∧
            ∀ t tail, rest = t :: tail → t.input = .read .status →
              (Status.mk (t.before.read .status).1).isSet .overrun = true := by
  have havoids := initial.avoids_of_mem_events permitted
  rw [history_eq_trace, foldl_proceed]
  refine ⟨taken_trace initial havoids, ?_⟩
  intro earlier lost later rest h hlost hlater
  -- the run is cut at the lost word, and what follows it is a run of its own
  obtain ⟨first, event, second, hevents, -, rfl, hsecond⟩ := trace_eq_append_cons undergo h
  have hnow := havoids event (by simp [hevents])
  have hthen : ∀ e ∈ second, e.Avoids [] [.status] := by
    intro e he
    exact (havoids e (by simp [hevents, he])).mono (by simp) (by simp)
  have hraised := flag_overrun_of_losesWord (hnow.mono (by simp) (by simp)) hlost
  obtain ⟨hafter, hbefore⟩ := trace_holds_until undergo (fun s => s.flag .overrun = true)
    (· = .read .status) (fun _ _ h hread hflag => flag_overrun_undergo h hread hflag) hraised hthen
    hsecond.symm hlater
  constructor
  · exact List.forall_mem_cons.2 ⟨hraised, hafter⟩
  · intro t tail hrest _
    exact hbefore t tail hrest

/-- Of two words delivered in a row and read after that, the first one is read. -/
theorem reception_of_two_deliveries :
    (∀ step ∈ [Step.stimulus (.deliver 0x11), .stimulus (.deliver 0x22), .request (.port .receive)],
        step.Avoids [.rxNotEmpty] [.status, .data]) ∧
      (initial.history [.stimulus (.deliver 0x11), .stimulus (.deliver 0x22),
          .request (.port .receive)]).filterMap taken? ++
        ([Step.stimulus (.deliver 0x11), .stimulus (.deliver 0x22),
          .request (.port .receive)].foldl proceed initial).pending = [0x11] := by
  have h : ∀ step ∈ [Step.stimulus (.deliver 0x11), .stimulus (.deliver 0x22),
      .request (.port .receive)], step.Avoids [.rxNotEmpty] [.status, .data] := by
    simp [Step.Avoids, Stimulus.Avoids]
  exact ⟨h, (reception_session _ h).1.trans (by decide)⟩

end SpiController.Simulator
