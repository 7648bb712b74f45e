import Mathlib.Algebra.Group.Nat.Defs
import SpiController.Proofs.Configuration
import SpiController.Proofs.Refusal
import SpiController.Proofs.Simulator.Session

/-!
# Words come back over the loop

A peripheral that was configured and enabled takes a word, sends it for the clock cycles of a frame,
and has it back in the receive buffer. The cycles may come in any portions, and calls made too early
are refused and change nothing. So words that are handed over one at a time are all read back, in
order, as far as a frame carries them (`loopback_session`).

One round passes through three kinds of states: `Idle` until the word is handed over, `Sending`
while the clock runs, and `Arrived` until the word is read. Every step of a round has one lemma.
-/

namespace SpiController.Simulator

/-! ## Rounds -/

/-- A word, by the calls that hand it over and read it back. -/
inductive Parcel where
  | word (value : Word)
  | byte (value : BitVec 8)
  | halfword (value : Word)

namespace Parcel

/-- The call that hands the word over. -/
def send : Parcel → Operation
  | word value => .writeOne value
  | byte value => .writeByte value
  | halfword value => .writeHalfword value

/-- The call that reads the word back. -/
def receive : Parcel → Operation
  | word _ => .readOne
  | byte _ => .readByte
  | halfword _ => .readHalfword

/-- What the last call answers under a frame length. A byte always comes back, and a halfword does
over long frames. -/
def receipt (length : FrameLength) : Parcel → Reply
  | word value => .received (.moved (value &&& length.wordMask))
  | byte value => .receivedByte (.moved value)
  | halfword value =>
      match length with
      | .bits8 => .received (.moved (value &&& 0x00ff))
      | .bits16 => .received (.moved value)

end Parcel

/-- What happens while a word is sent, from `total` cycles on: the clock runs in portions, up to the
end of the frame at least, and before that end calls for words may be made. All cycles together fit
32 bits. -/
def Waits (length : FrameLength) : Nat → List Step → Prop
  | total, [] => length.cycles.toNat ≤ total
  | total, .stimulus (.clock cycles) :: rest =>
      total + cycles.toNat < 2 ^ 32 ∧ Waits length (total + cycles.toNat) rest
  | total, .request (.port operation) :: rest =>
      total < length.cycles.toNat ∧ operation.MovesWord ∧ Waits length total rest
  | _, _ :: _ => False

/-- What a step answers while a word is sent: the clock has no answer, and calls are refused. -/
def waitingAnswer : Step → Except Fault Answer
  | .request (.port operation) => .ok (.reply operation.refusal)
  | _ => .ok (.reply .none)

/-- A word goes round: it is handed over, sent and read back. -/
structure Round where
  parcel : Parcel
  waiting : List Step

namespace Round

/-- The steps of a round. What happens while the word is sent stands between the two calls. -/
def steps (round : Round) : List Step :=
  .request (.port round.parcel.send) :: (round.waiting ++ [.request (.port round.parcel.receive)])

/-- What the steps of a round answer: the word is taken, calls made too early are refused, and the
word comes back. -/
def answers (length : FrameLength) (round : Round) : List (Except Fault Answer) :=
  .ok (.reply (.sent (.moved ()))) ::
    (round.waiting.map waitingAnswer ++ [.ok (.reply (round.parcel.receipt length))])

end Round

/-- What a session answers, step by step. -/
def answers (s : Simulator) (steps : List Step) : List (Except Fault Answer) :=
  (s.session steps).map (·.answer)

theorem answers_cons (s : Simulator) (step : Step) (rest : List Step) :
    s.answers (step :: rest) = (s.perform step).answer :: (s.proceed step).answers rest := rfl

theorem answers_append (s : Simulator) (first second : List Step) :
    s.answers (first ++ second) = s.answers first ++ (first.foldl proceed s).answers second := by
  simp only [answers, session_eq_map_trace, trace_append, List.map_append]

/-! ## The states of a round -/

/-- The peripheral is enabled and has the frame length. -/
structure Runs (length : FrameLength) (s : Simulator) : Prop where
  enabled : s.enabled = true
  frameLength : s.frameLength = length

/-- There is room for a word, and nothing else to tell. -/
structure Idle (length : FrameLength) (s : Simulator) : Prop extends Runs length s where
  flags : ∀ f, s.flag f = (f == .txEmpty)

/-- The word has been sent for `total` cycles, and only the busy flag is set. -/
structure Sending (length : FrameLength) (word : Word) (total : Nat) (s : Simulator) : Prop
    extends Runs length s where
  flags : ∀ f, s.flag f = (f == .busy)
  inFlight : s.inFlight = some word
  elapsed : s.elapsed.toNat = total

/-- The word is back and waits to be read, and there is room for the next one. -/
structure Arrived (length : FrameLength) (word : Word) (s : Simulator) : Prop
    extends Runs length s where
  flags : ∀ f, s.flag f = (f == .txEmpty || f == .rxNotEmpty)
  inFlight : s.inFlight = none
  data : s.data = word &&& length.wordMask

variable {length : FrameLength} {word : Word} {total : Nat} {s : Simulator}

theorem Runs.of_control1 {t : Simulator} (hs : s.Runs length) (h : t.control1 = s.control1) :
    t.Runs length := by
  obtain ⟨henabled, hlength⟩ := hs
  constructor
  · rw [Simulator.enabled, h]
    exact henabled
  · rw [Simulator.frameLength, h]
    exact hlength

/-- Without error flags, the status shows no error. -/
theorem error_eq_none_of_flags {shown : StatusFlag → Bool} (h : ∀ f, s.flag f = shown f)
    (herrors : ∀ error : TransferError, shown error.flag = false) :
    (Status.mk s.status).error = none := by
  rw [Status.error_eq_none_iff]
  intro error
  exact (h error.flag).trans (herrors error)

/-! ## Handing over -/

theorem Idle.send (hs : s.Idle length) {operation : Operation}
    (hword : operation.word? = some word) :
    (operation.program.run s).result = .sent (.moved ()) ∧
      (operation.program.run s).state.Sending length word 0 := by
  have herror : (Status.mk s.status).error = none :=
    error_eq_none_of_flags hs.flags fun error => by cases error <;> rfl
  have hready : s.flag .txEmpty = true := hs.flags .txEmpty
  have hrun := Port.run_whenReady_of_ready (Port.transmit word) (s := s) herror hready
  rw [Operation.program_of_word? hword, Program.run_map, Port.writeOne, hrun]
  refine ⟨rfl, ?_⟩
  have hstate : ((Port.transmit word).run s.afterStatusRead).state = s.write .data word := by
    rw [afterStatusRead_of_error_eq_none herror]
    rfl
  have hwrite : s.write .data word =
      { s with
        status := (s.write .data word).status
        inFlight := some word
        elapsed := 0
        writes := s.writes ++ [(.data, word)] } :=
    storeData_eq _ word
  change ((Port.transmit word).run s.afterStatusRead).state.Sending length word 0
  rw [hstate]
  refine ⟨hs.toRuns.of_control1 ?_, ?_, ?_, ?_⟩
  · rw [hwrite]
  · intro f
    rw [flag_write, hs.flags, clears, sets, hs.enabled]
    cases f <;> rfl
  · rw [hwrite]
  · rw [hwrite]
    rfl

/-! ## Waiting -/

/-- While the word is sent, a call changes nothing and is refused. -/
theorem Sending.call (hs : s.Sending length word total) {operation : Operation}
    (hmoves : operation.MovesWord) :
    (operation.program.run s).result = operation.refusal ∧ (operation.program.run s).state = s := by
  have herror : (Status.mk s.status).error = none :=
    error_eq_none_of_flags hs.flags fun error => by cases error <;> rfl
  exact run_of_not_ready hmoves herror (hs.flags .rxNotEmpty) (hs.flags .txEmpty)

/-- At the end of its frame, the word arrives back. -/
theorem Sending.complete (hs : s.Sending length word total) :
    (s.complete word).Arrived length word := by
  have hempty : s.flag .rxNotEmpty = false := hs.flags .rxNotEmpty
  have hcontrol : (s.complete word).control1 = Control1.crcNext.write false s.control1 := by
    rw [complete_eq]
  refine ⟨⟨?_, ?_⟩, ?_, s.inFlight_complete word, ?_⟩
  -- dropping the request for the CRC keeps the enable bit and the frame length
  · rw [enabled, hcontrol, Field.read_write_of_disjoint (by decide)]
    exact hs.enabled
  · rw [frameLength, hcontrol, FrameLength.ofControl, Field.read_write_of_disjoint (by decide)]
    exact hs.frameLength
  · intro f
    rw [flag_complete, hs.flags, hempty]
    cases f <;> rfl
  · rw [complete_eq, hempty, ← hs.frameLength]
    rfl

/-- After `total` cycles the word is still on its way, or it has arrived. -/
def Underway (length : FrameLength) (word : Word) (total : Nat) (s : Simulator) : Prop :=
  (total < length.cycles.toNat ∧ s.Sending length word total) ∨
    (length.cycles.toNat ≤ total ∧ s.Arrived length word)

theorem Underway.clock (hs : s.Underway length word total) {cycles : BitVec 32}
    (hfits : total + cycles.toNat < 2 ^ 32) :
    ∃ t, s.clock cycles = .ok t ∧ t.Underway length word (total + cycles.toNat) := by
  rcases hs with ⟨hbefore, hs⟩ | ⟨hover, hs⟩
  · have hadd : (s.elapsed + cycles).toNat = total + cycles.toNat := by
      rw [BitVec.toNat_add, hs.elapsed]
      exact Nat.mod_eq_of_lt hfits
    cases hclock : s.clock cycles with
    | error fault =>
        -- the count of cycles would have to outgrow its 32 bits
        obtain ⟨-, -, hoverflow, -⟩ := (s.clock_eq_error_iff cycles fault).1 hclock
        simp only [BitVec.uaddOverflow, hs.elapsed, decide_eq_true_eq] at hoverflow
        omega
    | ok t =>
        refine ⟨t, rfl, ?_⟩
        rcases s.clock_cases hclock with ⟨-, hdisabled | hidle⟩ | ⟨other, hticks, hlt, rfl⟩ |
          ⟨other, hticks, hge, rfl⟩
        · rw [hs.enabled] at hdisabled
          cases hdisabled
        · rw [hs.inFlight] at hidle
          cases hidle
        · rw [BitVec.lt_def, hadd, hs.frameLength] at hlt
          exact .inl ⟨hlt, hs.toRuns.of_control1 rfl, hs.flags, hs.inFlight, hadd⟩
        · obtain rfl : word = other := Option.some.inj (hs.inFlight.symm.trans hticks.2.1)
          rw [BitVec.le_def, hadd, hs.frameLength] at hge
          exact .inr ⟨hge, hs.complete⟩
  -- the clock does nothing to a word that has arrived
  · exact ⟨s, s.clock_of_idle cycles hs.inFlight, .inr ⟨Nat.le_add_right_of_le hover, hs⟩⟩

/-- Whatever the portions of cycles and the calls in between, after a whole frame the word has
arrived. -/
theorem Underway.wait (hs : s.Underway length word total) {waiting : List Step}
    (h : Waits length total waiting) :
    s.answers waiting = waiting.map waitingAnswer ∧
      (waiting.foldl proceed s).Arrived length word := by
  induction waiting generalizing s total with
  | nil =>
      rcases hs with ⟨hbefore, -⟩ | ⟨-, hs⟩
      · exact absurd h (Nat.not_le.2 hbefore)
      · exact ⟨rfl, hs⟩
  | cons step rest ih =>
      cases step with
      | request request =>
          cases request with
          | port operation =>
              obtain ⟨hbefore, hmoves, hrest⟩ := h
              have hsending : s.Sending length word total := by
                rcases hs with ⟨-, hs⟩ | ⟨hover, -⟩
                · exact hs
                · exact absurd hbefore (Nat.not_lt.2 hover)
              obtain ⟨hresult, hstate⟩ := hsending.call hmoves
              have hproceed : s.proceed (.request (.port operation)) = s := hstate
              obtain ⟨hanswers, harrived⟩ := ih hs hrest
              rw [answers_cons, List.foldl_cons, hproceed, hanswers]
              refine ⟨congrArg (· :: rest.map waitingAnswer) ?_, harrived⟩
              exact congrArg (fun reply => Except.ok (Answer.reply reply)) hresult
          | read address => exact h.elim
          | write address value => exact h.elim
          | modify address keep set => exact h.elim
      | stimulus change =>
          cases change with
          | clock cycles =>
              obtain ⟨hfits, hrest⟩ := h
              obtain ⟨t, hclock, ht⟩ := hs.clock hfits
              have hperform : s.perform (.stimulus (.clock cycles)) =
                  .offBus (.ok (.reply .none)) t := by
                simp only [perform, stimulate, hclock]
              have hproceed : s.proceed (.stimulus (.clock cycles)) = t :=
                congrArg Report.state hperform
              obtain ⟨hanswers, harrived⟩ := ih ht hrest
              rw [answers_cons, List.foldl_cons, hproceed, hperform, hanswers]
              exact ⟨rfl, harrived⟩
          | deliver word => exact h.elim
          | raise flag => exact h.elim
          | poke address value => exact h.elim
          | forgetWrites => exact h.elim
      | inspection inspection => exact h.elim

/-! ## Reading back -/

theorem Arrived.readOne (hs : s.Arrived length word) :
    (Port.readOne.run s).result = .moved (word &&& length.wordMask) ∧
      (Port.readOne.run s).state.Idle length := by
  have herror : (Status.mk s.status).error = none :=
    error_eq_none_of_flags hs.flags fun error => by cases error <;> rfl
  have hready : s.flag .rxNotEmpty = true := hs.flags .rxNotEmpty
  have hrun := Port.run_whenReady_of_ready Port.receive (s := s) herror hready
  have hquiet : (Device.read s .status).2 = s := afterStatusRead_of_error_eq_none herror
  rw [Port.readOne, hrun]
  simp only [hquiet, run_receive, hs.data]
  refine ⟨trivial, hs.toRuns.of_control1 ?_, ?_⟩
  · rw [afterDataRead_eq]
    rfl
  · intro f
    rw [flag_afterDataRead, hs.flags]
    cases f <;> rfl

/-- A byte survives the zeros above it and the mask of either frame length. -/
theorem setWidth_and_wordMask (byte : BitVec 8) (length : FrameLength) :
    (byte.setWidth 16 &&& length.wordMask).setWidth 8 = byte := by
  have hmask : length.wordMask.setWidth 8 = BitVec.allOnes 8 := by cases length <;> decide
  rw [BitVec.setWidth_and, hmask, BitVec.and_allOnes,
    BitVec.setWidth_setWidth_of_le byte (by omega), BitVec.setWidth_eq]

theorem Arrived.receive {parcel : Parcel} (hs : s.Arrived length word)
    (hword : parcel.send.word? = some word) :
    (parcel.receive.program.run s).result = parcel.receipt length ∧
      (parcel.receive.program.run s).state.Idle length := by
  obtain ⟨hresult, hidle⟩ := hs.readOne
  cases parcel with
  | word value =>
      obtain rfl : value = word := Option.some.inj hword
      have hprogram : (Parcel.word value).receive.program = Reply.received <$> Port.readOne := rfl
      rw [hprogram, Program.run_map, hresult]
      exact ⟨rfl, hidle⟩
  | byte value =>
      obtain rfl : value.setWidth 16 = word := Option.some.inj hword
      have hprogram : (Parcel.byte value).receive.program = _ <$> Port.readOne :=
        Port.map_readWidth 8 Reply.receivedByte
      rw [hprogram, Program.run_map, hresult]
      refine ⟨?_, hidle⟩
      simp only [Attempt.map, setWidth_and_wordMask, Parcel.receipt]
  | halfword value =>
      obtain rfl : value = word := Option.some.inj hword
      have hprogram : (Parcel.halfword value).receive.program = _ <$> Port.readOne :=
        Port.map_readWidth 16 Reply.received
      rw [hprogram, Program.run_map, hresult]
      refine ⟨?_, hidle⟩
      cases length with
      | bits8 => simp only [Attempt.map, BitVec.setWidth_eq, Parcel.receipt, FrameLength.wordMask]
      | bits16 =>
          have hmask : FrameLength.bits16.wordMask = BitVec.allOnes 16 := by decide
          simp only [Attempt.map, BitVec.setWidth_eq, Parcel.receipt, hmask, BitVec.and_allOnes]

/-! ## Rounds -/

/-- A round answers as it should and leaves room for the next one. -/
theorem Idle.round (hs : s.Idle length) {round : Round} (h : Waits length 0 round.waiting) :
    s.answers round.steps = round.answers length ∧ (round.steps.foldl proceed s).Idle length := by
  obtain ⟨parcel, waiting⟩ := round
  have hword : ∃ word, parcel.send.word? = some word := by
    cases parcel with
    | word value => exact ⟨_, rfl⟩
    | byte value => exact ⟨_, rfl⟩
    | halfword value => exact ⟨_, rfl⟩
  obtain ⟨word, hword⟩ := hword
  obtain ⟨hsent, hsending⟩ := hs.send hword
  have hunderway : (s.proceed (.request (.port parcel.send))).Underway length word 0 :=
    .inl ⟨by cases length <;> decide, hsending⟩
  obtain ⟨hwaiting, harrived⟩ := hunderway.wait h
  obtain ⟨hreceived, hidle⟩ := harrived.receive hword
  constructor
  · rw [Round.steps, answers_cons, answers_append, hwaiting]
    exact congrArg₂ (fun first last => Except.ok (Answer.reply first) ::
      (waiting.map waitingAnswer ++ [Except.ok (Answer.reply last)])) hsent hreceived
  · rw [Round.steps, List.foldl_cons, List.foldl_append]
    exact hidle

theorem Idle.rounds (hs : s.Idle length) {rounds : List Round}
    (h : ∀ round ∈ rounds, Waits length 0 round.waiting) :
    s.answers (rounds.flatMap Round.steps) = rounds.flatMap (Round.answers length) := by
  induction rounds generalizing s with
  | nil => rfl
  | cons round rest ih =>
      rw [List.forall_mem_cons] at h
      obtain ⟨hround, hidle⟩ := hs.round h.1
      rw [List.flatMap_cons, answers_append, hround, ih hidle h.2, List.flatMap_cons]

/-! ## Sessions -/

/-- Without a mode fault, a write of control register 1 stores the word and does no more. -/
theorem write_control1_of_not_flag (h : s.flag .modeFault = false) (value : Word) :
    s.write .control1 value =
      { s with
        control1 := value
        writes := s.writes ++ [(.control1, value)] } := by
  have hflag : ({ s with
      control1 := value
      writes := s.writes ++ [(.control1, value)] } : Simulator).flag .modeFault = false := h
  rw [write, store, storeControl1, settleModeFault]
  simp only [hflag, Bool.false_and, Bool.false_eq_true, if_false]

/-- The peripheral is configured and enabled. -/
def setUp (c : Config) : List Step :=
  [.request (.port (.configure c)), .request (.port .enable)]

theorem idle_setUp (c : Config) : ((setUp c).foldl proceed initial).Idle c.frameLength := by
  -- neither of the two writes of control register 1 finds a mode fault
  have hinitial : ∀ f, initial.flag f = (f == .txEmpty) := by
    intro f
    cases f <;> decide
  obtain ⟨s, hs⟩ : ∃ s, s = initial.proceed (.request (.port (.configure c))) := ⟨_, rfl⟩
  have hwrites :
      s = (initial.write .control1 (c.apply 0)).write .crcPolynomial c.crcPolynomial := hs
  have hcontrol : s.control1 = c.apply 0 := by
    rw [hwrites, write_control1_of_not_flag (hinitial .modeFault)]
    rfl
  have hflags : ∀ f, s.flag f = (f == .txEmpty) := by
    rw [hwrites, write_control1_of_not_flag (hinitial .modeFault)]
    exact hinitial
  have henable : (setUp c).foldl proceed initial =
      s.write .control1 (Control1.enabled.write true s.control1) := by
    rw [hs]
    rfl
  rw [henable, write_control1_of_not_flag (hflags .modeFault)]
  refine ⟨⟨?_, ?_⟩, hflags⟩
  · exact Field.read_write Control1.enabled true s.control1
  · have hlength : FrameLength.ofControl (c.apply 0) = c.frameLength :=
      congrArg Config.frameLength (c.decode_apply 0)
    rw [← hlength, frameLength, FrameLength.ofControl, Field.read_write_of_disjoint (by decide),
      hcontrol, FrameLength.ofControl]

/-- The step brought a word back. -/
def bringsWord : Except Fault Answer → Bool
  | .ok (.reply (.received (.moved _))) | .ok (.reply (.receivedByte (.moved _))) => true
  | _ => false

/-- Of all answers in a round, the last one brings a word. -/
theorem Round.filter_answers (round : Round) (length : FrameLength) :
    (round.answers length).filter bringsWord = [.ok (.reply (round.parcel.receipt length))] := by
  obtain ⟨parcel, waiting⟩ := round
  have hwaiting : (waiting.map waitingAnswer).filter bringsWord = [] := by
    rw [List.filter_eq_nil_iff]
    intro answer hanswer
    obtain ⟨step, -, rfl⟩ := List.mem_map.1 hanswer
    cases step with
    | request request =>
        cases request with
        | port operation => cases operation <;> exact Bool.false_ne_true
        | read address | write address value | modify address keep set => exact Bool.false_ne_true
    | stimulus change => exact Bool.false_ne_true
    | inspection inspection => exact Bool.false_ne_true
  have hreceipt : bringsWord (.ok (.reply (parcel.receipt length))) = true := by
    cases parcel with
    | word value => rfl
    | byte value => rfl
    | halfword value => cases length <;> rfl
  rw [answers, List.filter_cons_of_neg (by exact Bool.false_ne_true), List.filter_append, hwaiting,
    List.nil_append, List.filter_cons_of_pos hreceipt, List.filter_nil]

/-- From the initial state, after any configuration and an enable, every word that is handed over
is taken, calls made before its frame is over are refused and change nothing, and then the word is
read back as far as a frame carries it: a byte as it was, and a halfword as it was over long frames.
So the words that come back are those handed over, in order. -/
theorem loopback_session (c : Config) (rounds : List Round)
    (h : ∀ round ∈ rounds, Waits c.frameLength 0 round.waiting) :
    let steps := setUp c ++ rounds.flatMap Round.steps
    initial.answers steps =
        [.ok (.reply .none), .ok (.reply .none)] ++ rounds.flatMap (Round.answers c.frameLength) ∧
      (initial.answers steps).filter bringsWord =
        rounds.map (fun round => .ok (.reply (round.parcel.receipt c.frameLength))) ∧
      ∀ t ∈ trace proceed initial steps, ∀ operation : Operation,
        t.input = .request (.port operation) →
          (operation.program.run t.before).result.Refuses → t.after = t.before := by
  intro steps
  have hanswers : initial.answers steps =
      [.ok (.reply .none), .ok (.reply .none)] ++
        rounds.flatMap (Round.answers c.frameLength) := by
    rw [answers_append, (idle_setUp c).rounds h]
    rfl
  refine ⟨hanswers, ?_, ?_⟩
  · have hrounds : (rounds.flatMap (Round.answers c.frameLength)).filter bringsWord =
        rounds.map fun round => .ok (.reply (round.parcel.receipt c.frameLength)) := by
      rw [List.filter_flatMap, List.map_eq_flatMap]
      exact congrArg (rounds.flatMap ·) (funext fun round => round.filter_answers c.frameLength)
    rw [hanswers, List.filter_append, hrounds]
    rfl
  · intro t ht operation hinput hrefuses
    obtain ⟨-, -, hafter⟩ :=
      forall_mem_trace proceed (fun _ => True) (fun _ _ _ _ => trivial) trivial
        (fun _ _ => trivial) t ht
    rw [hafter, hinput]
    exact state_of_refuses hrefuses

/-- Three words over long frames, the first of them with early calls and with cycles to spare. -/
theorem loopback_of_three_words :
    let c : Config := { role := .master, frameLength := .bits16 }
    let rounds : List Round :=
      [⟨.word 0x1234, [.stimulus (.clock 5), .request (.port .readOne),
          .request (.port (.writeOne 7)), .stimulus (.clock 11), .stimulus (.clock 3)]⟩,
        ⟨.byte 0xa5, [.stimulus (.clock 20)]⟩,
        ⟨.halfword 0xbeef, [.stimulus (.clock 0), .stimulus (.clock 16)]⟩]
    (∀ round ∈ rounds, Waits c.frameLength 0 round.waiting) ∧
      (initial.answers (setUp c ++ rounds.flatMap Round.steps)).filter bringsWord =
        [.ok (.reply (.received (.moved 0x1234))), .ok (.reply (.receivedByte (.moved 0xa5))),
          .ok (.reply (.received (.moved 0xbeef)))] := by
  intro c rounds
  have h : ∀ round ∈ rounds, Waits c.frameLength 0 round.waiting := by
    simp only [rounds, List.forall_mem_cons, List.not_mem_nil, false_imp_iff, implies_true]
    have hlast : ∀ total, 16 ≤ total → Waits c.frameLength total [] := fun _ h => h
    exact ⟨⟨by decide, by decide, trivial, by decide, trivial, by decide, by decide,
      hlast 19 (by decide)⟩, ⟨by decide, hlast 20 (by decide)⟩,
      ⟨by decide, by decide, hlast 16 (by decide)⟩, trivial⟩
  have hmask : (0x1234 &&& c.frameLength.wordMask : Word) = 0x1234 := by decide
  refine ⟨h, (loopback_session c rounds h).2.1.trans ?_⟩
  simp only [rounds, List.map_cons, List.map_nil, Parcel.receipt, hmask, c]

end SpiController.Simulator
