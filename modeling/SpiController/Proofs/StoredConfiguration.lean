import SpiController.Proofs.LastOwner

/-!
# The stored configuration follows the operations

Control register 1 and the polynomial register stand for a configuration (`Config.stored`). On this
configuration every operation has an effect of its own, `Operation.reconfigure`: three operations
change it, and all others leave it as it is. So a configuration that is read back is the one that
was stored, with all changes made since (`config_session`), whatever the registers held at first.
-/

namespace SpiController

/-! ## What a step does to a configuration -/

/-- The single line turned to a direction. Two lines stay as they are. -/
def Direction.turn (direction : Direction) (line : LineDirection) : Direction :=
  match direction, line with
  | .halfDuplexRx, .tx | .halfDuplexTx, .tx => .halfDuplexTx
  | .halfDuplexRx, .rx | .halfDuplexTx, .rx => .halfDuplexRx
  | .fullDuplex, _ => .fullDuplex
  | .rxOnly, _ => .rxOnly

/-- The configuration after an operation. -/
def Operation.reconfigure (c : Config) : Operation → Config
  | configure value => value
  | setFrameLength length => { c with frameLength := length }
  | setLineDirection line => { c with direction := c.direction.turn line }
  | _ => c

/-- The configuration after a request. -/
def Request.reconfigure (c : Config) : Request → Config
  | port operation => operation.reconfigure c
  | _ => c

/-- The configuration after a step on a simulated peripheral. -/
def Simulator.Step.reconfigure (c : Config) : Simulator.Step → Config
  | .request asked => asked.reconfigure c
  | .stimulus _ | .inspection _ => c

/-- The configuration after a step on registers in memory. -/
def MemoryBlock.Step.reconfigure (c : Config) : MemoryBlock.Step → Config
  | .request asked => asked.reconfigure c
  | .poke _ _ | .description | .portDescription | .identity => c

/-! ## Writes of a part -/

namespace Config

/-- The configuration that the registers stand for. -/
def stored (content : Address → Word) : Config :=
  decode (content .control1) (content .crcPolynomial)

theorem decode_write_frame16 (length : FrameLength) (content crcPolynomial : Word) :
    decode (Control1.frame16.write (length == .bits16) content) crcPolynomial =
      { decode content crcPolynomial with frameLength := length } := by
  have hlength : FrameLength.ofControl (Control1.frame16.write (length == .bits16) content) =
      length := by
    rw [FrameLength.ofControl, Field.read_write]
    cases length <;> rfl
  simp (disch := decide) only [decode, hlength, Direction.ofControl, Role.ofControl,
    Polarity.ofControl, Phase.ofControl, SelectSource.ofControl, Divider.ofControl,
    BitOrder.ofControl, Field.read_write_of_disjoint]

theorem decode_write_bidiOutput (line : LineDirection) (content crcPolynomial : Word) :
    decode (Control1.bidiOutput.write (line == .tx) content) crcPolynomial =
      { decode content crcPolynomial with
        direction := (decode content crcPolynomial).direction.turn line } := by
  have hdirection : Direction.ofControl (Control1.bidiOutput.write (line == .tx) content) =
      (Direction.ofControl content).turn line := by
    rw [Direction.ofControl, Field.read_write, Field.read_write_of_disjoint (by decide),
      Field.read_write_of_disjoint (by decide), Direction.ofControl]
    -- on a single line the bit written is the direction, and on two lines it is not looked at
    cases Control1.bidiMode.read content with
    | true => cases line <;> cases Control1.bidiOutput.read content <;> rfl
    | false => cases Control1.rxOnly.read content <;> rfl
  simp (disch := decide) only [decode, hdirection, FrameLength.ofControl, Role.ofControl,
    Polarity.ofControl, Phase.ofControl, SelectSource.ofControl, Divider.ofControl,
    BitOrder.ofControl, Field.read_write_of_disjoint]

end Config

/-! ## Assignments and the configuration -/

/-- The assignment gives no value to a bit that tells something about the configuration. -/
def Assignment.SparesConfig (assignment : Assignment) : Prop :=
  (∀ i, i ∉ Config.ignored → assignment .control1 i = .none) ∧
    ∀ i, assignment .crcPolynomial i = .none

theorem Assignment.sparesConfig_none : Assignment.none.SparesConfig :=
  ⟨fun _ _ => rfl, fun _ => rfl⟩

theorem Assignment.sparesConfig_control1 {position : Nat} (h : position ∈ Config.ignored)
    (value : Bool) : (bit .control1 position value).SparesConfig := by
  constructor
  · intro i hi
    apply if_neg
    rintro ⟨-, rfl⟩
    exact hi h
  · intro i
    rfl

theorem Assignment.sparesConfig_control2 (position : Nat) (value : Bool) :
    (bit .control2 position value).SparesConfig :=
  ⟨fun _ _ => rfl, fun _ => rfl⟩

theorem Config.stored_of_sparesConfig {assignment : Assignment} (hspares : assignment.SparesConfig)
    {before after : Address → Word} (h : assignment.Takes before after) :
    stored after = stored before := by
  rw [stored, stored, h.eq_of_none Address.stores_crcPolynomial.plain hspares.2]
  apply decode_congr
  intro i hi
  rw [h .control1 Address.stores_control1.plain, hspares.1 i hi]
  rfl

/-- The bits that an operation owns change the stored configuration as the operation does. -/
theorem Operation.stored_of_takes {operation : Operation} {before after : Address → Word}
    (h : operation.assigns.Takes before after) :
    Config.stored after = operation.reconfigure (Config.stored before) := by
  cases operation with
  | configure config =>
      have hcontrol : after .control1 = config.apply (before .control1) := by
        apply BitVec.eq_of_getLsbD_eq
        intro i _
        rw [h .control1 Address.stores_control1.plain, config.getLsbD_apply]
        simp only [assigns]
        split
        · rfl
        · rfl
      have hpolynomial : after .crcPolynomial = config.crcPolynomial :=
        BitVec.eq_of_getLsbD_eq fun i _ => h .crcPolynomial Address.stores_crcPolynomial.plain i
      rw [Config.stored, hcontrol, hpolynomial, Config.decode_apply]
      rfl
  | setFrameLength length =>
      have hcontrol : after .control1 =
          Control1.frame16.write (length == .bits16) (before .control1) :=
        Assignment.Takes.eq_write Control1.frame16 h Address.stores_control1.plain
      have hpolynomial : after .crcPolynomial = before .crcPolynomial :=
        h.eq_of_none Address.stores_crcPolynomial.plain fun _ => rfl
      rw [Config.stored, hcontrol, hpolynomial, Config.decode_write_frame16]
      rfl
  | setLineDirection line =>
      have hcontrol : after .control1 =
          Control1.bidiOutput.write (line == .tx) (before .control1) :=
        Assignment.Takes.eq_write Control1.bidiOutput h Address.stores_control1.plain
      have hpolynomial : after .crcPolynomial = before .crcPolynomial :=
        h.eq_of_none Address.stores_crcPolynomial.plain fun _ => rfl
      rw [Config.stored, hcontrol, hpolynomial, Config.decode_write_bidiOutput]
      rfl
  | enable | disable | setSoftwareSelect | resetSoftwareSelect | requestCrcTransmit | enableCrc
  | disableCrc =>
      exact Config.stored_of_sparesConfig (Assignment.sparesConfig_control1 (by decide) _) h
  | enableSelectOutput | disableSelectOutput | enableInterrupt source | disableInterrupt source =>
      exact Config.stored_of_sparesConfig (Assignment.sparesConfig_control2 _ _) h
  | enableDma request | disableDma request =>
      cases request with
      | rx | tx => exact Config.stored_of_sparesConfig (Assignment.sparesConfig_control2 _ _) h
  | _ => exact Config.stored_of_sparesConfig Assignment.sparesConfig_none h

/-! ## Sessions -/

/-- Reading the configuration back decodes what the registers hold. -/
theorem Operation.result_config {σ : Type} [Device σ] [PlainRegisters σ] (s : σ) :
    (config.program.run s).result = .config (Config.stored (PlainRegisters.content s)) := by
  -- the first of the two reads leaves the device as it is
  have hquiet : (Device.read s .control1).2 = s := PlainRegisters.read_plain s (by decide)
  have hresult : (config.program.run s).result =
      .config (Config.decode (Device.read s .control1).1
        (Device.read (Device.read s .control1).2 .crcPolynomial).1) := rfl
  rw [hresult, hquiet, PlainRegisters.read_fst, PlainRegisters.read_fst]
  rfl

/-- A step changes the stored configuration as its operation does. -/
theorem Simulator.stored_proceed (s : Simulator) {step : Step} (h : step.KeepsToPort) :
    Config.stored (s.proceed step).peek = step.reconfigure (Config.stored s.peek) := by
  have htakes := s.assigned_takes h
  cases step with
  | request request =>
      cases request with
      | port operation => exact Operation.stored_of_takes htakes
      | read address => exact Config.stored_of_sparesConfig Assignment.sparesConfig_none htakes
      | write address value => exact h.elim
      | modify address keep set => exact h.elim
  | stimulus change =>
      -- at most the request for the CRC is dropped
      refine Config.stored_of_sparesConfig ?_ htakes
      simp only [assigned]
      split
      · exact Assignment.sparesConfig_control1 (by decide) _
      · exact Assignment.sparesConfig_none
  | inspection inspection => rfl

theorem MemoryBlock.stored_proceed (peripheral : Peripheral) (b : MemoryBlock) {step : Step}
    (h : step.KeepsToPort) :
    Config.stored (proceed peripheral b step).peek = step.reconfigure (Config.stored b.peek) := by
  have htakes := assigned_takes peripheral b h
  cases step with
  | request request =>
      cases request with
      | port operation => exact Operation.stored_of_takes htakes
      | read address => exact Config.stored_of_sparesConfig Assignment.sparesConfig_none htakes
      | write address value => exact h.elim
      | modify address keep set => exact h.elim
  | poke address value => exact h.elim
  | description | portDescription | identity => rfl

/-- Whatever the registers hold, once a configuration was stored, and as long as a session keeps to
the port, reading it back gives that configuration with all changes that the operations have made
since. -/
theorem config_session :
    (∀ (s : Simulator) (c : Config) (steps : List Simulator.Step),
      (∀ step ∈ steps, step.KeepsToPort) →
        (((.request (.port (.configure c)) :: steps).foldl Simulator.proceed s).perform
            (.request (.port .config))).answer =
          .ok (.reply (.config (steps.foldl Simulator.Step.reconfigure c)))) ∧
    ∀ (peripheral : Peripheral) (b : MemoryBlock) (c : Config) (steps : List MemoryBlock.Step),
      (∀ step ∈ steps, step.KeepsToPort) →
        (MemoryBlock.perform peripheral
            ((.request (.port (.configure c)) :: steps).foldl (MemoryBlock.proceed peripheral) b)
            (.request (.port .config))).answer =
          .ok (.reply (.config (steps.foldl MemoryBlock.Step.reconfigure c))) := by
  constructor
  · intro s c steps permitted
    have hstored : Config.stored
        ((.request (.port (.configure c)) :: steps).foldl Simulator.proceed s).peek =
          steps.foldl Simulator.Step.reconfigure c :=
      view_foldl Simulator.proceed (fun s => Config.stored s.peek)
        (fun s _ h => s.stored_proceed h) (List.forall_mem_cons.2 ⟨trivial, permitted⟩)
    rw [← hstored]
    exact congrArg (fun reply => Except.ok (Answer.reply reply)) (Operation.result_config _)
  · intro peripheral b c steps permitted
    have hstored : Config.stored
        ((.request (.port (.configure c)) :: steps).foldl (MemoryBlock.proceed peripheral) b).peek =
          steps.foldl MemoryBlock.Step.reconfigure c :=
      view_foldl (MemoryBlock.proceed peripheral) (fun b => Config.stored b.peek)
        (fun b _ h => MemoryBlock.stored_proceed peripheral b h)
        (List.forall_mem_cons.2 ⟨trivial, permitted⟩)
    rw [← hstored]
    exact congrArg (fun reply => Except.ok (Answer.reply reply)) (Operation.result_config _)

/-- Over registers full of ones, turning the line has no effect on a receiver with two lines, past a
frame that ends on the way, and turns the line of a receiver with a single one. -/
theorem config_after_turned_line :
    let onSimulator : List Simulator.Step :=
      [.request (.port (.setLineDirection .tx)), .request (.port (.setFrameLength .bits16)),
        .request (.port .enable), .request (.port .requestCrcTransmit),
        .request (.port (.transmit 0x1234)), .stimulus (.clock 16)]
    let inMemory : List MemoryBlock.Step :=
      [.request (.port .enableCrc), .request (.port (.setLineDirection .tx))]
    ((∀ step ∈ onSimulator, step.KeepsToPort) ∧
      (((.request (.port (.configure { direction := .rxOnly })) :: onSimulator).foldl
          Simulator.proceed (Simulator.initial.poke .control1 0xffff)).perform
          (.request (.port .config))).answer =
        .ok (.reply (.config { direction := .rxOnly, frameLength := .bits16 }))) ∧
    (∀ step ∈ inMemory, step.KeepsToPort) ∧
      (MemoryBlock.perform .spi1
          ((.request (.port (.configure { direction := .halfDuplexRx })) :: inMemory).foldl
            (MemoryBlock.proceed .spi1) (MemoryBlock.zero.poke .control1 0xffffffff))
          (.request (.port .config))).answer =
        .ok (.reply (.config { direction := .halfDuplexTx })) := by
  intro onSimulator inMemory
  have hsimulator : ∀ step ∈ onSimulator, step.KeepsToPort := by
    simp [onSimulator, Simulator.Step.KeepsToPort, Request.KeepsToPort]
  have hmemory : ∀ step ∈ inMemory, step.KeepsToPort := by
    simp [inMemory, MemoryBlock.Step.KeepsToPort, Request.KeepsToPort]
  exact ⟨⟨hsimulator, config_session.1 _ _ onSimulator hsimulator⟩, hmemory,
    config_session.2 .spi1 _ _ inMemory hmemory⟩

end SpiController
