import SpiController.Session.Report
import SpiController.Simulator.Description
import SpiController.Simulator.Stimulus

/-!
# Sessions on a simulated peripheral

The steps are requests over the bus, stimuli, and inspections, which look at the state and change
nothing.
-/

namespace SpiController.Simulator

/-- A look at the state. -/
inductive Inspection where
  | register (address : Address)
  | flag (flag : StatusFlag)
  | writes
  | description
  | portDescription
  | identity
  deriving DecidableEq, Repr

/-- What a look at the state shows. -/
def inspect (s : Simulator) : Inspection → Answer
  | .register address => .reply (.word (s.peek address))
  | .flag flag => .reply (.truth (s.flag flag))
  | .writes => .writes s.writes
  | .description => .text s.describe
  | .portDescription => .text (Port.describe s.describe)
  | .identity => Instance.simulated.identity

/-- What is done in a session on a simulated peripheral. -/
inductive Step where
  | request (request : Request)
  | stimulus (stimulus : Stimulus)
  | inspection (inspection : Inspection)
  deriving DecidableEq, Repr

/-- Perform one step. -/
def perform (s : Simulator) : Step → Report Simulator
  | .request request => .ofRun .reply .simulated (request.program.run s)
  | .stimulus stimulus =>
      match s.stimulate stimulus with
      | .ok after => .offBus (.ok (.reply .none)) after
      | .error fault => .offBus (.error fault) s
  | .inspection inspection => .offBus (.ok (s.inspect inspection)) s

/-- Perform the steps of a session. -/
def session (s : Simulator) (steps : List Step) : List (Report Simulator) :=
  Report.session perform s steps

end SpiController.Simulator
