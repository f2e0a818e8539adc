import EventCollector.EndToEndCore
import EventCollector.ProcessCore

/-!
The server as its clients see it: any number of connections in front of the whole
process. A session's body handler and the queue move together at `try_push`, and no
handler of the collector runs once `main` has joined the io threads. The connections do
not keep `main` from that: the io threads may have ended at any moment, and a body whose
handler has not run by then stays in its session.
-/

namespace EventCollector

variable {capacity : Nat}

structure Service (capacity : Nat) where
  connections : List Connection
  process : Process capacity

inductive ServiceLabel
  | session (index : Nat) (label : SessionLabel)
  | process (label : ProcessLabel)
  deriving DecidableEq

namespace Service

def session (service : Service capacity) (index : Nat) (label : SessionLabel) :
    Option (Service capacity) :=
  if service.process.main = .serving then
    (service.connections[index]?).bind fun connection =>
      (connection.step label).bind fun next =>
        let pipeline := service.process.pipeline
        let actions := next.actions.drop connection.actions.length
        (offerBodies index pipeline.system actions).map fun system =>
          { connections := service.connections.set index next
            process := ⟨{ pipeline with system := system }, .serving⟩ }
  else none

def step (parse : Bytes → Option Event) (deployment : Deployment) (service : Service capacity) :
    ServiceLabel → Option (Service capacity)
  | .session index label => service.session index label
  -- a body is offered by a session's handler only
  | .process (.thread _ (.offer _ _)) => none
  | .process label =>
      (service.process.step parse deployment label).map fun process =>
        { service with process := process }

end Service

def serviceMachine (parse : Bytes → Option Event) (deployment : Deployment)
    (redis : CounterStore Bytes) (capacity sessions workers : Nat) :
    Machine (Service capacity) ServiceLabel where
  initial :=
    { connections := List.replicate sessions connectionMachine.initial
      process := (processMachine parse deployment redis capacity sessions workers).initial }
  step := Service.step parse deployment

/-- The clock that a step reads if it comes to `validate_event`. -/
def ProcessLabel.clock : ProcessLabel → Int
  | .thread clock _ => clock
  | .main input => input.clock

end EventCollector
