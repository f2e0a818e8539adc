import EventCollector.ProcessorCore
import EventCollector.SessionCore

/-!
The server from the sockets to Kafka with one worker thread: the connections with
their sessions, the queue they share, `worker()` and `stop()`. A session's body handler
and the queue move together at `try_push`, everything else moves on its own.
-/

namespace EventCollector

variable {capacity : Nat}

structure EndToEnd (capacity : Nat) where
  connections : List Connection
  system : System capacity
  deriving DecidableEq

inductive EndToEndLabel
  | session (index : Nat) (label : SessionLabel)
  | processor (label : SystemLabel)
  deriving DecidableEq

/-- The handler and the queue agree on whether the body was taken. -/
def offerBodies (index : Nat) (system : System capacity) :
    List SessionAction → Option (System capacity)
  | .offer data :: rest =>
      (system.offer index data).bind fun next =>
        if rest = [.drop] ↔ next.sessions[index]? = some .dropping then some next else none
  | _ => some system

namespace EndToEnd

def session (state : EndToEnd capacity) (index : Nat) (label : SessionLabel) :
    Option (EndToEnd capacity) :=
  (state.connections[index]?).bind fun connection =>
    (connection.step label).bind fun next =>
      let actions := next.actions.drop connection.actions.length
      (offerBodies index state.system actions).map fun system =>
        { connections := state.connections.set index next, system := system }

def step (config : Config) (state : EndToEnd capacity) :
    EndToEndLabel → Option (EndToEnd capacity)
  | .session index label => state.session index label
  | .processor (.offer _ _) => none
  | .processor label =>
      (state.system.step config label).map fun system => { state with system := system }

end EndToEnd

def endToEndMachine (config : Config) (capacity sessions : Nat) :
    Machine (EndToEnd capacity) EndToEndLabel where
  initial :=
    { connections := List.replicate sessions connectionMachine.initial
      system := (systemMachine config capacity sessions 1).initial }
  step := EndToEnd.step config

end EventCollector
