import EventCollector.ScrapesCore
import EventCollector.ServiceCore
import EventCollector.Shutdown

/-!
The whole program once it has started: the io_context with its accept loops, the sessions
and scrapes that it opens and its signal wait, in front of the process. `main` has joined the
io threads when every `run()` has returned, and calls `stop()` then.
-/

namespace EventCollector

variable {capacity : Nat}

instance (server : Server) : Decidable (Quiescent server) :=
  decidable_of_iff
    (server.workGuard = false ∧ server.accepts = [] ∧ server.monitorAccepts = [] ∧
      server.signalWait = .handled ∧ (∀ session ∈ server.sessions, session.outstanding = 0) ∧
      ∀ scrape ∈ server.scrapes, scrape = .done)
    ⟨fun ⟨guard, accepts, monitorAccepts, signal, sessions, scrapes⟩ =>
        ⟨guard, accepts, monitorAccepts, signal, sessions, scrapes⟩,
      fun quiescent => ⟨quiescent.workGuard, quiescent.accepts, quiescent.monitorAccepts,
        quiescent.signalWait, quiescent.sessions, quiescent.scrapes⟩⟩

/-- `count` sessions more have been constructed. -/
def System.seat (count : Nat) (system : System capacity) : System capacity :=
  { system with sessions := system.sessions ++ List.replicate count .reading }

def Process.seat (count : Nat) (process : Process capacity) : Process capacity :=
  { process with
    pipeline := { process.pipeline with system := process.pipeline.system.seat count } }

/-- `requests` are the scrapes of `server` as far as `build_prometheus_text` goes. -/
structure Program (capacity : Nat) where
  server : Server
  requests : List Request
  process : Process capacity

inductive ProgramLabel
  | io (label : ServerLabel)
  | load (index : Nat)
  | process (label : ProcessLabel)
  deriving DecidableEq

namespace Program

/-- The queue after the handler that runs. -/
def offered (program : Program capacity) : ServerLabel → Option (System capacity)
  | .session index label =>
      (program.server.sessions[index]?).bind fun session =>
        (session.step label).bind fun moved =>
          offerBodies index program.process.pipeline.system moved.2
  | _ => some program.process.pipeline.system

/-- The requests after the same. A scrape's handler comes to its end with the answer. -/
def requested (program : Program capacity) (server : Server) :
    ServerLabel → Option (List Request)
  | .runMonitorAccept _ =>
      some (program.requests ++
        List.replicate (server.scrapes.length - program.server.scrapes.length) .reading)
  | .scrapeCompletes index failed =>
      if program.requests[index]? = some .reading then
        some (program.requests.set index (if failed then .failed else .loading []))
      else some program.requests
  | .runScrape index =>
      if (program.requests[index]?).any Request.inHandler then none else some program.requests
  | _ => some program.requests

/-- A handler on one of the io threads, which `main` has not joined yet. -/
def io (program : Program capacity) (label : ServerLabel) : Option (Program capacity) :=
  if program.process.main = .serving then
    (program.server.step label).bind fun server =>
      (program.offered label).bind fun system =>
        (program.requested server label).map fun requests =>
          { server := server
            requests := requests
            process := Process.seat (server.sessions.length - program.server.sessions.length)
              ⟨{ program.process.pipeline with system := system }, .serving⟩ }
  else none

def step (parse : Bytes → Option Event) (deployment : Deployment) (program : Program capacity) :
    ProgramLabel → Option (Program capacity)
  | .io label => program.io label
  | .load index =>
      if program.process.main = .serving then
        (program.requests[index]?).bind fun request =>
          (request.load program.process.pipeline.metrics).map fun request =>
            { program with requests := program.requests.set index request }
      else none
  -- a body is offered by a session's handler only
  | .process (.thread _ (.offer _ _)) => none
  | .process label =>
      if program.process.main = .serving ∧ label.isMain = true ∧ ¬ Quiescent program.server then
        none
      else
        (program.process.step parse deployment label).map fun process =>
          { program with process := process }

end Program

def programMachine (parse : Bytes → Option Event) (deployment : Deployment)
    (redis : CounterStore Bytes) (capacity workers : Nat) :
    Machine (Program capacity) ProgramLabel where
  initial :=
    { server := serverMachine.initial
      requests := []
      process := (processMachine parse deployment redis capacity 0 workers).initial }
  step := Program.step parse deployment

end EventCollector
