import EventCollector.SessionCore
import Mathlib.Algebra.Group.Int.Defs

/-!
The io_context of `main`: the accept loops of `Collector` and `Monitor`, the
sessions, the scrapes and the signal wait, each with the operations that Asio
holds for it. An operation completes in one step and its handler runs in another.
No handler throws.
-/

namespace EventCollector

/-- An `async_accept`: outstanding, or completed and its handler queued, or its
handler past the check of the cap. `endpoint` is whether `remote_endpoint` works:
a connection may be gone by then. -/
inductive AcceptOp
  | pending
  | connected (endpoint : Bool)
  | failed
  | admitted (endpoint : Bool)
  deriving DecidableEq

inductive Scrape
  | reading
  | read (failed : Bool)
  | writing
  | written
  | done
  deriving DecidableEq

inductive SignalWait
  | waiting
  | queued
  | handled
  deriving DecidableEq

structure Server where
  acceptorOpen : Bool
  accepts : List AcceptOp
  monitorAccepts : List AcceptOp
  sessions : List Session
  scrapes : List Scrape
  activeCount : Int
  signalWait : SignalWait
  workGuard : Bool
  deriving DecidableEq

inductive ServerLabel
  | connect (index : Nat) (endpoint : Bool)
  | acceptFails (index : Nat)
  | runAccept (index : Nat)
  | monitorConnect (index : Nat)
  | monitorAcceptFails (index : Nat)
  | runMonitorAccept (index : Nat)
  | session (index : Nat) (label : SessionLabel)
  | scrapeCompletes (index : Nat) (failed : Bool)
  | runScrape (index : Nat)
  | signal
  | runSignal
  deriving DecidableEq

def maxConnections : Nat := 20000

namespace Server

def start (server : Server) : Server :=
  { server with accepts := server.accepts ++ [.pending] }

/-- `active_connections() >= MAX_CONNECTIONS`, an `int` against a `size_t`. -/
def atCapacity (server : Server) : Bool := maxConnections ≤ (server.activeCount % 2 ^ 64).toNat

def openSession (server : Server) : Server :=
  { server with
    sessions := server.sessions ++ [Session.opened.start]
    activeCount := server.activeCount + 1 }

/-- The handler of `async_accept`, in two steps where it goes on after the check:
sessions on other io threads may end in between. -/
def accepted (server : Server) (index : Nat) : AcceptOp → Option Server
  | .pending => none
  | .connected endpoint =>
      if server.atCapacity then some { server with accepts := server.accepts.eraseIdx index }.start
      else some { server with accepts := server.accepts.set index (.admitted endpoint) }
  | .admitted endpoint =>
      let server := { server with accepts := server.accepts.eraseIdx index }
      if !endpoint then some server.start else some server.openSession.start
  | .failed => some { server with accepts := server.accepts.eraseIdx index }.start

def doAccept (server : Server) : Server :=
  { server with monitorAccepts := server.monitorAccepts ++ [.pending] }

def monitorAccepted (server : Server) : AcceptOp → Option Server
  | .connected _ => some { server with scrapes := server.scrapes ++ [Scrape.reading] }.doAccept
  | .failed => some server.doAccept
  | _ => none

def apply (server : Server) (actions : List SessionAction) : Server :=
  { server with activeCount := server.activeCount - actions.count .release }

def stop (server : Server) : Server :=
  { server with acceptorOpen := false, workGuard := false }

def complete (ops : List AcceptOp) (index : Nat) (outcome : AcceptOp) : Option (List AcceptOp) :=
  if ops[index]? = some .pending then some (ops.set index outcome) else none

def scrapeStep (scrape : Scrape) (failed : Bool) : Option Scrape :=
  match scrape with
  | .reading => some (.read failed)
  | .writing => some .written
  | _ => none

def runScrapeHandler : Scrape → Option Scrape
  | .read failed => some (if failed then .done else .writing)
  | .written => some .done
  | _ => none

def step (server : Server) : ServerLabel → Option Server
  | .connect index endpoint =>
      if server.acceptorOpen then
        (complete server.accepts index (.connected endpoint)).map fun accepts =>
          { server with accepts := accepts }
      else none
  | .acceptFails index =>
      (complete server.accepts index .failed).map fun accepts => { server with accepts := accepts }
  | .runAccept index =>
      (server.accepts[index]?).bind (server.accepted index)
  | .monitorConnect index =>
      (complete server.monitorAccepts index (.connected true)).map fun accepts =>
        { server with monitorAccepts := accepts }
  | .monitorAcceptFails index =>
      (complete server.monitorAccepts index .failed).map fun accepts =>
        { server with monitorAccepts := accepts }
  | .runMonitorAccept index =>
      (server.monitorAccepts[index]?).bind fun op =>
        { server with monitorAccepts := server.monitorAccepts.eraseIdx index }.monitorAccepted op
  | .session index label =>
      (server.sessions[index]?).bind fun session =>
        (session.step label).map fun (session, actions) =>
          { server with sessions := server.sessions.set index session }.apply actions
  | .scrapeCompletes index failed =>
      (server.scrapes[index]?).bind fun scrape =>
        (scrapeStep scrape failed).map fun scrape =>
          { server with scrapes := server.scrapes.set index scrape }
  | .runScrape index =>
      (server.scrapes[index]?).bind fun scrape =>
        (runScrapeHandler scrape).map fun scrape =>
          { server with scrapes := server.scrapes.set index scrape }
  | .signal =>
      if server.signalWait = .waiting then some { server with signalWait := .queued } else none
  | .runSignal =>
      if server.signalWait = .queued then some { server with signalWait := .handled }.stop
      else none

end Server

/-- `main` once `collector.start()`, `monitor.start()` and `signals.async_wait`
have been called. -/
def serverMachine : Machine Server ServerLabel where
  initial :=
    { acceptorOpen := true
      accepts := [.pending]
      monitorAccepts := [.pending]
      sessions := []
      scrapes := []
      activeCount := 0
      signalWait := .waiting
      workGuard := true }
  step := Server.step

end EventCollector
