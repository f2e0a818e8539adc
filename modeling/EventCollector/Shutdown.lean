import EventCollector.Server

/-!
Whether `io_context.run()` can return after the signal handler. Both accept loops
start the next `async_accept` in the handler of the last one, whatever happened
to it, so that each of them always has one.
-/

namespace EventCollector

def Session.outstanding (session : Session) : Nat :=
  (if session.read = .idle then 0 else 1) + session.waits + session.expired + session.aborted

/-- Nothing is left to wait for: every `run()` returns. -/
structure Quiescent (server : Server) : Prop where
  workGuard : server.workGuard = false
  accepts : server.accepts = []
  monitorAccepts : server.monitorAccepts = []
  signalWait : server.signalWait = .handled
  sessions : ∀ session ∈ server.sessions, session.outstanding = 0
  scrapes : ∀ scrape ∈ server.scrapes, scrape = .done

/-- A step that needs no client: none connects or sends, and an `async_accept`
fails only on a closed acceptor. -/
def Unaided (server : Server) : ServerLabel → Prop
  | .connect _ _ | .monitorConnect _ | .monitorAcceptFails _ | .session _ (.receive _) => False
  | .acceptFails _ => server.acceptorOpen = false
  | _ => True

def CanFinish (server : Server) : Prop :=
  ∃ labels final, serverMachine.Steps Unaided server labels ∧
    serverMachine.run server labels = some final ∧ Quiescent final

theorem rearmed_length {ops : List AcceptOp} {index : Nat} {op : AcceptOp}
    (found : ops[index]? = some op) (next : AcceptOp) :
    (ops.eraseIdx index ++ [next]).length = ops.length := by
  obtain ⟨bound, -⟩ := List.getElem?_eq_some_iff.mp found
  rw [List.length_append, List.length_eraseIdx_of_lt bound, List.length_singleton]
  omega

theorem accepts_step {server next : Server} {label : ServerLabel}
    (moved : ServerMove server label next) :
    next.accepts.length = server.accepts.length ∧
      next.monitorAccepts.length = server.monitorAccepts.length := by
  cases moved with
  | connect _ _ => exact ⟨List.length_set, rfl⟩
  | acceptFails _ => exact ⟨List.length_set, rfl⟩
  | refuse found _ => exact ⟨rearmed_length found _, rfl⟩
  | passes _ _ => exact ⟨List.length_set, rfl⟩
  | vanish found => exact ⟨rearmed_length found _, rfl⟩
  | opens found => exact ⟨rearmed_length found _, rfl⟩
  | acceptError found => exact ⟨rearmed_length found _, rfl⟩
  | monitorConnect _ => exact ⟨rfl, List.length_set⟩
  | monitorAcceptFails _ => exact ⟨rfl, List.length_set⟩
  | monitorServe found => exact ⟨rfl, rearmed_length found _⟩
  | monitorError found => exact ⟨rfl, rearmed_length found _⟩
  | session _ _ => exact ⟨rfl, rfl⟩
  | scrapeCompletes _ _ => exact ⟨rfl, rfl⟩
  | runScrape _ _ => exact ⟨rfl, rfl⟩
  | signal _ => exact ⟨rfl, rfl⟩
  | runSignal _ => exact ⟨rfl, rfl⟩

theorem serverMachine_accepts {server : Server} (reachable : serverMachine.Reachable server) :
    server.accepts.length = 1 ∧ server.monitorAccepts.length = 1 := by
  refine Machine.reachable_invariant
    (fun server => server.accepts.length = 1 ∧ server.monitorAccepts.length = 1) ⟨rfl, rfl⟩ ?_
    reachable
  intro server label next holds stepped
  obtain ⟨accepts, monitorAccepts⟩ := accepts_step (serverStep_move stepped)
  rw [accepts, monitorAccepts]
  exact holds

theorem not_quiescent {server : Server} (reachable : serverMachine.Reachable server) :
    ¬ Quiescent server := by
  intro quiescent
  obtain ⟨one, -⟩ := serverMachine_accepts reachable
  simp [quiescent.accepts] at one

def StopRequested (server : Server) : Prop :=
  server.signalWait = .handled → server.acceptorOpen = false ∧ server.workGuard = false

theorem stopRequested_step {server next : Server} {label : ServerLabel}
    (holds : StopRequested server) (moved : ServerMove server label next) :
    StopRequested next := by
  cases moved with
  | signal _ =>
      intro handled
      simp at handled
  | runSignal _ => exact fun _ => ⟨rfl, rfl⟩
  | _ => exact holds

theorem serverMachine_stopRequested {server : Server}
    (reachable : serverMachine.Reachable server) : StopRequested server := by
  refine Machine.reachable_invariant StopRequested ?_ ?_ reachable
  · intro handled
    simp [serverMachine] at handled
  · exact fun _ _ _ holds stepped => stopRequested_step holds (serverStep_move stepped)

/-- The signal handler has closed the acceptor and released the work guard, and the
io threads can still not come to an end: in this and in every later state one accept
is outstanding in each of the two loops. -/
theorem shutdown_never_completes {server : Server} (reachable : serverMachine.Reachable server)
    (handled : server.signalWait = .handled) :
    server.acceptorOpen = false ∧ server.workGuard = false ∧
    server.accepts.length = 1 ∧ server.monitorAccepts.length = 1 ∧ ¬ CanFinish server := by
  obtain ⟨closed, released⟩ := serverMachine_stopRequested reachable handled
  obtain ⟨one, monitorOne⟩ := serverMachine_accepts reachable
  refine ⟨closed, released, one, monitorOne, ?_⟩
  rintro ⟨labels, final, -, reached, quiescent⟩
  exact not_quiescent (reachable.run reached) quiescent

def signalled : Server where
  acceptorOpen := false
  accepts := [.pending]
  monitorAccepts := [.pending]
  sessions := []
  scrapes := []
  activeCount := 0
  signalWait := .handled
  workGuard := false

theorem shutdown_never_completes_idle : ¬ CanFinish signalled :=
  (shutdown_never_completes ⟨[.signal, .runSignal], rfl⟩ rfl).2.2.2.2

theorem shutdown_hangs : serverMachine.Reachable signalled ∧
    signalled.signalWait = .handled ∧ signalled.acceptorOpen = false ∧
    signalled.workGuard = false ∧ signalled.sessions = [] ∧ signalled.scrapes = [] ∧
    ¬ CanFinish signalled := by
  have reachable : serverMachine.Reachable signalled := ⟨[.signal, .runSignal], rfl⟩
  refine ⟨reachable, rfl, rfl, rfl, rfl, rfl, ?_⟩
  rintro ⟨labels, final, -, reached, quiescent⟩
  exact not_quiescent (reachable.run reached) quiescent

end EventCollector
