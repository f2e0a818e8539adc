import EventCollector.ProcessBacklog
import EventCollector.ProcessServing
import EventCollector.Program
import EventCollector.SocketCap

/-!
The program once its clients leave. Every handler that runs is paid for by what a client,
an acceptor or the signal has done; and with no client left the io threads and the others
can work off all that there is, to the last report and the last row, although `main` will
not return.
-/

namespace EventCollector

open Ledger

variable {capacity : Nat}

/-! What is left to do for the io threads. -/

/-- `worth` is what there is to do for a connection that has been accepted. -/
def AcceptOp.effort (worth : Nat) : AcceptOp → Nat
  | .pending => 0
  | .connected _ => worth + 2
  | .failed => 1
  | .admitted _ => worth + 1

/-- A body that has been read still has to go through the process. -/
def ReadOp.effort : ReadOp → Nat
  | .idle => 0
  | .pending _ _ => 2
  | .ready _ true => 1
  | .ready .header false => 3
  | .ready .body false => 24

def Session.effort (session : Session) : Nat :=
  session.read.effort + 2 * session.waits + session.expired + session.aborted

def Scrape.effort : Scrape → Nat
  | .reading => 4
  | .read _ => 3
  | .writing => 2
  | .written => 1
  | .done => 0

def Request.effort : Request → Nat
  | .reading => 12
  | .loading values => 12 - values.length
  | _ => 0

def SignalWait.effort : SignalWait → Nat
  | .queued => 1
  | _ => 0

def Server.effort (server : Server) : Nat :=
  tally (AcceptOp.effort 4) server.accepts + tally (AcceptOp.effort 16) server.monitorAccepts +
    tally Session.effort server.sessions + tally Scrape.effort server.scrapes +
    server.signalWait.effort

def Program.effort (program : Program capacity) : Nat :=
  program.server.effort + tally Request.effort program.requests + program.process.labor

def SessionLabel.income : SessionLabel → Nat
  | .receive _ => 23
  | _ => 0

/-- What an event from outside may cost, itself included. -/
def ServerLabel.income : ServerLabel → Nat
  | .connect _ _ => 7
  | .monitorConnect _ => 19
  | .acceptFails _ | .monitorAcceptFails _ | .signal => 2
  | .session _ label => label.income
  | _ => 0

def ProgramLabel.income : ProgramLabel → Nat
  | .io label => label.income
  | _ => 0

/-- All steps but the rounds in which a worker or the flush thread finds nothing to do. -/
def Program.toils (program : Program capacity) : ProgramLabel → Nat
  | .process label => program.process.toils label
  | _ => 1

theorem sessionMove_effort {session next : Session} {label : SessionLabel}
    {actions : List SessionAction} (index : Nat) (moved : SessionMove session label next actions) :
    next.effort + 1 + 21 * (offerActs index actions).length ≤ session.effort + label.income := by
  cases moved with
  | @receive stage filled chunk pending _ _ _ =>
      have still : (session.receive stage filled chunk).waits = session.waits ∧
          (session.receive stage filled chunk).expired = session.expired ∧
          (session.receive stage filled chunk).aborted = session.aborted := by
        cases stage <;> exact ⟨rfl, rfl, rfl⟩
      have read : (session.receive stage filled chunk).read.effort ≤ 24 := by
        simp only [Session.receive]
        split <;> cases stage <;> simp [ReadOp.effort]
      have own : session.read.effort = 2 := by
        rw [pending]
        rfl
      simp only [Session.effort, still, own, SessionLabel.income, offerActs, List.length_nil]
      omega
  | readFails pending =>
      simp only [Session.effort, pending, ReadOp.effort, offerActs, List.length_nil]
      omega
  | accept ready _ _ =>
      simp only [Session.effort, ready, ReadOp.effort, offerActs, List.length_nil]
      omega
  | reject ready _ =>
      simp only [Session.effort, ready, ReadOp.effort, offerActs, List.length_nil]
      omega
  | bodyRead ready =>
      simp only [Session.effort, ready, ReadOp.effort, offerActs, List.length_singleton]
      omega
  | closed ready =>
      have silent : (offerActs index (if session.cleanedUp then [] else
          [SessionAction.release])).length = 0 := by
        split <;> rfl
      simp only [Session.effort, ready, ReadOp.effort, silent]
      omega
  | expire waiting =>
      simp only [Session.effort, offerActs, List.length_nil]
      omega
  | timeout queued =>
      have silent : (offerActs index (if session.cleanedUp then [] else
          [SessionAction.release])).length = 0 := by
        split <;> rfl
      simp only [Session.effort, silent]
      omega
  | aborted queued =>
      simp only [Session.effort, offerActs, List.length_nil]
      omega

/-- One accept in place of another. -/
theorem rearmed_effort (worth : Nat) {ops : List AcceptOp} {index : Nat} {op : AcceptOp}
    (found : ops[index]? = some op) :
    tally (AcceptOp.effort worth) (ops.eraseIdx index ++ [.pending]) + op.effort worth =
      tally (AcceptOp.effort worth) ops := by
  rw [tally_append, tally_singleton]
  exact tally_eraseIdx (AcceptOp.effort worth) found

theorem scrapeStep_effort {old new : Scrape} {failed : Bool}
    (completed : Server.scrapeStep old failed = some new) : new.effort + 1 = old.effort := by
  cases old <;> simp only [Server.scrapeStep, Option.some.injEq, reduceCtorEq] at completed
  all_goals exact completed ▸ rfl

theorem runScrape_effort {old new : Scrape} (ran : Server.runScrapeHandler old = some new) :
    new.effort + 1 ≤ old.effort := by
  cases old with
  | read failed =>
      obtain rfl := Option.some.inj ran
      cases failed <;> simp [Scrape.effort]
  | written =>
      obtain rfl := Option.some.inj ran
      simp [Scrape.effort]
  | _ => simp [Server.runScrapeHandler] at ran

theorem serverMove_effort {server next : Server} {label : ServerLabel}
    (moved : ServerMove server label next)
    (other : ∀ index own, label ≠ .session index own) :
    next.effort + 1 + 12 * (next.scrapes.length - server.scrapes.length) ≤
      server.effort + label.income := by
  have same : 12 * (server.scrapes.length - server.scrapes.length) = 0 := by omega
  cases moved with
  | @connect index endpoint _ pending =>
      have exchanged := tally_set (AcceptOp.effort 4) (.connected endpoint) pending
      simp only [AcceptOp.effort] at exchanged
      simp only [Server.effort, ServerLabel.income, same]
      omega
  | acceptFails pending =>
      have exchanged := tally_set (AcceptOp.effort 4) .failed pending
      simp only [AcceptOp.effort] at exchanged
      simp only [Server.effort, ServerLabel.income, same]
      omega
  | refuse connected _ =>
      have exchanged := rearmed_effort 4 connected
      simp only [AcceptOp.effort] at exchanged
      simp only [Server.effort, same]
      omega
  | @passes index endpoint connected _ =>
      have exchanged := tally_set (AcceptOp.effort 4) (.admitted endpoint) connected
      simp only [AcceptOp.effort] at exchanged
      simp only [Server.effort, same]
      omega
  | vanish admitted =>
      have exchanged := rearmed_effort 4 admitted
      simp only [AcceptOp.effort] at exchanged
      simp only [Server.effort, same]
      omega
  | opens admitted =>
      have exchanged := rearmed_effort 4 admitted
      have fresh : tally Session.effort (server.sessions ++ [Session.opened.start]) =
          tally Session.effort server.sessions + 4 := by
        rw [tally_append, tally_singleton]
        rfl
      simp only [AcceptOp.effort] at exchanged
      simp only [Server.effort, fresh, same]
      omega
  | acceptError failed =>
      have exchanged := rearmed_effort 4 failed
      simp only [AcceptOp.effort] at exchanged
      simp only [Server.effort, same]
      omega
  | monitorConnect pending =>
      have exchanged := tally_set (AcceptOp.effort 16) (.connected true) pending
      simp only [AcceptOp.effort] at exchanged
      simp only [Server.effort, ServerLabel.income, same]
      omega
  | monitorAcceptFails pending =>
      have exchanged := tally_set (AcceptOp.effort 16) .failed pending
      simp only [AcceptOp.effort] at exchanged
      simp only [Server.effort, ServerLabel.income, same]
      omega
  | monitorServe connected =>
      have exchanged := rearmed_effort 16 connected
      have fresh : tally Scrape.effort (server.scrapes ++ [Scrape.reading]) =
          tally Scrape.effort server.scrapes + 4 := by
        rw [tally_append, tally_singleton]
        rfl
      simp only [AcceptOp.effort] at exchanged
      simp only [Server.effort, fresh, List.length_append, List.length_singleton]
      omega
  | monitorError failed =>
      have exchanged := rearmed_effort 16 failed
      simp only [AcceptOp.effort] at exchanged
      simp only [Server.effort, same]
      omega
  | session _ _ => exact absurd rfl (other _ _)
  | @scrapeCompletes index failed old new found completed =>
      have exchanged := tally_set Scrape.effort new found
      have lower := scrapeStep_effort completed
      simp only [Server.effort, List.length_set, same]
      omega
  | @runScrape index old new found ran =>
      have exchanged := tally_set Scrape.effort new found
      have lower := runScrape_effort ran
      simp only [Server.effort, List.length_set, same]
      omega
  | signal waiting =>
      simp only [Server.effort, SignalWait.effort, ServerLabel.income, same]
      omega
  | runSignal queued =>
      simp only [Server.effort, SignalWait.effort, queued, same]
      omega

theorem serverSession_effort {server : Server} {index : Nat} {label : SessionLabel}
    {old new : Session} {actions : List SessionAction} (found : server.sessions[index]? = some old)
    (moved : SessionMove old label new actions) (active : Int) :
    Server.effort { server with sessions := server.sessions.set index new, activeCount := active } +
        1 + 21 * (offerActs index actions).length ≤ server.effort + label.income := by
  have exchanged := tally_set Session.effort new found
  have lower := sessionMove_effort index moved
  simp only [Server.effort]
  omega

/-! What a step of the program costs. -/

theorem requested_effort {program : Program capacity} {server : Server} {label : ServerLabel}
    {requests : List Request} (requested : program.requested server label = some requests) :
    tally Request.effort requests ≤ tally Request.effort program.requests +
      12 * (server.scrapes.length - program.server.scrapes.length) := by
  have unmoved (same : program.requests = requests) :
      tally Request.effort requests ≤ tally Request.effort program.requests +
        12 * (server.scrapes.length - program.server.scrapes.length) :=
    same ▸ Nat.le_add_right _ _
  cases label with
  | runMonitorAccept index =>
      obtain rfl := Option.some.inj requested
      let more := List.replicate (server.scrapes.length - program.server.scrapes.length)
        Request.reading
      have each : ∀ request ∈ more, request.effort ≤ 12 := by
        intro request member
        rw [List.eq_of_mem_replicate member]
        exact Nat.le_refl _
      have bound := tally_le each
      rw [List.length_replicate] at bound
      rw [tally_append]
      exact Nat.add_le_add_left bound _
  | scrapeCompletes index failed =>
      simp only [Program.requested] at requested
      split at requested
      · rename_i reading
        obtain rfl := Option.some.inj requested
        have exchanged := tally_set Request.effort (if failed then .failed else .loading []) reading
        have lower : Request.effort (if failed then .failed else .loading []) ≤ 12 := by
          cases failed <;> simp [Request.effort]
        simp only [Request.effort] at exchanged lower
        omega
      · exact unmoved (Option.some.inj requested)
  | runScrape index =>
      simp only [Program.requested, Option.ite_none_left_eq_some, Option.some.injEq] at requested
      exact unmoved requested.2
  | _ => exact unmoved (Option.some.inj requested)

theorem load_effort {metrics : Metrics} {old new : Request} (loaded : old.load metrics = some new) :
    new.effort + 1 ≤ old.effort := by
  cases old with
  | loading values =>
      obtain ⟨metric, next, rfl⟩ := Option.map_eq_some_iff.mp loaded
      have below : values.length < 12 := (List.getElem?_eq_some_iff.mp next).1
      simp only
      split
      · simp only [Request.effort]
        omega
      · simp only [Request.effort, List.length_append, List.length_singleton]
        omega
  | _ => simp [Request.load] at loaded

theorem offerBodies_labor {index : Nat} {system next : System capacity}
    {actions : List SessionAction} (offered : offerBodies index system actions = some next) :
    next.labor ≤ system.labor + 21 * (offerActs index actions).length := by
  rcases offerBodies_cases offered with rfl | ⟨data, rest, rfl, took⟩
  · exact Nat.le_add_right _ _
  · exact offer_labor took

theorem seat_labor (count : Nat) (process : Process capacity) :
    (process.seat count).labor = process.labor := by
  simp [Process.labor, Process.seat, System.labor, System.seat, List.countP_replicate]

section

variable {parse : Bytes → Option Event} {deployment : Deployment}

theorem programIo_pays {program next : Program capacity} {label : ServerLabel}
    (stepped : program.io label = some next) :
    next.effort + 1 ≤ program.effort + label.income := by
  obtain ⟨serving, server, system, requests, moved, offered, requested, rfl⟩ :=
    programIo_cases stepped
  have asked := requested_effort requested
  have main : MainPc.serving.effort = program.process.main.effort := by rw [serving]
  simp only [Program.effort, seat_labor]
  by_cases own : ∃ index label', label = .session index label'
  · obtain ⟨index, label, rfl⟩ := own
    obtain ⟨session, found, after⟩ := Option.bind_eq_some_iff.mp offered
    obtain ⟨⟨new, actions⟩, ran, handed⟩ := Option.bind_eq_some_iff.mp after
    have shape : server = { program.server with
        sessions := program.server.sessions.set index new
        activeCount := program.server.activeCount - actions.count .release } := by
      simp only [Server.step, found, ran, Option.bind_some, Option.map_some,
        Option.some.injEq] at moved
      exact moved ▸ rfl
    subst shape
    have lower := serverSession_effort found (sessionStep_move ran)
      (program.server.activeCount - actions.count .release)
    have queued : system.labor ≤ program.process.pipeline.system.labor +
        21 * (offerActs index actions).length := offerBodies_labor handed
    have still : 12 * (program.server.scrapes.length - program.server.scrapes.length) = 0 := by
      omega
    simp only [still] at asked
    simp only [Process.labor, ServerLabel.income, main]
    omega
  · have lower := serverMove_effort (serverStep_move moved) fun index label' same =>
      own ⟨index, label', same⟩
    have unmoved : system = program.process.pipeline.system := by
      cases label with
      | session index label' => exact absurd ⟨index, label', rfl⟩ own
      | _ => exact (Option.some.inj offered).symm
    subst unmoved
    simp only [Process.labor, main]
    omega

theorem program_pays {program next : Program capacity} {label : ProgramLabel}
    (stepped : program.step parse deployment label = some next) :
    next.effort + program.toils label ≤ program.effort + label.income := by
  cases label with
  | io label => exact programIo_pays stepped
  | load index =>
      obtain ⟨-, old, new, found, loaded, rfl⟩ := programLoad_cases stepped
      have exchanged := tally_set Request.effort new found
      have lower := load_effort loaded
      simp only [Program.effort, Program.toils, ProgramLabel.income]
      omega
  | process label =>
      obtain ⟨silent, -, process, ran, rfl⟩ := programProcess_cases stepped
      have paid := process_pays ran
      have nothing : label.income = 0 := by
        cases label with
        | main input => rfl
        | thread clock label =>
            cases label with
            | offer session data => exact absurd rfl (silent clock session data)
            | _ => rfl
      simp only [Program.effort, Program.toils, ProgramLabel.income]
      omega

/-! Without the clients there is always somebody who can go on. -/

/-- A step that needs nobody to connect, to send or to read anything or to raise a signal.
A read or write that fails is a client that has closed. -/
def ProgramLabel.unaided : ProgramLabel → Bool
  | .io (.session _ (.receive _)) => false
  | .io (.scrapeCompletes _ failed) => failed
  | .io (.session _ _) | .io (.runScrape _) => true
  | .io _ => false
  | .load _ => true
  | .process label => label.inner

/-- No operation of a session or a scrape is outstanding. -/
structure Deserted (server : Server) : Prop where
  sessions : ∀ session ∈ server.sessions, session.outstanding = 0
  scrapes : ∀ scrape ∈ server.scrapes, scrape = .done

def CanMove (parse : Bytes → Option Event) (deployment : Deployment)
    (program : Program capacity) : Prop :=
  ∃ label next, label.unaided = true ∧ program.step parse deployment label = some next ∧
    program.toils label = 1

theorem unaided_income {label : ProgramLabel} (unaided : label.unaided = true) :
    label.income = 0 := by
  cases label with
  | io label =>
      cases label with
      | session index label =>
          cases label with
          | receive chunk => simp [ProgramLabel.unaided] at unaided
          | _ => rfl
      | scrapeCompletes index failed => rfl
      | runScrape index => rfl
      | _ => simp [ProgramLabel.unaided] at unaided
  | load index => rfl
  | process label => rfl

theorem io_goes {program : Program capacity} {label : ServerLabel} {server : Server}
    {system : System capacity} {requests : List Request}
    (serving : program.process.main = .serving) (moved : program.server.step label = some server)
    (offered : program.offered label = some system)
    (requested : program.requested server label = some requests) :
    ∃ next, program.io label = some next := by
  simp only [Program.io, moved, offered, requested, Option.bind_some, Option.map_some]
  exact ⟨_, if_pos serving⟩

theorem canMove_session {program : Program capacity} {index : Nat} {label : SessionLabel}
    {session new : Session} {actions : List SessionAction} {system : System capacity}
    (serving : program.process.main = .serving)
    (found : program.server.sessions[index]? = some session)
    (ran : session.step label = some (new, actions))
    (handed : offerBodies index program.process.pipeline.system actions = some system)
    (silent : ∀ chunk, label ≠ .receive chunk) : CanMove parse deployment program := by
  have moved : ∃ server, program.server.step (.session index label) = some server := by
    simp only [Server.step, found, ran, Option.bind_some, Option.map_some]
    exact ⟨_, rfl⟩
  have offered : program.offered (.session index label) = some system := by
    simp only [Program.offered, found, ran, Option.bind_some, handed]
  obtain ⟨server, moved⟩ := moved
  obtain ⟨next, stepped⟩ := io_goes serving moved offered rfl
  refine ⟨.io (.session index label), next, ?_, stepped, rfl⟩
  cases label with
  | receive chunk => exact absurd rfl (silent chunk)
  | _ => rfl

theorem offer_goes {system : System capacity} {index : Nat} (data : Bytes)
    (notCalled : system.stop = .notCalled) (reading : system.sessions[index]? = some .reading) :
    ∃ (accepted : Bool) (next : System capacity), offerBodies index system
      (.offer data :: if accepted then [] else [.drop]) = some next := by
  obtain ⟨bound, -⟩ := List.getElem?_eq_some_iff.mp reading
  rcases ThreadSafeQueue.tryPush_cases system.shared.queue
    ⟨index, system.shared.accepted.length, data⟩ with ⟨-, full⟩ | ⟨-, queue, -, pushed⟩
  · have took := offer_full system notCalled reading full
    exact ⟨false, _, Option.bind_eq_some_iff.mpr ⟨_, took, if_pos (by simp [bound])⟩⟩
  · have took := offer_pushed system notCalled reading pushed
    exact ⟨true, _, Option.bind_eq_some_iff.mpr ⟨_, took, if_pos (by simp [reading])⟩⟩

/-- Each session that there is has its place at the queue, and nothing has been stopped. -/
structure Attended (program : Program capacity) : Prop where
  serving : program.process.main = .serving
  notCalled : program.process.pipeline.system.stop = .notCalled
  seats : program.process.pipeline.system.sessions.length = program.server.sessions.length
  loading : ∀ request ∈ program.requests, ∀ values, request = .loading values →
    values.length < Metric.all.length

theorem canMove_quiet {program : Program capacity} {index : Nat} {label : SessionLabel}
    {session new : Session} {actions : List SessionAction} (attended : Attended program)
    (found : program.server.sessions[index]? = some session)
    (ran : session.step label = some (new, actions))
    (quiet : ∀ data rest, actions ≠ .offer data :: rest)
    (silent : ∀ chunk, label ≠ .receive chunk) : CanMove parse deployment program := by
  have handed : offerBodies index program.process.pipeline.system actions =
      some program.process.pipeline.system := by
    unfold offerBodies
    split
    · exact absurd rfl (quiet _ _)
    · rfl
  exact canMove_session attended.serving found ran handed silent

theorem program_inner {program : Program capacity} {process : Process capacity}
    {label : ProcessLabel} (inner : label.inner = true)
    (stepped : program.process.step parse deployment label = some process) :
    program.step parse deployment (.process label) =
      some { program with process := process } := by
  cases label with
  | main input => simp [ProcessLabel.inner] at inner
  | thread clock label =>
      cases label with
      | offer session data => simp [ProcessLabel.inner] at inner
      | _ =>
          simp only [Program.step, ProcessLabel.isMain, Bool.false_eq_true, false_and, and_false,
            if_false]
          exact Option.map_eq_some_iff.mpr ⟨process, stepped, rfl⟩

theorem CanToil.canMove {program : Program capacity}
    (toils : CanToil parse deployment program.process) : CanMove parse deployment program := by
  obtain ⟨label, process, inner, stepped, counted⟩ := toils
  exact ⟨.process label, _, inner, program_inner inner stepped, counted⟩

theorem canMove_body {program : Program capacity} {index : Nat} {session : Session}
    (attended : Attended program) (found : program.server.sessions[index]? = some session)
    (ready : session.read = .ready .body false) : CanMove parse deployment program := by
  obtain ⟨bound, -⟩ := List.getElem?_eq_some_iff.mp found
  have placed : index < program.process.pipeline.system.sessions.length :=
    attended.seats.symm ▸ bound
  obtain ⟨place, seated⟩ : ∃ place, program.process.pipeline.system.sessions[index]? = some place :=
    ⟨_, List.getElem?_eq_getElem placed⟩
  cases place with
  | dropping =>
      exact (canToil_drop attended.serving (List.mem_of_getElem? seated)).canMove
  | reading =>
      obtain ⟨accepted, system, handed⟩ := offer_goes session.body attended.notCalled seated
      have ran : ∃ new, session.step (.runRead accepted) =
          some (new, .offer session.body :: if accepted then [] else [.drop]) := by
        simp only [Session.step, ready, Session.bodyRead, Bool.not_false, if_true]
        exact ⟨_, rfl⟩
      obtain ⟨new, ran⟩ := ran
      exact canMove_session attended.serving found ran handed (by simp)

theorem canMove_read {program : Program capacity} {index : Nat} {session : Session}
    (attended : Attended program) (found : program.server.sessions[index]? = some session)
    (reading : session.read ≠ .idle) : CanMove parse deployment program := by
  cases at_ : session.read with
  | idle => exact absurd at_ reading
  | pending stage filled =>
      have ran : session.step .readFails =
          some ({ session with read := .ready stage true }, []) := by
        simp only [Session.step, at_]
      exact canMove_quiet attended found ran (by simp) (by simp)
  | ready stage failed =>
      by_cases body : stage = .body ∧ failed = false
      · obtain ⟨rfl, rfl⟩ := body
        exact canMove_body attended found at_
      · obtain ⟨new, actions, ran⟩ : ∃ new actions,
            session.step (.runRead false) = some (new, actions) := by
          cases stage <;> simp only [Session.step, at_] <;> exact ⟨_, _, rfl⟩
        refine canMove_quiet attended found ran ?_ (by simp)
        intro data rest same
        cases sessionStep_move ran with
        | accept _ _ _ => simp at same
        | reject _ _ => simp at same
        | bodyRead ready =>
            rw [at_, ReadOp.ready.injEq] at ready
            exact body ready
        | closed _ => split at same <;> simp at same

theorem canMove_outstanding {program : Program capacity} {index : Nat} {session : Session}
    (attended : Attended program) (found : program.server.sessions[index]? = some session)
    (busy : session.outstanding ≠ 0) : CanMove parse deployment program := by
  by_cases reading : session.read = .idle
  case neg => exact canMove_read attended found reading
  by_cases waiting : 0 < session.waits
  · have ran : session.step .expire = some
        ({ session with waits := 0, expired := session.expired + session.waits }, []) :=
      if_pos waiting
    exact canMove_quiet attended found ran (by simp) (by simp)
  by_cases queued : 0 < session.expired
  · obtain ⟨new, actions, ran⟩ : ∃ new actions,
        session.step .runExpired = some (new, actions) := ⟨_, _, if_pos queued⟩
    refine canMove_quiet attended found ran (fun data rest same => ?_) (by simp)
    cases sessionStep_move ran with
    | timeout _ => split at same <;> simp at same
  by_cases cancelled : 0 < session.aborted
  · have ran : session.step .runAborted =
        some ({ session with aborted := session.aborted - 1 }, []) := if_pos cancelled
    exact canMove_quiet attended found ran (by simp) (by simp)
  · simp only [Session.outstanding, reading, if_true] at busy
    omega

theorem canMove_completion {program : Program capacity} {index : Nat} {scrape new : Scrape}
    (attended : Attended program) (found : program.server.scrapes[index]? = some scrape)
    (completed : Server.scrapeStep scrape true = some new) :
    CanMove parse deployment program := by
  have moved : ∃ server, program.server.step (.scrapeCompletes index true) = some server := by
    simp only [Server.step, found, completed, Option.bind_some, Option.map_some]
    exact ⟨_, rfl⟩
  obtain ⟨server, moved⟩ := moved
  obtain ⟨requests, requested⟩ : ∃ requests,
      program.requested server (.scrapeCompletes index true) = some requests := by
    simp only [Program.requested]
    split <;> exact ⟨_, rfl⟩
  obtain ⟨next, stepped⟩ := io_goes attended.serving moved rfl requested
  exact ⟨.io (.scrapeCompletes index true), next, rfl, stepped, rfl⟩

/-- A scrape's handler runs, or loads the next counter first. -/
theorem canMove_handler {program : Program capacity} {index : Nat} {scrape new : Scrape}
    (attended : Attended program) (found : program.server.scrapes[index]? = some scrape)
    (ran : Server.runScrapeHandler scrape = some new) : CanMove parse deployment program := by
  by_cases loading : (program.requests[index]?).any Request.inHandler = true
  · obtain ⟨request, held, inside⟩ := (Option.any_eq_true _ _).mp loading
    cases request with
    | loading values =>
        have below := attended.loading _ (List.mem_of_getElem? held) values rfl
        have next := List.getElem?_eq_getElem below
        have stepped : ∃ after, program.step parse deployment (.load index) = some after := by
          simp only [Program.step, held, Option.bind_some, Request.load, next, Option.map_some]
          exact ⟨_, if_pos attended.serving⟩
        obtain ⟨after, stepped⟩ := stepped
        exact ⟨_, after, rfl, stepped, rfl⟩
    | _ => simp [Request.inHandler] at inside
  · have moved : ∃ server, program.server.step (.runScrape index) = some server := by
      simp only [Server.step, found, ran, Option.bind_some, Option.map_some]
      exact ⟨_, rfl⟩
    obtain ⟨server, moved⟩ := moved
    have requested : program.requested server (.runScrape index) = some program.requests :=
      if_neg loading
    obtain ⟨next, stepped⟩ := io_goes attended.serving moved rfl requested
    exact ⟨.io (.runScrape index), next, rfl, stepped, rfl⟩

theorem canMove_scrape {program : Program capacity} {index : Nat} {scrape : Scrape}
    (attended : Attended program) (found : program.server.scrapes[index]? = some scrape)
    (busy : scrape ≠ .done) : CanMove parse deployment program := by
  cases scrape with
  | reading => exact canMove_completion attended found rfl
  | read failed => exact canMove_handler attended found rfl
  | writing => exact canMove_completion attended found rfl
  | written => exact canMove_handler attended found rfl
  | done => exact absurd rfl busy

theorem canMove_busy {program : Program capacity} (attended : Attended program)
    (busy : ¬ Deserted program.server) : CanMove parse deployment program := by
  by_cases sessions : ∀ session ∈ program.server.sessions, session.outstanding = 0
  · by_cases scrapes : ∀ scrape ∈ program.server.scrapes, scrape = .done
    · exact absurd ⟨sessions, scrapes⟩ busy
    · simp only [not_forall] at scrapes
      obtain ⟨scrape, member, open_⟩ := scrapes
      obtain ⟨index, found⟩ := List.mem_iff_getElem?.mp member
      exact canMove_scrape attended found open_
  · simp only [not_forall] at sessions
    obtain ⟨session, member, outstanding⟩ := sessions
    obtain ⟨index, found⟩ := List.mem_iff_getElem?.mp member
    exact canMove_outstanding attended found outstanding

variable {redis : CounterStore Bytes} {workers : Nat}

theorem monitored_loading {sessions : Nat} {monitored : Monitored capacity}
    (reachable : (monitoredMachine parse deployment redis capacity sessions workers).Reachable
      monitored) :
    ∀ request ∈ monitored.requests, ∀ values, request = .loading values →
      values.length < Metric.all.length := by
  refine Machine.reachable_invariant (fun monitored : Monitored capacity =>
    ∀ request ∈ monitored.requests, ∀ values, request = .loading values →
      values.length < Metric.all.length) (by simp [monitoredMachine]) ?_ reachable
  intro before label after holds stepped
  cases monitoredStep_move stepped with
  | process _ => exact holds
  | connect =>
      intro request member
      rcases List.mem_append.mp member with earlier | newest
      · exact holds request earlier
      · simp [List.mem_singleton.mp newest]
  | fail _ => exact forall_set holds (by simp)
  | begin _ =>
      refine forall_set holds fun values same => ?_
      rw [← Request.loading.inj same]
      decide
  | @load index old new found loaded =>
      refine forall_set holds fun values same => ?_
      subst same
      cases old with
      | loading earlier =>
          obtain ⟨metric, next, turned⟩ := Option.map_eq_some_iff.mp loaded
          have below := (List.getElem?_eq_some_iff.mp next).1
          simp only at turned
          split at turned
          · simp at turned
          · rename_i unfinished
            obtain rfl := Request.loading.inj turned
            rw [List.length_append, List.length_singleton] at unfinished ⊢
            omega
      | _ => simp [Request.load] at loaded

theorem seated_own (program : Program capacity) :
    program.seated program.server.sessions.length = program.process := by
  rw [Program.seated, Nat.sub_self, Process.seat_zero]

theorem program_attended {program : Program capacity}
    (reachable : (programMachine parse deployment redis capacity workers).Reachable program) :
    Attended program := by
  obtain ⟨labels, reached⟩ := reachable
  have serving := (program_serving ⟨labels, reached⟩).2
  have ran := program_process reached (Nat.le_refl _)
  rw [seated_own] at ran
  have process : (processMachine parse deployment redis capacity
      program.server.sessions.length workers).Reachable program.process := ⟨_, ran⟩
  refine ⟨serving, ?_, systemMachine_sessions (processSystem.reachable process), ?_⟩
  · rw [(process_staged process).stop, serving]
    rfl
  · exact monitored_loading ⟨_, program_monitored reached (Nat.le_refl _)⟩

/-! The way to the end. -/

theorem accepted_grows {program next : Program capacity} {label : ProgramLabel}
    (stepped : program.step parse deployment label = some next) :
    program.process.pipeline.system.shared.accepted <+:
      next.process.pipeline.system.shared.accepted := by
  cases label with
  | io label =>
      obtain ⟨-, server, system, requests, -, offered, -, rfl⟩ := programIo_cases stepped
      change _ <+: system.shared.accepted
      cases label with
      | session index label =>
          obtain ⟨session, -, after⟩ := Option.bind_eq_some_iff.mp offered
          obtain ⟨moved, -, handed⟩ := Option.bind_eq_some_iff.mp after
          rcases offerBodies_cases handed with rfl | ⟨data, rest, -, took⟩
          · exact List.prefix_refl _
          · obtain ⟨-, ⟨-, rfl⟩ | ⟨queue, -, rfl⟩⟩ := offer_cases took
            · exact List.prefix_refl _
            · exact List.prefix_append _ _
      | _ => exact Option.some.inj offered ▸ List.prefix_refl _
  | load index =>
      obtain ⟨-, old, new, -, -, rfl⟩ := programLoad_cases stepped
      exact List.prefix_refl _
  | process label =>
      obtain ⟨silent, -, process, ran, rfl⟩ := programProcess_cases stepped
      exact (processStep_silent silent ran).1 ▸ List.prefix_refl _

/-- With the clients gone, every session and scrape can come to its end. -/
theorem program_deserts {program : Program capacity}
    (reachable : (programMachine parse deployment redis capacity workers).Reachable program) :
    ∃ labels final, (∀ label ∈ labels, label.unaided = true) ∧
      (programMachine parse deployment redis capacity workers).run program labels = some final ∧
      (program.process.pipeline.system.shared.accepted <+:
        final.process.pipeline.system.shared.accepted) ∧ Deserted final.server := by
  let machine := programMachine parse deployment redis capacity workers
  let accepted := program.process.pipeline.system.shared.accepted
  let later (program : Program capacity) : Prop :=
    machine.Reachable program ∧ accepted <+: program.process.pipeline.system.shared.accepted
  have progress (program : Program capacity) (holds : later program)
      (busy : ¬ Deserted program.server) : ∃ labels next,
      (∀ label ∈ labels, label.unaided = true) ∧ machine.run program labels = some next ∧
      later next ∧ next.effort < program.effort := by
    obtain ⟨reachable, kept⟩ := holds
    obtain ⟨label, next, unaided, stepped, counted⟩ : CanMove parse deployment program :=
      canMove_busy (program_attended reachable) busy
    have paid := program_pays stepped
    rw [unaided_income unaided, counted] at paid
    refine ⟨[label], next, by simpa using unaided, ?_,
      ⟨reachable.step stepped, kept.trans (accepted_grows stepped)⟩, by omega⟩
    exact Machine.run_cons_some.mpr ⟨next, stepped, rfl⟩
  obtain ⟨labels, final, unaided, ran, ⟨-, kept⟩, deserted⟩ :=
    Machine.reaches_of_progress later (fun program => Deserted program.server)
      (fun label : ProgramLabel => label.unaided = true) Program.effort progress
      ⟨reachable, List.prefix_refl _⟩
  exact ⟨labels, final, unaided, ran, kept, deserted⟩

/-- Then nothing is counted and no socket is held. -/
theorem deserted_closed {server : Server} (reachable : serverMachine.Reachable server)
    (deserted : Deserted server) : server.activeCount = 0 ∧ openSockets server = 0 := by
  have counted := serverMachine_counted reachable
  have silent (session : Session) (member : session ∈ server.sessions) :
      session.read = .idle ∧ session.timerHandlers = 0 := by
    have none : ¬ 0 < session.outstanding := by
      rw [deserted.sessions session member]
      exact Nat.lt_irrefl 0
    rw [outstanding_pos, not_or, not_not] at none
    exact ⟨none.1, Nat.eq_zero_of_not_pos none.2⟩
  have active : server.sessions.countP Session.isActive = 0 := by
    rw [List.countP_eq_zero]
    intro session member
    cases cleaned : session.cleanedUp with
    | true => simp [Session.isActive, cleaned]
    | false => exact absurd (silent session member).1 (counted.alive session member cleaned).2
  refine ⟨by rw [counted.active, active]; rfl, ?_⟩
  rw [openSockets, List.countP_eq_zero]
  intro session member
  simp [Session.holdsSocket, deserted.sessions session member]

theorem program_runs {server : Server} {requests : List Request}
    {labels : List ProcessLabel} {process final : Process capacity} {sessions : Nat}
    (inner : ∀ label ∈ labels, label.inner = true)
    (ran : (processMachine parse deployment redis capacity sessions workers).run process labels =
      some final) :
    (programMachine parse deployment redis capacity workers).run ⟨server, requests, process⟩
      (labels.map .process) = some ⟨server, requests, final⟩ ∧
    (programMachine parse deployment redis capacity workers).log Program.acts
      ⟨server, requests, process⟩ (labels.map .process) = labels := by
  induction labels generalizing process with
  | nil =>
      obtain rfl := Option.some.inj ran
      exact ⟨rfl, rfl⟩
  | cons label rest ih =>
      obtain ⟨next, stepped, tail⟩ := Machine.run_cons_some.mp ran
      have moved : (programMachine parse deployment redis capacity workers).step
          ⟨server, requests, process⟩ (.process label) = some ⟨server, requests, next⟩ := by
        have held : Process.step parse deployment
            (⟨server, requests, process⟩ : Program capacity).process label = some next := stepped
        exact program_inner (inner label List.mem_cons_self) held
      obtain ⟨later, logged⟩ := ih
        (fun other member => inner other (List.mem_cons_of_mem _ member)) tail
      refine ⟨Machine.run_cons_some.mpr ⟨_, moved, later⟩, ?_⟩
      simp only [List.map_cons, Machine.log, moved, logged]
      rfl

theorem program_empties {before : List ProgramLabel} {program : Program capacity}
    (reached : (programMachine parse deployment redis capacity workers).run
      (programMachine parse deployment redis capacity workers).initial before = some program)
    (manned : 0 < workers) :
    ∃ labels final, (∀ label ∈ labels, label.unaided = true) ∧
      (programMachine parse deployment redis capacity workers).run program labels = some final ∧
      Deserted final.server ∧ final.server.activeCount = 0 ∧ openSockets final.server = 0 ∧
      final.process.main = .serving ∧
      (program.process.pipeline.system.shared.accepted <+:
        final.process.pipeline.system.shared.accepted) ∧
      rdKafkaOutqLen final.process.pipeline.kafka = 0 ∧
      final.process.pipeline.storage.buffer = [] ∧
      Settlement parse deployment final.process
        ((processMachine parse deployment redis capacity final.server.sessions.length
          workers).total Process.loses
          (processMachine parse deployment redis capacity final.server.sessions.length
            workers).initial
          ((programMachine parse deployment redis capacity workers).log Program.acts
            (programMachine parse deployment redis capacity workers).initial
            (before ++ labels))) := by
  let machine := programMachine parse deployment redis capacity workers
  have reachable : machine.Reachable program := ⟨before, reached⟩
  obtain ⟨first, middle, unaided, ran, kept, deserted⟩ := program_deserts reachable
  have whole : machine.run machine.initial (before ++ first) = some middle := by
    rw [Machine.run_append reached, ran]
  have process := program_process whole (Nat.le_refl _)
  rw [seated_own] at process
  obtain ⟨server, serving⟩ := program_serving ⟨_, whole⟩
  obtain ⟨second, final, inner, worked, still, same, reported, empty, settled⟩ :=
    serving_catchesUp process serving manned
  obtain ⟨later, logged⟩ : machine.run middle (second.map .process) =
        some { middle with process := final } ∧
      machine.log Program.acts middle (second.map .process) = second :=
    program_runs inner worked
  have after : machine.run program (first ++ second.map .process) =
      some { middle with process := final } := by
    rw [Machine.run_append ran]
    exact later
  have log : machine.log Program.acts machine.initial (before ++ (first ++ second.map .process)) =
      machine.log Program.acts machine.initial (before ++ first) ++ second := by
    rw [← List.append_assoc, Machine.log_append Program.acts whole, logged]
  obtain ⟨nobody, closed⟩ := deserted_closed server deserted
  refine ⟨first ++ second.map .process, { middle with process := final }, ?_, after, deserted,
    nobody, closed, still, ?_, reported, empty, ?_⟩
  · intro label member
    rcases List.mem_append.mp member with early | late
    · exact unaided label early
    · obtain ⟨own, among, rfl⟩ := List.mem_map.mp late
      exact inner own among
  · exact same ▸ kept
  · rw [log]
    exact settled

/-- Every step is paid for by what comes in from outside and by what was left to do, but for
the rounds in which a thread finds nothing. And once the clients close, before a signal and
after it, the program can go on until no session, scrape, event, report or row is left,
though `main` still does not return. -/
theorem program_windsDown (parse : Bytes → Option Event) (deployment : Deployment)
    (redis : CounterStore Bytes) (workers : Nat) {before : List ProgramLabel}
    {program : Program capacity}
    (reached : (programMachine parse deployment redis capacity workers).run
      (programMachine parse deployment redis capacity workers).initial before = some program) :
    (∀ labels final,
      (programMachine parse deployment redis capacity workers).run program labels = some final →
      final.effort + (programMachine parse deployment redis capacity workers).total
        Program.toils program labels ≤
      program.effort + (programMachine parse deployment redis capacity workers).total
        (fun _ label => label.income) program labels) ∧
    (0 < workers → ∃ labels final, (∀ label ∈ labels, label.unaided = true) ∧
      (programMachine parse deployment redis capacity workers).run program labels = some final ∧
      Deserted final.server ∧ final.server.activeCount = 0 ∧ openSockets final.server = 0 ∧
      final.process.main = .serving ∧
      (program.process.pipeline.system.shared.accepted <+:
        final.process.pipeline.system.shared.accepted) ∧
      rdKafkaOutqLen final.process.pipeline.kafka = 0 ∧
      final.process.pipeline.storage.buffer = [] ∧
      Settlement parse deployment final.process
        ((processMachine parse deployment redis capacity final.server.sessions.length
          workers).total Process.loses
          (processMachine parse deployment redis capacity final.server.sessions.length
            workers).initial
          ((programMachine parse deployment redis capacity workers).log Program.acts
            (programMachine parse deployment redis capacity workers).initial
            (before ++ labels)))) := by
  refine ⟨fun labels final ran => ?_, program_empties reached⟩
  exact Machine.total_le_of_pays (fun _ => True) Program.effort Program.toils
    (fun _ label => label.income) (fun _ _ _ _ _ => trivial)
    (fun _ _ _ _ stepped => program_pays stepped) trivial ran

end

/-- An event has been passed on, its session reads on and a scrape has loaded its first
counter. -/
theorem program_windsDown_midway : ∃ program : Program 2,
    (programMachine sampleParse ⟨none, true, true⟩ (fun _ => none) 2 1).run
      (programMachine sampleParse ⟨none, true, true⟩ (fun _ => none) 2 1).initial
      (servedOnce.take 22) = some program ∧
    (passedOn program.process.pipeline.system.shared.finished).length = 1 ∧
    (∀ labels final,
      (programMachine sampleParse ⟨none, true, true⟩ (fun _ => none) 2 1).run program labels =
        some final →
      (programMachine sampleParse ⟨none, true, true⟩ (fun _ => none) 2 1).total Program.toils
        program labels ≤
      39 + (programMachine sampleParse ⟨none, true, true⟩ (fun _ => none) 2 1).total
        (fun _ label => label.income) program labels) ∧
    ∃ labels final,
      (programMachine sampleParse ⟨none, true, true⟩ (fun _ => none) 2 1).run program labels =
        some final ∧
      openSockets final.server = 0 ∧ final.process.main = .serving ∧
      final.process.pipeline.storage.buffer = [] ∧
      0 < final.process.pipeline.metrics.totalParseFail +
        final.process.pipeline.metrics.totalInvalid +
        final.process.pipeline.metrics.totalRateLimited +
        (passedOn final.process.pipeline.system.shared.finished).length := by
  have serves : ((programMachine sampleParse ⟨none, true, true⟩ (fun _ => none) 2 1).run
      (programMachine sampleParse ⟨none, true, true⟩ (fun _ => none) 2 1).initial
      (servedOnce.take 22)).map (fun program : Program 2 =>
        (program.effort, program.process.pipeline.system.shared.accepted.length,
          (passedOn program.process.pipeline.system.shared.finished).length)) =
      some (39, 1, 1) := by
    decide
  obtain ⟨program, reached, summary⟩ := Option.map_eq_some_iff.mp serves
  simp only [Prod.mk.injEq] at summary
  obtain ⟨effort, accepted, passed⟩ := summary
  obtain ⟨bounded, windsDown⟩ :=
    program_windsDown sampleParse ⟨none, true, true⟩ (fun _ => none) 1 reached
  obtain ⟨labels, final, -, ran, -, -, closed, serving, kept, -, empty, settled⟩ :=
    windsDown (by decide)
  refine ⟨program, reached, passed, ?_, labels, final, ran, closed, serving, empty, ?_⟩
  · intro labels final ran
    have paid := bounded labels final ran
    omega
  · rw [← settled.fates]
    exact Nat.lt_of_lt_of_le (accepted ▸ Nat.zero_lt_one) kept.length_le

end EventCollector
