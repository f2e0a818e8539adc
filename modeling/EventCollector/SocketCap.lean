import EventCollector.ConnectionCount
import EventCollector.Shutdown

/-!
How many sockets the sessions hold. A socket is closed by `socket_.close()` or with
its `Session`, and a `Session` lives as long as a handler holds it. The handlers of a
failed read only call `cleanup`, so that the socket stays open until the timer's
handler is gone while the counter has already forgotten it.
-/

namespace EventCollector

open Ledger

namespace Session

def timerHandlers (session : Session) : Nat :=
  session.waits + session.expired + session.aborted

def holdsSocket (session : Session) : Bool :=
  session.socketOpen && decide (0 < session.outstanding)

def lingers (session : Session) : Bool := session.cleanedUp && session.holdsSocket

end Session

def openSockets (server : Server) : Nat := server.sessions.countP Session.holdsSocket

def WithinCap (server : Server) : Prop := openSockets server ≤ maxConnections

instance : DecidablePred WithinCap := fun _ => inferInstanceAs (Decidable (_ ≤ _))

/-- The handler of a failed read runs on an open socket while a handler of the timer
still holds the session. -/
def leavesOpen (server : Server) : ServerLabel → Bool
  | .session index (.runRead _) =>
      match server.sessions[index]? with
      | some session =>
          match session.read with
          | .ready _ true => session.socketOpen && decide (0 < session.timerHandlers)
          | _ => false
      | none => false
  | _ => false

def Closes (server : Server) (label : ServerLabel) : Prop := leavesOpen server label = false

instance (server : Server) (label : ServerLabel) : Decidable (Closes server label) :=
  inferInstanceAs (Decidable (_ = _))

/-! The sockets held are those of the sessions counted and of those that linger. -/

theorem outstanding_pos {session : Session} :
    0 < session.outstanding ↔ session.read ≠ .idle ∨ 0 < session.timerHandlers := by
  unfold Session.outstanding Session.timerHandlers
  by_cases idle : session.read = .idle
  · have notReading : ¬ session.read ≠ .idle := fun reading => reading idle
    rw [if_pos idle, or_iff_right notReading]
    omega
  · refine iff_of_true ?_ (Or.inl idle)
    rw [if_neg idle]
    omega

theorem lingers_iff {session : Session} : session.lingers = true ↔
    session.cleanedUp = true ∧ session.socketOpen = true ∧
      (session.read ≠ .idle ∨ 0 < session.timerHandlers) := by
  rw [← outstanding_pos]
  simp only [Session.lingers, Session.holdsSocket, Bool.and_eq_true, decide_eq_true_eq]

theorem active_holdsSocket {session : Session}
    (alive : session.cleanedUp = false → session.socketOpen = true ∧ session.read ≠ .idle) :
    indicator Session.holdsSocket session =
      indicator Session.isActive session + indicator Session.lingers session := by
  cases cleaned : session.cleanedUp with
  | true => simp [indicator, Session.isActive, Session.lingers, cleaned]
  | false =>
      obtain ⟨isOpen, reading⟩ := alive cleaned
      have outstanding : 0 < session.outstanding := outstanding_pos.mpr (Or.inl reading)
      simp [indicator, Session.isActive, Session.lingers, Session.holdsSocket, cleaned, isOpen,
        outstanding]

theorem openSockets_eq {server : Server} (counted : Counted server) :
    openSockets server =
      server.sessions.countP Session.isActive + server.sessions.countP Session.lingers := by
  have alive := counted.alive
  unfold openSockets
  generalize server.sessions = sessions at alive
  induction sessions with
  | nil => rfl
  | cons session rest ih =>
      have later := ih fun other member => alive other (List.mem_cons_of_mem session member)
      have first := active_holdsSocket (alive session List.mem_cons_self)
      simp only [countP_eq_tally, tally_cons] at later ⊢
      omega

/-! As long as every session closes its socket in time, none lingers. -/

theorem sessionMove_lingers {session next : Session} {label : SessionLabel}
    {actions : List SessionAction} (moved : SessionMove session label next actions)
    (none : session.lingers = false)
    (closes : ∀ accepted stage, label = .runRead accepted → session.read = .ready stage true →
      session.socketOpen = true → session.timerHandlers = 0) : next.lingers = false := by
  have absent : ¬ (session.cleanedUp = true ∧ session.socketOpen = true ∧
      (session.read ≠ .idle ∨ 0 < session.timerHandlers)) := by
    rw [← lingers_iff, none]
    decide
  refine Bool.eq_false_iff.mpr fun lingers => ?_
  obtain ⟨cleaned, isOpen, held⟩ := lingers_iff.mp lingers
  cases moved with
  | @receive stage filled chunk reading socketOpen _ _ =>
      have still : (session.receive stage filled chunk).cleanedUp = session.cleanedUp := by
        cases stage <;> rfl
      exact absent ⟨still ▸ cleaned, socketOpen, Or.inl (by simp [reading])⟩
  | readFails reading => exact absent ⟨cleaned, isOpen, Or.inl (by simp [reading])⟩
  | accept ready _ _ => exact absent ⟨cleaned, isOpen, Or.inl (by simp [ready])⟩
  | reject _ _ => simp at isOpen
  | bodyRead ready => exact absent ⟨cleaned, isOpen, Or.inl (by simp [ready])⟩
  | closed ready =>
      have released := closes _ _ rfl ready isOpen
      rcases held with reading | timer
      · exact reading rfl
      · simp only [Session.timerHandlers] at released timer
        omega
  | expire waiting =>
      exact absent ⟨cleaned, isOpen, Or.inr (by simp only [Session.timerHandlers]; omega)⟩
  | timeout _ => simp at isOpen
  | aborted queued =>
      exact absent ⟨cleaned, isOpen, Or.inr (by simp only [Session.timerHandlers]; omega)⟩

theorem lingers_step {server next : Server} {label : ServerLabel}
    (none : ∀ session ∈ server.sessions, session.lingers = false)
    (closes : Closes server label) (moved : ServerMove server label next) :
    ∀ session ∈ next.sessions, session.lingers = false := by
  cases moved with
  | opens _ =>
      intro session member
      rcases List.mem_append.mp member with earlier | newest
      · exact none session earlier
      · rw [List.mem_singleton.mp newest]
        rfl
  | @session index own old new actions found moved =>
      refine forall_set none (sessionMove_lingers moved (none old (List.mem_of_getElem? found)) ?_)
      rintro accepted stage rfl failed isOpen
      simpa [Closes, leavesOpen, found, failed, isOpen] using closes
  | _ => exact none

theorem withinCap_of_closes {labels : List ServerLabel}
    (closes : serverMachine.Steps Closes serverMachine.initial labels) :
    serverMachine.Always WithinCap serverMachine.initial labels := by
  refine Machine.always_of_steps
    (fun server => Counted server ∧ ∀ session ∈ server.sessions, session.lingers = false)
    ?_ ?_ ⟨serverMachine_counted (Machine.Reachable.start serverMachine), by
      simp [serverMachine]⟩ closes
  · rintro server ⟨counted, none⟩
    have nobody : server.sessions.countP Session.lingers = 0 := by
      rw [List.countP_eq_zero]
      intro session member
      simp [none session member]
    have sockets := openSockets_eq counted
    have active := counted.active
    have bounded := counted.bounded
    unfold WithinCap
    omega
  · rintro server label next ⟨counted, none⟩ closes stepped
    have moved := serverStep_move stepped
    exact ⟨counted_step counted moved, lingers_step none closes moved⟩

/-! Conversely, once a session lingers the clients can take up the whole cap. -/

def Server.admitted (server : Server) : Server :=
  { server with
    accepts := [.pending]
    sessions := server.sessions ++ [Session.opened.start]
    activeCount := server.activeCount + 1 }

structure Admits (server final : Server) : Prop where
  sessions : final.sessions = server.sessions ++ [Session.opened.start]
  isOpen : final.acceptorOpen = true

theorem admits_connected (server : Server) (isOpen : server.acceptorOpen = true)
    (room : server.atCapacity = false) (chain : server.accepts = [.connected true]) :
    ∃ labels final, serverMachine.run server labels = some final ∧ Admits server final := by
  refine ⟨[.runAccept 0, .runAccept 0], server.admitted, ?_, ⟨rfl, isOpen⟩⟩
  simp [Machine.run, serverMachine, Server.step, Server.accepted, chain, room, Server.openSession,
    Server.start, Server.admitted]

theorem admits_pending (server : Server) (isOpen : server.acceptorOpen = true)
    (room : server.atCapacity = false) (chain : server.accepts = [.pending]) :
    ∃ labels final, serverMachine.run server labels = some final ∧ Admits server final := by
  let connected : Server := { server with accepts := [.connected true] }
  have connects : serverMachine.step server (.connect 0 true) = some connected := by
    simp [serverMachine, Server.step, Server.complete, isOpen, chain, connected]
  obtain ⟨labels, final, reached, admits⟩ :=
    admits_connected connected isOpen room rfl
  exact ⟨.connect 0 true :: labels, final, Machine.run_cons_some.mpr ⟨connected, connects, reached⟩,
    ⟨admits.sessions, admits.isOpen⟩⟩

theorem admits_one {server : Server} (isOpen : server.acceptorOpen = true)
    (room : server.atCapacity = false) {op : AcceptOp} (chain : server.accepts = [op]) :
    ∃ labels final, serverMachine.run server labels = some final ∧ Admits server final := by
  have rearmed (steps : List ServerLabel)
      (reached : serverMachine.run server steps =
        some { server with accepts := [.pending] }) :
      ∃ labels final, serverMachine.run server labels = some final ∧ Admits server final := by
    obtain ⟨labels, final, later, admits⟩ :=
      admits_pending { server with accepts := [.pending] } isOpen room rfl
    exact ⟨steps ++ labels, final, by rw [Machine.run_append reached, later],
      ⟨admits.sessions, admits.isOpen⟩⟩
  cases op with
  | pending => exact admits_pending server isOpen room chain
  | connected endpoint =>
      cases endpoint with
      | true => exact admits_connected server isOpen room chain
      | false =>
          refine rearmed [.runAccept 0, .runAccept 0] ?_
          simp [Machine.run, serverMachine, Server.step, Server.accepted, chain, room, Server.start]
  | failed =>
      refine rearmed [.runAccept 0] ?_
      simp [Machine.run, serverMachine, Server.step, Server.accepted, chain, Server.start]
  | admitted endpoint =>
      cases endpoint with
      | true =>
          refine ⟨[.runAccept 0], server.admitted, ?_, ⟨rfl, isOpen⟩⟩
          simp [Machine.run, serverMachine, Server.step, Server.accepted, chain,
            Server.openSession, Server.start, Server.admitted]
      | false =>
          refine rearmed [.runAccept 0] ?_
          simp [Machine.run, serverMachine, Server.step, Server.accepted, chain, Server.start]

theorem admits_many (count : Nat) {server : Server} (reachable : serverMachine.Reachable server)
    (isOpen : server.acceptorOpen = true)
    (room : server.activeCount + count ≤ (maxConnections : Int)) :
    ∃ labels final, serverMachine.run server labels = some final ∧
      final.sessions = server.sessions ++ List.replicate count Session.opened.start := by
  induction count generalizing server with
  | zero => exact ⟨[], server, rfl, by simp⟩
  | succ count ih =>
      have counted := serverMachine_counted reachable
      obtain ⟨op, chain, -⟩ := counted.chain
      have below : server.atCapacity = false := by
        rw [Bool.eq_false_iff]
        intro full
        have reached := (atCapacity_iff counted).mp full
        omega
      obtain ⟨labels, middle, reached, admits⟩ := admits_one isOpen below chain
      have onward := reachable.run reached
      have one : middle.activeCount = server.activeCount + 1 := by
        have before := counted.active
        have after := (serverMachine_counted onward).active
        rw [admits.sessions, List.countP_append, List.countP_singleton,
          if_pos (show Session.opened.start.isActive = true from rfl)] at after
        omega
      obtain ⟨more, final, finished, sessions⟩ := ih onward admits.isOpen (by omega)
      refine ⟨labels ++ more, final, by rw [Machine.run_append reached, finished], ?_⟩
      rw [sessions, admits.sessions, List.append_assoc, List.singleton_append,
        List.replicate_succ]

theorem exceeds_of_lingering {server : Server} (reachable : serverMachine.Reachable server)
    (isOpen : server.acceptorOpen = true) {session : Session} (member : session ∈ server.sessions)
    (lingers : session.lingers = true) :
    ∃ labels final, serverMachine.run server labels = some final ∧ ¬ WithinCap final := by
  have counted := serverMachine_counted reachable
  have bounded := counted.bounded
  obtain ⟨labels, final, reached, sessions⟩ :=
    admits_many (maxConnections - server.activeCount).toNat reachable isOpen (by omega)
  refine ⟨labels, final, reached, ?_⟩
  have sockets := openSockets_eq (serverMachine_counted (reachable.run reached))
  have active := counted.active
  have lingering : 0 < server.sessions.countP Session.lingers :=
    List.countP_pos_iff.mpr ⟨session, member, lingers⟩
  rw [sessions, List.countP_append, List.countP_append, List.countP_replicate,
    if_pos (show Session.opened.start.isActive = true from rfl)] at sockets
  unfold WithinCap
  omega

theorem lingering_of_leavesOpen {server next : Server} {label : ServerLabel}
    (leaves : leavesOpen server label = true) (moved : ServerMove server label next) :
    next.acceptorOpen = server.acceptorOpen ∧
      ∃ session ∈ next.sessions, session.lingers = true := by
  cases moved with
  | @session index own old new actions found moved =>
      have bound := (List.getElem?_eq_some_iff.mp found).1
      refine ⟨rfl, new, List.mem_of_getElem? (List.getElem?_set_self bound), ?_⟩
      cases moved with
      | @closed stage accepted failed =>
          simp only [leavesOpen, found, failed, Bool.and_eq_true, decide_eq_true_eq] at leaves
          exact lingers_iff.mpr ⟨rfl, leaves.1, Or.inr leaves.2⟩
      | accept ready _ _ => simp [leavesOpen, found, ready] at leaves
      | reject ready _ => simp [leavesOpen, found, ready] at leaves
      | bodyRead ready => simp [leavesOpen, found, ready] at leaves
      | _ => simp [leavesOpen] at leaves
  | _ => simp [leavesOpen] at leaves

/-- The sockets held stay within the cap in every run in which each failed read is
the session's last handler or finds the socket closed; and while connections are
accepted, every step that leaves a socket open can be continued past the cap. -/
theorem serverMachine_capsSockets (labels : List ServerLabel) :
    (serverMachine.Steps Closes serverMachine.initial labels →
      serverMachine.Always WithinCap serverMachine.initial labels) ∧
    (∀ server label next, serverMachine.run serverMachine.initial labels = some server →
      server.acceptorOpen = true → serverMachine.step server label = some next →
      ¬ Closes server label →
      ∃ onward final, serverMachine.run next onward = some final ∧ ¬ WithinCap final) := by
  refine ⟨withinCap_of_closes, ?_⟩
  intro server label next reached isOpen stepped leaves
  have reachable : serverMachine.Reachable next := Machine.Reachable.step ⟨labels, reached⟩ stepped
  obtain ⟨same, session, member, lingers⟩ :=
    lingering_of_leavesOpen (by simpa [Closes] using leaves) (serverStep_move stepped)
  exact exceeds_of_lingering reachable (same.trans isOpen) member lingers

/-- A client that sends one event and closes later: the body handler has cancelled the
wait by then, and nothing but the read holds the session. -/
theorem serverMachine_capsSockets_afterEvent : serverMachine.Always WithinCap
    serverMachine.initial
    [.connect 0 true, .runAccept 0, .runAccept 0, .session 0 (.receive [1, 0, 0, 0]),
      .session 0 (.runRead true), .session 0 (.receive [65]), .session 0 (.runRead true),
      .session 0 .runAborted, .session 0 .readFails, .session 0 (.runRead true)] :=
  (serverMachine_capsSockets _).1 (by decide)

def closeAtOnce (client : Nat) : List ServerLabel :=
  [.connect 0 true, .runAccept 0, .runAccept 0, .session client .readFails,
    .session client (.runRead true)]

def lingering : Session :=
  { Session.opened.start with read := .idle, cleanedUp := true }

def afterClients (clients : Nat) : Server :=
  { serverMachine.initial with sessions := List.replicate clients lingering }

theorem run_closeAtOnce (clients : Nat) :
    serverMachine.run serverMachine.initial ((List.range clients).flatMap closeAtOnce) =
      some (afterClients clients) := by
  induction clients with
  | zero => rfl
  | succ clients ih =>
      rw [List.range_succ, List.flatMap_append, Machine.run_append ih]
      simp [closeAtOnce, Machine.run, serverMachine, Server.step, Server.complete,
        Server.accepted, Server.atCapacity, maxConnections, afterClients, Server.openSession,
        Server.start, Session.step, Session.headerRead, Session.cleanup, Server.apply,
        Session.start, Session.startTimeout, Session.doReadHeader, Session.expiresAfter,
        Session.opened, lingering, List.replicate_succ']

/-- 20001 clients connect and close at once, before any of the timers expires. -/
theorem sockets_exceed_cap : ∃ server,
    serverMachine.run serverMachine.initial ((List.range 20001).flatMap closeAtOnce) =
      some server ∧
    server.activeCount = 0 ∧ openSockets server = 20001 ∧ ¬ WithinCap server := by
  have held : openSockets (afterClients 20001) = 20001 := by
    simp only [openSockets, afterClients, List.countP_replicate]
    rfl
  refine ⟨afterClients 20001, run_closeAtOnce 20001, rfl, held, ?_⟩
  rw [WithinCap, held]
  decide

end EventCollector
