import EventCollector.ServerCore
import EventCollector.Session

/-!
What one step of the io_context can do.
-/

namespace EventCollector

inductive ServerMove (server : Server) : ServerLabel → Server → Prop
  | connect {index : Nat} {endpoint : Bool} : server.acceptorOpen = true →
      server.accepts[index]? = some .pending →
      ServerMove server (.connect index endpoint)
        { server with accepts := server.accepts.set index (.connected endpoint) }
  | acceptFails {index : Nat} : server.accepts[index]? = some .pending →
      ServerMove server (.acceptFails index)
        { server with accepts := server.accepts.set index .failed }
  | refuse {index : Nat} {endpoint : Bool} :
      server.accepts[index]? = some (.connected endpoint) → server.atCapacity = true →
      ServerMove server (.runAccept index)
        { server with accepts := server.accepts.eraseIdx index ++ [.pending] }
  | passes {index : Nat} {endpoint : Bool} :
      server.accepts[index]? = some (.connected endpoint) → server.atCapacity = false →
      ServerMove server (.runAccept index)
        { server with accepts := server.accepts.set index (.admitted endpoint) }
  | vanish {index : Nat} : server.accepts[index]? = some (.admitted false) →
      ServerMove server (.runAccept index)
        { server with accepts := server.accepts.eraseIdx index ++ [.pending] }
  | opens {index : Nat} : server.accepts[index]? = some (.admitted true) →
      ServerMove server (.runAccept index)
        { server with
          accepts := server.accepts.eraseIdx index ++ [.pending]
          sessions := server.sessions ++ [Session.opened.start]
          activeCount := server.activeCount + 1 }
  | acceptError {index : Nat} : server.accepts[index]? = some .failed →
      ServerMove server (.runAccept index)
        { server with accepts := server.accepts.eraseIdx index ++ [.pending] }
  | monitorConnect {index : Nat} : server.monitorAccepts[index]? = some .pending →
      ServerMove server (.monitorConnect index)
        { server with monitorAccepts := server.monitorAccepts.set index (.connected true) }
  | monitorAcceptFails {index : Nat} : server.monitorAccepts[index]? = some .pending →
      ServerMove server (.monitorAcceptFails index)
        { server with monitorAccepts := server.monitorAccepts.set index .failed }
  | monitorServe {index : Nat} {endpoint : Bool} :
      server.monitorAccepts[index]? = some (.connected endpoint) →
      ServerMove server (.runMonitorAccept index)
        { server with
          monitorAccepts := server.monitorAccepts.eraseIdx index ++ [.pending]
          scrapes := server.scrapes ++ [.reading] }
  | monitorError {index : Nat} : server.monitorAccepts[index]? = some .failed →
      ServerMove server (.runMonitorAccept index)
        { server with monitorAccepts := server.monitorAccepts.eraseIdx index ++ [.pending] }
  | session {index : Nat} {label : SessionLabel} {old new : Session}
      {actions : List SessionAction} : server.sessions[index]? = some old →
      SessionMove old label new actions →
      ServerMove server (.session index label)
        { server with
          sessions := server.sessions.set index new
          activeCount := server.activeCount - actions.count .release }
  | scrapeCompletes {index : Nat} {failed : Bool} {old new : Scrape} :
      server.scrapes[index]? = some old → Server.scrapeStep old failed = some new →
      ServerMove server (.scrapeCompletes index failed)
        { server with scrapes := server.scrapes.set index new }
  | runScrape {index : Nat} {old new : Scrape} :
      server.scrapes[index]? = some old → Server.runScrapeHandler old = some new →
      ServerMove server (.runScrape index)
        { server with scrapes := server.scrapes.set index new }
  | signal : server.signalWait = .waiting →
      ServerMove server .signal { server with signalWait := .queued }
  | runSignal : server.signalWait = .queued →
      ServerMove server .runSignal
        { server with signalWait := .handled, acceptorOpen := false, workGuard := false }

theorem complete_some {ops next : List AcceptOp} {index : Nat} {outcome : AcceptOp}
    (completed : Server.complete ops index outcome = some next) :
    ops[index]? = some .pending ∧ next = ops.set index outcome := by
  simp only [Server.complete, Option.ite_none_right_eq_some, Option.some.injEq] at completed
  exact ⟨completed.1, completed.2.symm⟩

theorem runAccept_move {server next : Server} {index : Nat} {op : AcceptOp}
    (found : server.accepts[index]? = some op) (ran : server.accepted index op = some next) :
    ServerMove server (.runAccept index) next := by
  cases op with
  | pending => simp [Server.accepted] at ran
  | connected endpoint =>
      simp only [Server.accepted] at ran
      split at ran
      · rename_i full
        simp only [Option.some.injEq] at ran
        subst next
        exact .refuse found full
      · rename_i room
        simp only [Option.some.injEq] at ran
        subst next
        exact .passes found (by simpa using room)
  | failed =>
      simp only [Server.accepted, Option.some.injEq] at ran
      subst next
      exact .acceptError found
  | admitted endpoint =>
      cases endpoint with
      | true =>
          simp only [Server.accepted, Bool.not_true, Bool.false_eq_true, if_false,
            Option.some.injEq] at ran
          subst next
          exact .opens found
      | false =>
          simp only [Server.accepted, Bool.not_false, if_true, Option.some.injEq] at ran
          subst next
          exact .vanish found

theorem runMonitorAccept_move {server next : Server} {index : Nat} {op : AcceptOp}
    (found : server.monitorAccepts[index]? = some op)
    (ran : { server with
      monitorAccepts := server.monitorAccepts.eraseIdx index }.monitorAccepted op = some next) :
    ServerMove server (.runMonitorAccept index) next := by
  cases op with
  | pending => simp [Server.monitorAccepted] at ran
  | admitted endpoint => simp [Server.monitorAccepted] at ran
  | connected endpoint =>
      simp only [Server.monitorAccepted, Option.some.injEq] at ran
      subst next
      exact .monitorServe found
  | failed =>
      simp only [Server.monitorAccepted, Option.some.injEq] at ran
      subst next
      exact .monitorError found

theorem serverStep_move {server next : Server} {label : ServerLabel}
    (stepped : server.step label = some next) : ServerMove server label next := by
  cases label with
  | connect index endpoint =>
      simp only [Server.step, Option.ite_none_right_eq_some] at stepped
      obtain ⟨isOpen, stepped⟩ := stepped
      obtain ⟨accepts, completed, rfl⟩ := Option.map_eq_some_iff.mp stepped
      obtain ⟨pending, rfl⟩ := complete_some completed
      exact .connect isOpen pending
  | acceptFails index =>
      obtain ⟨accepts, completed, rfl⟩ := Option.map_eq_some_iff.mp stepped
      obtain ⟨pending, rfl⟩ := complete_some completed
      exact .acceptFails pending
  | runAccept index =>
      obtain ⟨op, found, ran⟩ := Option.bind_eq_some_iff.mp stepped
      exact runAccept_move found ran
  | monitorConnect index =>
      obtain ⟨accepts, completed, rfl⟩ := Option.map_eq_some_iff.mp stepped
      obtain ⟨pending, rfl⟩ := complete_some completed
      exact .monitorConnect pending
  | monitorAcceptFails index =>
      obtain ⟨accepts, completed, rfl⟩ := Option.map_eq_some_iff.mp stepped
      obtain ⟨pending, rfl⟩ := complete_some completed
      exact .monitorAcceptFails pending
  | runMonitorAccept index =>
      obtain ⟨op, found, ran⟩ := Option.bind_eq_some_iff.mp stepped
      exact runMonitorAccept_move found ran
  | session index label =>
      obtain ⟨old, found, moved⟩ := Option.bind_eq_some_iff.mp stepped
      obtain ⟨⟨new, actions⟩, ran, rfl⟩ := Option.map_eq_some_iff.mp moved
      exact .session found (sessionStep_move ran)
  | scrapeCompletes index failed =>
      obtain ⟨old, found, moved⟩ := Option.bind_eq_some_iff.mp stepped
      obtain ⟨new, completes, rfl⟩ := Option.map_eq_some_iff.mp moved
      exact .scrapeCompletes found completes
  | runScrape index =>
      obtain ⟨old, found, moved⟩ := Option.bind_eq_some_iff.mp stepped
      obtain ⟨new, ran, rfl⟩ := Option.map_eq_some_iff.mp moved
      exact .runScrape found ran
  | signal =>
      simp only [Server.step, Option.ite_none_right_eq_some, Option.some.injEq] at stepped
      obtain ⟨waiting, rfl⟩ := stepped
      exact .signal waiting
  | runSignal =>
      simp only [Server.step, Option.ite_none_right_eq_some, Option.some.injEq] at stepped
      obtain ⟨queued, rfl⟩ := stepped
      exact .runSignal queued

end EventCollector
