import EventCollector.Lib.Ledger
import EventCollector.Server

/-!
`active_count_`. It goes up when a session is constructed and down when `cleanup`
takes effect, which the `exchange` lets happen once per session; and there is one
accept chain, so that nothing opens between the check of the cap and the session
it admits.
-/

namespace EventCollector

open Ledger

/-! What one handler of a session does to the counter. -/

def Session.isActive (session : Session) : Bool := !session.cleanedUp

def Session.releases (session : Session) (label : SessionLabel) : Nat :=
  match session.step label with
  | some (_, actions) => actions.count .release
  | none => 0

/-- Whether the handler that runs calls `cleanup()`. -/
def Session.cleanups (session : Session) : SessionLabel → Nat
  | .runRead _ =>
      match session.read with
      | .ready _ true => 1
      | .ready .header false =>
          if payloadLength session.header > 0 ∧ payloadLength session.header < 102400 then 0 else 1
      | _ => 0
  | .runExpired => 1
  | _ => 0

def ofSession (weight : Session → SessionLabel → Nat) (index : Nat) (server : Server) :
    ServerLabel → Nat
  | .session other label =>
      if other = index then ((server.sessions[index]?).map (weight · label)).getD 0 else 0
  | _ => 0

/-- How often session `index` has decremented `active_count_` in a run. -/
def decrements (labels : List ServerLabel) (index : Nat) : Nat :=
  serverMachine.total (ofSession Session.releases index) serverMachine.initial labels

def cleanupCalls (labels : List ServerLabel) (index : Nat) : Nat :=
  serverMachine.total (ofSession Session.cleanups index) serverMachine.initial labels

theorem sessionMove_cleanup {session next : Session} {label : SessionLabel}
    {actions : List SessionAction} (moved : SessionMove session label next actions) :
    (next.cleanedUp = true ↔ session.cleanedUp = true ∨ 0 < session.cleanups label) ∧
    actions.count .release + (if session.cleanedUp then 1 else 0) =
      if next.cleanedUp then 1 else 0 := by
  cases moved with
  | @receive stage filled chunk _ _ _ _ =>
      have still : (session.receive stage filled chunk).cleanedUp = session.cleanedUp := by
        cases stage <;> rfl
      simp [Session.cleanups, still]
  | readFails _ => simp [Session.cleanups]
  | accept ready positive small =>
      have valid : payloadLength session.header > 0 ∧ payloadLength session.header < 102400 :=
        ⟨positive, small⟩
      simp [Session.cleanups, ready, valid]
  | reject ready invalid =>
      have refused : ¬ (payloadLength session.header > 0 ∧
        payloadLength session.header < 102400) := invalid
      cases earlier : session.cleanedUp <;> simp [Session.cleanups, ready, refused]
  | @bodyRead accepted ready => cases accepted <;> simp [Session.cleanups, ready]
  | closed ready => cases earlier : session.cleanedUp <;> simp [Session.cleanups, ready]
  | expire _ => simp [Session.cleanups]
  | timeout _ => cases earlier : session.cleanedUp <;> simp [Session.cleanups]
  | aborted _ => simp [Session.cleanups]

theorem sessionMove_alive {session next : Session} {label : SessionLabel}
    {actions : List SessionAction} (moved : SessionMove session label next actions)
    (alive : session.cleanedUp = false → session.socketOpen = true ∧ session.read ≠ .idle)
    (kept : next.cleanedUp = false) : next.socketOpen = true ∧ next.read ≠ .idle := by
  cases moved with
  | @receive stage filled chunk _ isOpen _ _ =>
      have still : (session.receive stage filled chunk).socketOpen = session.socketOpen := by
        cases stage <;> rfl
      refine ⟨still.trans isOpen, ?_⟩
      simp only [Session.receive]
      split <;> simp
  | readFails _ => exact ⟨(alive kept).1, by simp⟩
  | accept _ _ _ => exact ⟨(alive kept).1, by simp⟩
  | reject _ _ => simp at kept
  | bodyRead _ => exact ⟨(alive kept).1, by simp⟩
  | closed _ => simp at kept
  | expire _ => exact alive kept
  | timeout _ => simp at kept
  | aborted _ => exact alive kept

/-! The invariant. -/

structure Counted (server : Server) : Prop where
  active : server.activeCount = server.sessions.countP Session.isActive
  chain : ∃ op, server.accepts = [op] ∧
    (∀ endpoint, op = .admitted endpoint → server.activeCount < maxConnections)
  bounded : server.activeCount ≤ maxConnections
  alive : ∀ session ∈ server.sessions, session.cleanedUp = false →
    session.socketOpen = true ∧ session.read ≠ .idle

theorem atCapacity_iff {server : Server} (counted : Counted server) :
    server.atCapacity = true ↔ (maxConnections : Int) ≤ server.activeCount := by
  have bounded := counted.bounded
  have active := counted.active
  have small : server.activeCount % 2 ^ 64 = server.activeCount := by
    unfold maxConnections at bounded
    exact Int.emod_eq_of_lt (by omega) (by omega)
  simp only [Server.atCapacity, small, decide_eq_true_eq]
  omega

theorem found_singleton {op found : AcceptOp} {index : Nat}
    (at_ : [op][index]? = some found) : index = 0 ∧ op = found := by
  cases index with
  | zero => simpa using at_
  | succ index => simp at at_

theorem rearmed_chain {server : Server} {op found : AcceptOp} {index : Nat}
    (chain : server.accepts = [op]) (at_ : server.accepts[index]? = some found) :
    server.accepts.eraseIdx index ++ [.pending] = [.pending] := by
  rw [chain] at at_ ⊢
  obtain ⟨rfl, -⟩ := found_singleton at_
  rfl

theorem replaced_chain {server : Server} {op found : AcceptOp} {index : Nat}
    (chain : server.accepts = [op]) (at_ : server.accepts[index]? = some found)
    (next : AcceptOp) : server.accepts.set index next = [next] := by
  rw [chain] at at_ ⊢
  obtain ⟨rfl, -⟩ := found_singleton at_
  rfl

theorem counted_rearm {server : Server} {found : AcceptOp} {index : Nat}
    (counted : Counted server) (at_ : server.accepts[index]? = some found) :
    Counted { server with accepts := server.accepts.eraseIdx index ++ [.pending] } := by
  obtain ⟨op, chain, -⟩ := counted.chain
  exact ⟨counted.active, ⟨.pending, rearmed_chain chain at_, by simp⟩, counted.bounded,
    counted.alive⟩

theorem counted_opens {server : Server} {index : Nat} (counted : Counted server)
    (at_ : server.accepts[index]? = some (.admitted true)) :
    Counted { server with
      accepts := server.accepts.eraseIdx index ++ [.pending]
      sessions := server.sessions ++ [Session.opened.start]
      activeCount := server.activeCount + 1 } := by
  obtain ⟨op, chain, room⟩ := counted.chain
  have checked : server.activeCount < maxConnections := by
    refine room true ?_
    rw [chain] at at_
    exact (found_singleton at_).2
  constructor
  · have active := counted.active
    simp only [List.countP_append, List.countP_singleton]
    rw [if_pos (show Session.opened.start.isActive = true from rfl)]
    omega
  · exact ⟨.pending, rearmed_chain chain at_, by simp⟩
  · simp only
    omega
  · intro session member live
    rcases List.mem_append.mp member with earlier | newest
    · exact counted.alive session earlier live
    · rw [List.mem_singleton.mp newest]
      exact ⟨rfl, by simp [Session.start, Session.doReadHeader]⟩

theorem counted_session {server : Server} {index : Nat} {label : SessionLabel}
    {old new : Session} {actions : List SessionAction} (counted : Counted server)
    (found : server.sessions[index]? = some old) (moved : SessionMove old label new actions) :
    Counted { server with
      sessions := server.sessions.set index new
      activeCount := server.activeCount - actions.count .release } := by
  have active := counted.active
  have bounded := counted.bounded
  constructor
  · have counts := countP_set Session.isActive new found
    have released := (sessionMove_cleanup moved).2
    simp only [indicator, Session.isActive, Bool.not_eq_true'] at counts
    cases before : old.cleanedUp <;> cases after : new.cleanedUp <;>
      simp [before, after] at counts released ⊢ <;> omega
  · obtain ⟨op, chain, room⟩ := counted.chain
    refine ⟨op, chain, fun endpoint admitted => ?_⟩
    have checked := room endpoint admitted
    simp only
    omega
  · simp only
    omega
  · refine forall_set counted.alive ?_
    exact sessionMove_alive moved (counted.alive old (List.mem_of_getElem? found))

theorem counted_step {server next : Server} {label : ServerLabel} (counted : Counted server)
    (moved : ServerMove server label next) : Counted next := by
  obtain ⟨op, chain, room⟩ := counted.chain
  cases moved with
  | connect _ pending =>
      exact ⟨counted.active, ⟨_, replaced_chain chain pending _, by simp⟩, counted.bounded,
        counted.alive⟩
  | acceptFails pending =>
      exact ⟨counted.active, ⟨_, replaced_chain chain pending _, by simp⟩, counted.bounded,
        counted.alive⟩
  | passes connected below =>
      have admits : ¬ (maxConnections : Int) ≤ server.activeCount := by
        rw [← atCapacity_iff counted, below]
        decide
      exact ⟨counted.active, ⟨_, replaced_chain chain connected _, fun _ _ => by simp only; omega⟩,
        counted.bounded, counted.alive⟩
  | refuse connected _ => exact counted_rearm counted connected
  | vanish admitted => exact counted_rearm counted admitted
  | acceptError failed => exact counted_rearm counted failed
  | opens admitted => exact counted_opens counted admitted
  | session found moved => exact counted_session counted found moved
  | _ => exact ⟨counted.active, ⟨op, chain, room⟩, counted.bounded, counted.alive⟩

theorem serverMachine_counted {server : Server} (reachable : serverMachine.Reachable server) :
    Counted server := by
  refine Machine.reachable_invariant Counted ?_ ?_ reachable
  · exact ⟨rfl, ⟨.pending, rfl, by simp⟩, by decide, by simp [serverMachine]⟩
  · exact fun _ _ _ counted stepped => counted_step counted (serverStep_move stepped)

/-! Each session's own account of its calls of `cleanup` and of its decrements. -/

theorem session_slot {server next : Server} {label : ServerLabel}
    (stepped : server.step label = some next) (index : Nat) :
    (next.sessions[index]? = server.sessions[index]? ∧
      ∀ weight, ofSession weight index server label = 0) ∨
    (server.sessions[index]? = none ∧ next.sessions[index]? = some Session.opened.start ∧
      ∀ weight, ofSession weight index server label = 0) ∨
    (∃ old new actions own, server.sessions[index]? = some old ∧
      next.sessions[index]? = some new ∧ old.step own = some (new, actions) ∧
      ∀ weight, ofSession weight index server label = weight old own) := by
  by_cases mine : ∃ own, label = .session index own
  · obtain ⟨own, rfl⟩ := mine
    obtain ⟨old, found, moved⟩ := Option.bind_eq_some_iff.mp stepped
    obtain ⟨⟨new, actions⟩, ran, rfl⟩ := Option.map_eq_some_iff.mp moved
    obtain ⟨bound, -⟩ := List.getElem?_eq_some_iff.mp found
    refine Or.inr (Or.inr ⟨old, new, actions, own, found, List.getElem?_set_self bound, ran, ?_⟩)
    intro weight
    simp [ofSession, found]
  · have quiet (weight : Session → SessionLabel → Nat) :
        ofSession weight index server label = 0 := by
      unfold ofSession
      split
      · rename_i other own
        by_cases same : other = index
        · exact absurd ⟨own, same ▸ rfl⟩ mine
        · simp [same]
      · rfl
    cases serverStep_move stepped with
    | opens _ =>
        rcases Nat.lt_trichotomy index server.sessions.length with below | here | above
        · exact Or.inl ⟨List.getElem?_append_left below, quiet⟩
        · subst here
          exact Or.inr (Or.inl ⟨by simp, by simp, quiet⟩)
        · refine Or.inl ⟨?_, quiet⟩
          rw [List.getElem?_eq_none (by simp; omega), List.getElem?_eq_none (by omega)]
    | @session other own old new actions found _ =>
        have different : other ≠ index := by
          rintro rfl
          exact mine ⟨own, rfl⟩
        exact Or.inl ⟨List.getElem?_set_ne different, quiet⟩
    | _ => exact Or.inl ⟨rfl, quiet⟩

/-- What has been added up for one session is told by whether it is cleaned up. -/
def Tracks (worth : Bool → Nat → Prop) (index : Nat) (server : Server) (amount : Nat) : Prop :=
  match server.sessions[index]? with
  | some session => worth session.cleanedUp amount
  | none => amount = 0

theorem run_tracks (weight : Session → SessionLabel → Nat) (worth : Bool → Nat → Prop)
    (initially : worth false 0)
    (preserved : ∀ old own new actions amount, worth old.cleanedUp amount →
      old.step own = some (new, actions) → worth new.cleanedUp (amount + weight old own))
    {labels : List ServerLabel} {server : Server} (index : Nat)
    (reached : serverMachine.run serverMachine.initial labels = some server) :
    Tracks worth index server
      (serverMachine.total (ofSession weight index) serverMachine.initial labels) := by
  have tracked := Machine.run_total (ofSession weight index) (Tracks worth index) ?_
    (show Tracks worth index serverMachine.initial 0 from rfl) reached
  · simpa only [Nat.zero_add] using tracked
  intro before label after amount holds stepped
  rcases session_slot stepped index with ⟨same, quiet⟩ | ⟨absent, opened, quiet⟩ |
    ⟨old, new, actions, own, found, placed, ran, due⟩
  · simpa only [Tracks, same, quiet weight, Nat.add_zero] using holds
  · simp only [Tracks, absent] at holds
    simp only [Tracks, opened, quiet weight, holds]
    exact initially
  · simp only [Tracks, found] at holds
    simpa only [Tracks, placed, due weight] using preserved old own new actions amount holds ran

theorem cleanupCalls_tracked {labels : List ServerLabel} {server : Server} {index : Nat}
    {session : Session} (reached : serverMachine.run serverMachine.initial labels = some server)
    (found : server.sessions[index]? = some session) :
    session.cleanedUp = true ↔ 0 < cleanupCalls labels index := by
  have tracked := run_tracks Session.cleanups
    (fun cleanedUp calls => cleanedUp = true ↔ 0 < calls) (by simp) ?_ index reached
  · simpa only [Tracks, found, cleanupCalls] using tracked
  intro old own new actions calls holds ran
  have cleaned := (sessionMove_cleanup (sessionStep_move ran)).1
  simp only [cleaned, holds]
  omega

theorem decrements_tracked {labels : List ServerLabel} {server : Server} {index : Nat}
    {session : Session} (reached : serverMachine.run serverMachine.initial labels = some server)
    (found : server.sessions[index]? = some session) :
    decrements labels index = if session.cleanedUp then 1 else 0 := by
  have tracked := run_tracks Session.releases
    (fun cleanedUp released => released = if cleanedUp then 1 else 0) rfl ?_ index reached
  · simpa only [Tracks, found, decrements] using tracked
  intro old own new actions released holds ran
  have counted := (sessionMove_cleanup (sessionStep_move ran)).2
  simp only [Session.releases, ran]
  omega

/-- `active_count_` is the number of sessions that `cleanup` has not taken effect on,
and never leaves the range of the cap; each session decrements it once, at its first
call of `cleanup`, and has called it when it has stopped reading. -/
theorem serverMachine_countsConnections {labels : List ServerLabel} {server : Server}
    (reached : serverMachine.run serverMachine.initial labels = some server) :
    server.activeCount = server.sessions.countP Session.isActive ∧
    0 ≤ server.activeCount ∧ server.activeCount ≤ maxConnections ∧
    (server.atCapacity = true ↔ (maxConnections : Int) ≤ server.activeCount) ∧
    (∃ op, server.accepts = [op]) ∧
    ∀ index session, server.sessions[index]? = some session →
      decrements labels index = (if session.cleanedUp then 1 else 0) ∧
      decrements labels index = min 1 (cleanupCalls labels index) ∧
      (session.read = .idle → session.cleanedUp = true) := by
  have counted := serverMachine_counted ⟨labels, reached⟩
  obtain ⟨op, chain, -⟩ := counted.chain
  have active := counted.active
  refine ⟨active, by omega, counted.bounded, atCapacity_iff counted, ⟨op, chain⟩, ?_⟩
  intro index session found
  have released := decrements_tracked reached found
  have called := cleanupCalls_tracked reached found
  refine ⟨released, ?_, ?_⟩
  · cases cleaned : session.cleanedUp <;> simp [cleaned] at released called <;> omega
  · intro idle
    by_contra live
    exact (counted.alive session (List.mem_of_getElem? found) (by simpa using live)).2 idle

/-- The client closes and the timer fires: both handlers call `cleanup`. -/
def bothArrive : List ServerLabel :=
  [.connect 0 true, .runAccept 0, .runAccept 0, .session 0 .readFails, .session 0 .expire,
    .session 0 .runExpired, .session 0 (.runRead true)]

theorem serverMachine_countsConnections_bothArrive : ∃ server : Server,
    serverMachine.run serverMachine.initial bothArrive = some server ∧
    server.activeCount = 0 ∧ cleanupCalls bothArrive 0 = 2 ∧
    decrements bothArrive 0 = min 1 (cleanupCalls bothArrive 0) :=
  ⟨_, rfl, rfl, by decide,
    ((serverMachine_countsConnections rfl).2.2.2.2.2 0 _ rfl).2.1⟩

end EventCollector
