import EventCollector.EndToEndCore
import EventCollector.EventEncoding
import EventCollector.ExactlyOnce
import EventCollector.SessionFraming

/-!
With one worker the queue's order is the order of the `produce_to_kafka` calls, and a
connection's part of it is the order in which its bodies arrived.
-/

namespace EventCollector

open ThreadSafeQueue

variable {capacity : Nat}

/-! One worker: what has been produced, and then the message in its hands, were taken
from the queue in this order. -/

def WorkerPc.undecided : WorkerPc → List Message
  | .popped message | .received message | .parsed message _ | .valid message _
  | .limited message _ | .allowed message _ => [message]
  | .check | .popping | .produced _ _ | .exited => []

structure InOrder (system : System capacity) (pc : WorkerPc) : Prop where
  alone : system.workers = [pc]
  order : (calls system.shared.produced ++ pc.undecided).Sublist system.shared.taken
  joined : system.stop = .draining ∨ system.stop = .returned → pc = .exited

theorem workerMove_order {config : Config} {index : Nat} {input : Input}
    {before after : Shared capacity} {old new : WorkerPc}
    (moved : WorkerMove config index input before old after new)
    (order : (calls before.produced ++ old.undecided).Sublist before.taken) :
    (calls after.produced ++ new.undecided).Sublist after.taken := by
  have forgotten : (calls before.produced).Sublist before.taken :=
    (List.sublist_append_left _ _).trans order
  cases moved with
  | pop front =>
      rw [WorkerPc.undecided, List.append_nil] at order
      exact order.append (List.Sublist.refl _)
  | produce => simpa [Shared.produceToKafka, WorkerPc.undecided] using order
  | save => simpa [save_eq, WorkerPc.undecided] using forgotten
  | parseFail _ => simpa [WorkerPc.undecided] using forgotten
  | reject _ => simpa [WorkerPc.undecided] using forgotten
  | rateLimited => simpa [WorkerPc.undecided] using forgotten
  | _ => exact order

theorem drainMove_order {config : Config} {clock : Int} {message : Message}
    {before after : Shared capacity} {taken : List Message}
    (moved : DrainMove config clock message before after)
    (order : (calls before.produced).Sublist taken) (last : before.taken = taken ++ [message]) :
    (calls after.produced).Sublist after.taken := by
  have kept : (calls before.produced).Sublist before.taken :=
    last ▸ order.trans (List.sublist_append_left _ _)
  cases moved with
  | parseFail _ => exact kept
  | reject _ _ => exact kept
  | pass _ _ =>
      simp only [finish_produced, finish_taken, save_eq, Shared.produceToKafka, calls_append,
        calls_singleton, last]
      exact order.append (List.Sublist.refl _)

theorem systemMove_order {config : Config} {system next : System capacity}
    (moved : SystemMove config system next) (holds : ∃ pc, InOrder system pc) :
    ∃ pc, InOrder next pc := by
  obtain ⟨pc, alone, order, joined⟩ := holds
  cases moved with
  | accept notCalled _ _ => exact ⟨pc, alone, order, by simp [notCalled]⟩
  | refuse notCalled _ _ => exact ⟨pc, alone, order, by simp [notCalled]⟩
  | drop _ => exact ⟨pc, alone, order, joined⟩
  | @worker index input shared old new found moved =>
      rw [alone] at found
      cases index with
      | succ index => simp at found
      | zero =>
          simp only [List.getElem?_cons_zero, Option.some.injEq] at found
          subst found
          refine ⟨new, by simp [alone], workerMove_order moved order, ?_⟩
          intro stopped
          rw [joined stopped] at moved
          cases moved
  | callStop _ _ => exact ⟨pc, alone, order, by simp⟩
  | join _ exited => exact ⟨pc, alone, order, fun _ => exited pc (by simp [alone])⟩
  | drain draining front moved =>
      have left := joined (Or.inl draining)
      subst left
      rw [WorkerPc.undecided, List.append_nil] at order
      refine ⟨.exited, alone, ?_, fun _ => rfl⟩
      rw [WorkerPc.undecided, List.append_nil]
      exact drainMove_order moved order rfl
  | finish draining _ => exact ⟨pc, alone, order, fun _ => joined (Or.inl draining)⟩

theorem systemMachine_order {config : Config} {sessions : Nat} {system : System capacity}
    (reachable : (systemMachine config capacity sessions 1).Reachable system) :
    (calls system.shared.produced).Sublist system.shared.accepted := by
  have holds : ∃ pc, InOrder system pc := by
    refine systemMachine_invariant (fun system => ∃ pc, InOrder system pc) ?_ ?_ reachable
    · exact ⟨.check, rfl, List.Sublist.refl _, by simp [systemMachine]⟩
    · exact fun before after holds moved => systemMove_order moved holds
  obtain ⟨pc, -, order, -⟩ := holds
  rw [← systemMachine_fifo reachable]
  exact ((List.sublist_append_left _ _).trans order).trans (List.sublist_append_left _ _)

/-! What a session has offered and what the queue has taken from it. -/

def fromSession (index : Nat) (messages : List Message) : List Bytes :=
  (messages.filter (·.session = index)).map Message.data

theorem fromSession_sublist (index : Nat) {first second : List Message}
    (order : first.Sublist second) :
    (fromSession index first).Sublist (fromSession index second) :=
  (order.filter _).map _

theorem fromSession_append (index : Nat) (first second : List Message) :
    fromSession index (first ++ second) = fromSession index first ++ fromSession index second := by
  simp only [fromSession, List.filter_append, List.map_append]

theorem offer_accepted {system next : System capacity} {index : Nat} {data : Bytes}
    (offered : system.offer index data = some next) :
    next.shared.accepted = system.shared.accepted ∨
    ∃ serial, next.shared.accepted = system.shared.accepted ++ [⟨index, serial, data⟩] := by
  obtain ⟨-, ⟨_, rfl⟩ | ⟨_, _, rfl⟩⟩ := offer_cases offered
  · exact Or.inl rfl
  · exact Or.inr ⟨_, rfl⟩

theorem step_accepted {config : Config} {system next : System capacity} {label : SystemLabel}
    (silent : ∀ session data, label ≠ .offer session data)
    (stepped : system.step config label = some next) :
    next.shared.accepted = system.shared.accepted := by
  cases label with
  | offer session data => exact absurd rfl (silent session data)
  | drop session =>
      simp only [System.step, System.drop, Option.ite_none_right_eq_some,
        Option.some.injEq] at stepped
      exact stepped.2 ▸ rfl
  | worker index input =>
      simp only [System.step, Option.bind_eq_some_iff, Option.map_eq_some_iff] at stepped
      obtain ⟨old, -, ⟨shared, new⟩, moved, rfl⟩ := stepped
      cases workerStep_move moved with
      | save => simp [save_eq]
      | _ => rfl
  | callStop =>
      simp only [System.step, Option.ite_none_right_eq_some, Option.some.injEq] at stepped
      exact stepped.2 ▸ rfl
  | join =>
      simp only [System.step, Option.ite_none_right_eq_some, Option.some.injEq] at stepped
      exact stepped.2 ▸ rfl
  | drain clock =>
      simp only [System.step, Option.ite_none_right_eq_some] at stepped
      obtain ⟨-, stepped⟩ := stepped
      split at stepped
      · rename_i shared drained
        obtain ⟨message, queue, -, moved⟩ := drainStep_some drained
        simp only [Option.some.injEq] at stepped
        subst next
        cases moved with
        | pass _ _ => simp [save_eq, Shared.produceToKafka]
        | _ => rfl
      · simp only [Option.some.injEq] at stepped
        exact stepped ▸ rfl

structure Linked (config : Config) (sessions : Nat) (state : EndToEnd capacity) : Prop where
  system : (systemMachine config capacity sessions 1).Reachable state.system
  connections : ∀ connection ∈ state.connections, connectionMachine.Reachable connection
  accepted : ∀ index connection, state.connections[index]? = some connection →
    (fromSession index state.system.shared.accepted).Sublist connection.offers

theorem offerBodies_cases {index : Nat} {system next : System capacity}
    {actions : List SessionAction} (offered : offerBodies index system actions = some next) :
    next = system ∨ ∃ data rest, actions = .offer data :: rest ∧
      system.offer index data = some next := by
  unfold offerBodies at offered
  split at offered
  · rename_i data rest
    obtain ⟨after, took, agrees⟩ := Option.bind_eq_some_iff.mp offered
    simp only [Option.ite_none_right_eq_some, Option.some.injEq] at agrees
    exact Or.inr ⟨data, rest, rfl, agrees.2 ▸ took⟩
  · exact Or.inl (Option.some.inj offered).symm

theorem endToEnd_session {state next : EndToEnd capacity} {index : Nat} {label : SessionLabel}
    (stepped : state.session index label = some next) :
    ∃ connection after actions, state.connections[index]? = some connection ∧
      connectionMachine.step connection label = some after ∧
      after.offers = connection.offers ++ actions.filterMap SessionAction.offered ∧
      next.connections = state.connections.set index after ∧
      (next.system = state.system ∨ ∃ data rest, actions = .offer data :: rest ∧
        state.system.offer index data = some next.system) := by
  obtain ⟨connection, found, stepped⟩ := Option.bind_eq_some_iff.mp stepped
  obtain ⟨after, ran, stepped⟩ := Option.bind_eq_some_iff.mp stepped
  obtain ⟨system, offered, rfl⟩ := Option.map_eq_some_iff.mp stepped
  obtain ⟨session, actions, -, rfl⟩ := connectionStep_move ran
  rw [List.drop_left] at offered
  refine ⟨connection, _, actions, found, ran, ?_, rfl, offerBodies_cases offered⟩
  exact List.filterMap_append

theorem linked_session {config : Config} {sessions : Nat} {state next : EndToEnd capacity}
    {index : Nat} {label : SessionLabel} (linked : Linked config sessions state)
    (stepped : state.session index label = some next) : Linked config sessions next := by
  obtain ⟨connection, after, actions, found, ran, offers, connections, system⟩ :=
    endToEnd_session stepped
  obtain ⟨bound, -⟩ := List.getElem?_eq_some_iff.mp found
  have reached : connectionMachine.Reachable after :=
    (linked.connections connection (List.mem_of_getElem? found)).step ran
  have own := linked.accepted index connection found
  refine ⟨?_, ?_, ?_⟩
  · rcases system with same | ⟨data, rest, -, offered⟩
    · exact same ▸ linked.system
    · exact linked.system.step
        (show (systemMachine config capacity sessions 1).step _ (.offer index data) = _ from offered)
  · rw [connections]
    exact Ledger.forall_set linked.connections reached
  · intro other held foundOther
    rw [connections] at foundOther
    have grown : next.system.shared.accepted = state.system.shared.accepted ∨
        ∃ serial data rest, actions = .offer data :: rest ∧
          next.system.shared.accepted =
            state.system.shared.accepted ++ [⟨index, serial, data⟩] := by
      rcases system with same | ⟨data, rest, shape, offered⟩
      · exact Or.inl (by rw [same])
      · rcases offer_accepted offered with same | ⟨serial, grown⟩
        · exact Or.inl same
        · exact Or.inr ⟨serial, data, rest, shape, grown⟩
    by_cases mine : other = index
    · subst other
      rw [List.getElem?_set_self bound, Option.some.injEq] at foundOther
      subst held
      rw [offers]
      rcases grown with same | ⟨serial, data, rest, rfl, grown⟩
      · rw [same]
        exact own.trans (List.sublist_append_left _ _)
      · rw [grown, fromSession_append]
        refine own.append ?_
        simp [fromSession, SessionAction.offered]
    · rw [List.getElem?_set_ne (Ne.symm mine)] at foundOther
      have before := linked.accepted other held foundOther
      rcases grown with same | ⟨serial, data, rest, -, grown⟩
      · rwa [same]
      · rw [grown, fromSession_append]
        simpa [fromSession, Ne.symm mine] using before

theorem linked_step {config : Config} {sessions : Nat} {state next : EndToEnd capacity}
    {label : EndToEndLabel} (linked : Linked config sessions state)
    (stepped : (endToEndMachine config capacity sessions).step state label = some next) :
    Linked config sessions next := by
  cases label with
  | session index label => exact linked_session linked stepped
  | processor label =>
      have silent (session : Nat) (data : Bytes) : label ≠ .offer session data := by
        rintro rfl
        simp [endToEndMachine, EndToEnd.step] at stepped
      have moved : ∃ system, state.system.step config label = some system ∧
          next = { state with system := system } := by
        cases label with
        | offer session data => exact absurd rfl (silent session data)
        | _ =>
            obtain ⟨system, ran, rfl⟩ := Option.map_eq_some_iff.mp stepped
            exact ⟨system, ran, rfl⟩
      obtain ⟨system, ran, rfl⟩ := moved
      refine ⟨linked.system.step ran, linked.connections, ?_⟩
      intro index connection found
      rw [step_accepted silent ran]
      exact linked.accepted index connection found

theorem endToEndMachine_linked {config : Config} {sessions : Nat} {state : EndToEnd capacity}
    (reachable : (endToEndMachine config capacity sessions).Reachable state) :
    Linked config sessions state := by
  refine Machine.reachable_invariant (Linked config sessions) ?_ ?_ reachable
  · refine ⟨Machine.Reachable.start _, ?_, ?_⟩
    · intro connection member
      rw [List.eq_of_mem_replicate member]
      exact Machine.Reachable.start connectionMachine
    · intro index connection _
      exact List.nil_sublist _
  · exact fun before label after holds stepped => linked_step holds stepped

/-! The bodies a connection sent. -/

theorem offers_sent {connection : Connection} (reachable : connectionMachine.Reachable connection)
    {sent : List Bytes} (admissible : ∀ body ∈ sent, Admissible body)
    (received : connection.inbound <+: frameCode.encodeAll sent) : connection.offers <+: sent := by
  obtain ⟨rest, framed⟩ := connectionMachine_framed reachable
  have whole : frameCode.Longest sent (frameCode.encodeAll sent) :=
    PrefixCode.longest_encodeAll admissible
  have decodes : frameCode.Decodes connection.offers (frameCode.encodeAll sent) :=
    ⟨framed.admissible, (framed.split ▸ List.prefix_append _ _).trans received⟩
  rcases PrefixCode.decodes_comparable decodes whole.decodes with shorter | longer
  · exact shorter
  · have size := whole.longest connection.offers decodes
    exact (longer.eq_of_length (Nat.le_antisymm longer.length_le size)) ▸ List.prefix_rfl

/-- What is produced from a connection's data is a subsequence of the bodies it has
sent, read off the bytes that arrived. -/
theorem endToEnd_keepsOrder (config : Config) (sessions : Nat) {state : EndToEnd capacity}
    (reachable : (endToEndMachine config capacity sessions).Reachable state)
    {index : Nat} {connection : Connection}
    (found : state.connections[index]? = some connection) :
    (fromSession index (calls state.system.shared.produced)).Sublist connection.offers ∧
    frameCode.Decodes connection.offers connection.inbound ∧
    ∀ sent, (∀ body ∈ sent, Admissible body) → connection.inbound <+: frameCode.encodeAll sent →
      (fromSession index (calls state.system.shared.produced)).Sublist sent := by
  have linked := endToEndMachine_linked reachable
  have connected := linked.connections connection (List.mem_of_getElem? found)
  obtain ⟨rest, framed⟩ := connectionMachine_framed connected
  have order : (fromSession index (calls state.system.shared.produced)).Sublist
      connection.offers :=
    (fromSession_sublist index (systemMachine_order linked.system)).trans
      (linked.accepted index connection found)
  refine ⟨order, ⟨framed.admissible, framed.split ▸ List.prefix_append _ _⟩, ?_⟩
  intro sent admissible received
  exact order.trans (offers_sent connected admissible received).sublist

def sampleConfig : Config := ⟨sampleParse, none, false⟩

def sends (index : Nat) (body : Bytes) (accepted : Bool) : List EndToEndLabel :=
  [.session index (.receive (packLength body.length)), .session index (.runRead true),
    .session index (.receive body), .session index (.runRead accepted)]

def works (count : Nat) : List EndToEndLabel :=
  List.replicate count (.processor (.worker 0 ⟨1, .error⟩))

/-- The worker takes the first event of connection 0, the queue of one place takes
that of connection 1 and refuses the next of connection 0, and `stop()` drains. -/
def drainedRun : List EndToEndLabel :=
  sends 0 (encodeEvent (eventOf [7])) true ++ works 2 ++
    sends 1 (encodeEvent (eventOf [8])) true ++ sends 0 (encodeEvent (eventOf [8])) false ++
    [.processor (.drop 0), .processor .callStop] ++ works 7 ++
    [.processor .join, .processor (.drain 1), .processor (.drain 1)]

theorem endToEnd_keepsOrder_drained : ∃ state : EndToEnd 1,
    (endToEndMachine sampleConfig 1 2).run (endToEndMachine sampleConfig 1 2).initial drainedRun =
      some state ∧
    state.system.stop = .returned ∧
    fromSession 1 (calls state.system.shared.produced) = [encodeEvent (eventOf [8])] ∧
    (fromSession 0 (calls state.system.shared.produced)).Sublist
      [encodeEvent (eventOf [7]), encodeEvent (eventOf [8])] := by
  obtain ⟨state, reached, facts⟩ : ∃ state : EndToEnd 1,
      (endToEndMachine sampleConfig 1 2).run (endToEndMachine sampleConfig 1 2).initial drainedRun =
        some state ∧ state.system.stop = .returned ∧
      fromSession 1 (calls state.system.shared.produced) = [encodeEvent (eventOf [8])] ∧
      (state.connections[0]?).map Connection.inbound = some (frameCode.encodeAll
        [encodeEvent (eventOf [7]), encodeEvent (eventOf [8])]) := ⟨_, rfl, by decide⟩
  obtain ⟨connection, found, inbound⟩ := Option.map_eq_some_iff.mp facts.2.2
  refine ⟨state, reached, facts.1, facts.2.1, ?_⟩
  have kept := endToEnd_keepsOrder sampleConfig 2 ⟨drainedRun, reached⟩ found
  have sizes : ∀ body ∈ [encodeEvent (eventOf [7]), encodeEvent (eventOf [8])],
      1 ≤ body.length ∧ body.length ≤ 102399 := by decide
  exact kept.2.2 _ sizes (inbound ▸ List.prefix_rfl)

end EventCollector
