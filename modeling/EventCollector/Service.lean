import EventCollector.EndToEnd
import EventCollector.ProcessExit
import EventCollector.ServiceCore

/-!
Whatever the clients send: the bodies that a connection's bytes hold are those that the
queue refused and those that it took, in order, with at most one more that no handler has
seen; and when `main` returns each that was taken is finished once.
-/

namespace EventCollector

open Ledger PrefixCode ThreadSafeQueue

variable {capacity : Nat}

/-! What the queue took of what a session offered. -/

def settle (bodies : List Bytes) : SessionAction → List Bytes
  | .offer data => bodies ++ [data]
  | .drop => bodies.dropLast
  | _ => bodies

def Connection.taken (connection : Connection) : List Bytes := connection.actions.foldl settle []

def Connection.dropped (connection : Connection) : Nat := connection.actions.count .drop

theorem settled_sublist (actions : List SessionAction) :
    (actions.foldl settle []).Sublist (actions.filterMap SessionAction.offered) := by
  induction actions using List.reverseRecOn with
  | nil => exact List.Sublist.refl _
  | append_singleton earlier action ih =>
      rw [List.foldl_append, List.filterMap_append]
      cases action with
      | offer data => exact ih.append (List.Sublist.refl _)
      | drop =>
          exact (List.dropLast_sublist _).trans (ih.trans (List.sublist_append_left _ _))
      | _ => exact ih.trans (List.sublist_append_left _ _)

theorem Connection.taken_sublist (connection : Connection) :
    connection.taken.Sublist connection.offers :=
  settled_sublist connection.actions

/-- What a step of a session means to the queue. -/
inductive Exchange (index : Nat) (system : System capacity) :
    List SessionAction → System capacity → Prop
  | quiet {actions : List SessionAction} :
      (∀ action ∈ actions, action.offered = none ∧ action ≠ .drop) →
      Exchange index system actions system
  | taken {data : Bytes} {queue : ThreadSafeQueue Message capacity} :
      queue.items = system.shared.queue.items ++ [⟨index, system.shared.accepted.length, data⟩] →
      Exchange index system [.offer data] { system with
        shared.queue := queue
        shared.accepted := system.shared.accepted ++ [⟨index, system.shared.accepted.length, data⟩]
        completed := system.completed + 1 }
  | refused {data : Bytes} : system.sessions[index]? = some .reading →
      Exchange index system [.offer data, .drop] { system with
        sessions := system.sessions.set index .dropping
        completed := system.completed + 1 }

theorem quiet_actions {session after : Session} {label : SessionLabel}
    {actions : List SessionAction} (moved : SessionMove session label after actions)
    (quiet : ∀ data rest, actions ≠ .offer data :: rest) :
    ∀ action ∈ actions, action.offered = none ∧ action ≠ .drop := by
  intro action member
  cases moved with
  | bodyRead _ => exact absurd rfl (quiet _ _)
  | reject _ _ =>
      rcases List.mem_cons.mp member with rfl | later
      · exact ⟨rfl, by simp⟩
      · split at later
        · simp at later
        · exact List.mem_singleton.mp later ▸ ⟨rfl, by simp⟩
  | closed _ =>
      split at member
      · simp at member
      · exact List.mem_singleton.mp member ▸ ⟨rfl, by simp⟩
  | timeout _ =>
      split at member
      · simp at member
      · exact List.mem_singleton.mp member ▸ ⟨rfl, by simp⟩
  | _ => simp at member

theorem offerBodies_exchange {session after : Session} {label : SessionLabel} {index : Nat}
    {actions : List SessionAction} {system next : System capacity}
    (moved : SessionMove session label after actions)
    (offered : offerBodies index system actions = some next) :
    Exchange index system actions next := by
  by_cases quiet : ∀ data rest, actions ≠ .offer data :: rest
  · have same : next = system := by
      rcases offerBodies_cases offered with same | ⟨data, rest, shape, -⟩
      · exact same
      · exact absurd shape (quiet data rest)
    exact same ▸ .quiet (quiet_actions moved quiet)
  · cases moved with
    | @bodyRead accepted _ =>
        obtain ⟨taken, took, agrees⟩ := Option.bind_eq_some_iff.mp offered
        simp only [Option.ite_none_right_eq_some, Option.some.injEq] at agrees
        obtain ⟨agrees, rfl⟩ := agrees
        obtain ⟨⟨-, reading⟩, ⟨-, rfl⟩ | ⟨queue, grown, rfl⟩⟩ := offer_cases took
        · obtain ⟨bound, -⟩ := List.getElem?_eq_some_iff.mp reading
          have shape := agrees.mpr (List.getElem?_set_self bound)
          rw [shape]
          exact .refused reading
        · have shape : (if accepted then [] else [SessionAction.drop]) = [] := by
            cases accepted with
            | true => rfl
            | false =>
                have dropping := agrees.mp rfl
                simp [reading] at dropping
          rw [shape]
          exact .taken grown
    | reject _ _ => exact absurd (fun _ _ => by simp) quiet
    | closed _ => exact absurd (fun _ _ => by split <;> simp) quiet
    | timeout _ => exact absurd (fun _ _ => by split <;> simp) quiet
    | _ => exact absurd (fun _ _ => by simp) quiet

theorem service_session {service next : Service capacity} {index : Nat} {label : SessionLabel}
    (stepped : service.session index label = some next) :
    service.process.main = .serving ∧ ∃ connection session actions system,
      service.connections[index]? = some connection ∧
      connectionMachine.step connection label =
        some ⟨session, connection.inbound ++ label.delivered, connection.actions ++ actions⟩ ∧
      Exchange index service.process.pipeline.system actions system ∧
      (system = service.process.pipeline.system ∨
        ∃ data, service.process.pipeline.system.offer index data = some system) ∧
      next = ⟨service.connections.set index
          ⟨session, connection.inbound ++ label.delivered, connection.actions ++ actions⟩,
        ⟨{ service.process.pipeline with system := system }, .serving⟩⟩ := by
  simp only [Service.session, Option.ite_none_right_eq_some] at stepped
  obtain ⟨serving, stepped⟩ := stepped
  obtain ⟨connection, found, stepped⟩ := Option.bind_eq_some_iff.mp stepped
  obtain ⟨after, ran, stepped⟩ := Option.bind_eq_some_iff.mp stepped
  obtain ⟨system, offered, rfl⟩ := Option.map_eq_some_iff.mp stepped
  obtain ⟨session, actions, moved, rfl⟩ := connectionStep_move ran
  rw [List.drop_left] at offered
  refine ⟨serving, connection, session, actions, system, found, ran,
    offerBodies_exchange moved offered, ?_, rfl⟩
  rcases offerBodies_cases offered with same | ⟨data, rest, -, took⟩
  · exact Or.inl same
  · exact Or.inr ⟨data, took⟩

section

variable {parse : Bytes → Option Event} {deployment : Deployment} {redis : CounterStore Bytes}
  {sessions workers : Nat}

theorem serviceProcess_step {service next : Service capacity} {label : ProcessLabel}
    (stepped : service.step parse deployment (.process label) = some next) :
    (∀ clock session data, label ≠ .thread clock (.offer session data)) ∧
    ∃ process, service.process.step parse deployment label = some process ∧
      next = { service with process := process } := by
  have moved (silent : ∀ clock session data, label ≠ .thread clock (.offer session data))
      (same : service.step parse deployment (.process label) =
        (service.process.step parse deployment label).map fun process =>
          { service with process := process }) :
      (∀ clock session data, label ≠ .thread clock (.offer session data)) ∧
      ∃ process, service.process.step parse deployment label = some process ∧
        next = { service with process := process } := by
    rw [same] at stepped
    obtain ⟨process, ran, rfl⟩ := Option.map_eq_some_iff.mp stepped
    exact ⟨silent, process, ran, rfl⟩
  cases label with
  | main input => exact moved (by simp) rfl
  | thread clock label =>
      cases label with
      | offer session data => simp [Service.step] at stepped
      | _ => exact moved (by simp) rfl

/-- Bodies refused so far, also those whose increment is still to come. -/
def System.refusals (system : System capacity) : Nat :=
  system.shared.metrics.totalQueueDrop + system.sessions.countP SessionPc.isDropping

/-- The connections and the process tell the same of the queue. -/
structure Joined (parse : Bytes → Option Event) (deployment : Deployment)
    (redis : CounterStore Bytes) (sessions workers : Nat) (service : Service capacity) : Prop where
  process : (processMachine parse deployment redis capacity sessions workers).Reachable
    service.process
  connections : ∀ connection ∈ service.connections, connectionMachine.Reachable connection
  accepted : ∀ index connection, service.connections[index]? = some connection →
    fromSession index service.process.pipeline.system.shared.accepted = connection.taken
  known : ∀ message ∈ service.process.pipeline.system.shared.accepted,
    message.session < service.connections.length
  parted : ∀ connection ∈ service.connections,
    connection.offers.length = connection.taken.length + connection.dropped
  drops : tally Connection.dropped service.connections =
    service.process.pipeline.system.refusals

theorem quiet_offers {actions : List SessionAction}
    (quiet : ∀ action ∈ actions, action.offered = none ∧ action ≠ .drop) (bodies : List Bytes) :
    actions.foldl settle bodies = bodies ∧ actions.filterMap SessionAction.offered = [] ∧
      actions.count .drop = 0 := by
  induction actions with
  | nil => exact ⟨rfl, rfl, rfl⟩
  | cons action rest ih =>
      obtain ⟨silent, kept⟩ := quiet action (by simp)
      obtain ⟨same, none, never⟩ := ih fun other member => quiet other (by simp [member])
      refine ⟨?_, by simp [silent, none], by simp [never, kept]⟩
      cases action with
      | offer data => simp [SessionAction.offered] at silent
      | drop => exact absurd rfl kept
      | _ => exact same

theorem exchange_accepted {index : Nat} {actions : List SessionAction}
    {system next : System capacity} (exchanged : Exchange index system actions next)
    {connection : Connection}
    (own : fromSession index system.shared.accepted = connection.taken)
    (parted : connection.offers.length = connection.taken.length + connection.dropped)
    (session : Session) (inbound : Bytes) :
    let after : Connection := ⟨session, inbound, connection.actions ++ actions⟩
    fromSession index next.shared.accepted = after.taken ∧
      after.offers.length = after.taken.length + after.dropped := by
  have taken : (connection.actions ++ actions).foldl settle [] =
      actions.foldl settle connection.taken := List.foldl_append
  have offers : (connection.actions ++ actions).filterMap SessionAction.offered =
      connection.offers ++ actions.filterMap SessionAction.offered := List.filterMap_append
  have dropped : (connection.actions ++ actions).count .drop =
      connection.dropped + actions.count .drop := List.count_append
  simp only [Connection.taken, Connection.offers, Connection.dropped] at taken offers dropped ⊢
  rw [taken, offers, dropped, List.length_append]
  cases exchanged with
  | quiet quiet =>
      obtain ⟨same, none, never⟩ := quiet_offers quiet connection.taken
      simp only [Connection.taken] at same own
      rw [same, none, never]
      exact ⟨own, parted⟩
  | @taken data queue _ =>
      refine ⟨?_, ?_⟩
      · rw [fromSession_append, own]
        simp [fromSession, settle, Connection.taken]
      · change connection.offers.length + 1 = (connection.taken ++ [data]).length +
          (connection.dropped + 0)
        rw [List.length_append, List.length_singleton]
        omega
  | @refused data _ =>
      refine ⟨own.trans (by simp [settle, Connection.taken]), ?_⟩
      change connection.offers.length + 1 = (connection.taken ++ [data]).dropLast.length +
        (connection.dropped + 1)
      rw [List.dropLast_concat]
      omega

theorem exchange_drops {index : Nat} {actions : List SessionAction}
    {system next : System capacity} (exchanged : Exchange index system actions next) :
    next.refusals = system.refusals + actions.count .drop := by
  cases exchanged with
  | quiet quiet => rw [(quiet_offers quiet []).2.2, Nat.add_zero]
  | taken _ => rfl
  | refused reading =>
      have moved := countP_set SessionPc.isDropping .dropping reading
      simp only [indicator, SessionPc.isDropping, if_true, Bool.false_eq_true, if_false] at moved
      simp only [System.refusals]
      change _ = _ + 1
      omega

theorem step_refusals {config : Config} {system next : System capacity} {label : SystemLabel}
    (silent : ∀ session data, label ≠ .offer session data)
    (stepped : system.step config label = some next) : next.refusals = system.refusals := by
  cases label with
  | offer session data => exact absurd rfl (silent session data)
  | drop session =>
      simp only [System.step, System.drop, Option.ite_none_right_eq_some,
        Option.some.injEq] at stepped
      obtain ⟨dropping, rfl⟩ := stepped
      have moved := countP_set SessionPc.isDropping .reading dropping
      simp only [indicator, SessionPc.isDropping, if_true, Bool.false_eq_true, if_false] at moved
      simp only [System.refusals]
      omega
  | worker index input =>
      simp only [System.step, Option.bind_eq_some_iff, Option.map_eq_some_iff] at stepped
      obtain ⟨old, -, ⟨shared, new⟩, moved, rfl⟩ := stepped
      cases workerStep_move moved with
      | save => simp [System.refusals, save_eq]
      | _ => rfl
  | callStop =>
      simp only [System.step, Option.ite_none_right_eq_some, Option.some.injEq] at stepped
      exact stepped.2 ▸ rfl
  | join =>
      simp only [System.step, Option.ite_none_right_eq_some, Option.some.injEq] at stepped
      exact stepped.2 ▸ rfl
  | drain clock =>
      obtain ⟨-, ⟨-, rfl⟩ | ⟨message, shared, queue, -, rfl, moved⟩⟩ := drain_cases stepped
      · rfl
      · cases moved with
        | pass _ _ => simp [System.refusals, save_eq, Shared.produceToKafka]
        | _ => rfl

theorem silent_run {sessions workers : Nat} {labels : List SystemLabel}
    {system next : System capacity}
    (silent : ∀ label ∈ labels, ∀ session data, label ≠ .offer session data)
    (ran : (systemMachine (deployment.config parse) capacity sessions workers).run system labels =
      some next) :
    next.shared.accepted = system.shared.accepted ∧ next.refusals = system.refusals := by
  induction labels generalizing system with
  | nil => exact Option.some.inj ran ▸ ⟨rfl, rfl⟩
  | cons label rest ih =>
      obtain ⟨middle, stepped, tail⟩ := Machine.run_cons_some.mp ran
      obtain ⟨accepted, refusals⟩ :=
        ih (fun other member => silent other (List.mem_cons_of_mem _ member)) tail
      have here := silent label List.mem_cons_self
      exact ⟨accepted.trans (step_accepted here stepped),
        refusals.trans (step_refusals here stepped)⟩

theorem systemActions_silent {clock : Int} {pipeline : Pipeline capacity} {label : PipelineLabel}
    (silent : ∀ session data, label ≠ .offer session data) :
    ∀ action ∈ systemActions deployment clock pipeline label, ∀ session data,
      action ≠ .offer session data := by
  intro action member session data
  cases label with
  | offer other body => exact absurd rfl (silent other body)
  | drop other => simp [List.mem_singleton.mp member]
  | worker index outcome =>
      simp only [systemActions] at member
      split at member
      · simp [List.mem_singleton.mp member]
      · simp at member
  | _ => simp [systemActions] at member

theorem mainSystem_silent (input : MainInput) (main : MainPc) :
    ∀ action ∈ mainSystem input main, ∀ session data, action ≠ .offer session data := by
  intro action member session data
  cases main with
  | serving => simp [List.mem_singleton.mp member]
  | joining => simp [List.mem_singleton.mp member]
  | draining => simp [List.mem_singleton.mp member]
  | _ => simp [mainSystem] at member

theorem processActions_silent {process : Process capacity} {label : ProcessLabel}
    (silent : ∀ clock session data, label ≠ .thread clock (.offer session data)) :
    ∀ action ∈ processActions deployment process label, ∀ session data,
      action ≠ .offer session data := by
  cases label with
  | thread clock label =>
      exact systemActions_silent fun session data same => silent clock session data (by rw [same])
  | main input => exact mainSystem_silent input process.main

/-- Only a session's handler puts anything into the queue or is refused there. -/
theorem processStep_silent {process next : Process capacity} {label : ProcessLabel}
    (silent : ∀ clock session data, label ≠ .thread clock (.offer session data))
    (stepped : process.step parse deployment label = some next) :
    next.pipeline.system.shared.accepted = process.pipeline.system.shared.accepted ∧
      next.pipeline.system.refusals = process.pipeline.system.refusals := by
  let parts : Refinement (processMachine parse deployment (fun _ => none) capacity 0 0)
    (systemMachine (deployment.config parse) capacity 0 0) := processSystem
  exact silent_run (processActions_silent silent) (parts.simulates process label next stepped)

theorem joined_session {service next : Service capacity} {index : Nat} {label : SessionLabel}
    (joined : Joined parse deployment redis sessions workers service)
    (stepped : service.session index label = some next) :
    Joined parse deployment redis sessions workers next := by
  obtain ⟨serving, connection, session, actions, system, found, ran, exchanged, handed, rfl⟩ :=
    service_session stepped
  obtain ⟨bound, -⟩ := List.getElem?_eq_some_iff.mp found
  have member := List.mem_of_getElem? found
  obtain ⟨own, parted⟩ := exchange_accepted exchanged (joined.accepted index connection found)
    (joined.parted connection member) session (connection.inbound ++ label.delivered)
  have dropped : (connection.actions ++ actions).count .drop =
      connection.dropped + actions.count .drop := List.count_append
  refine ⟨?_, ?_, ?_, ?_, ?_, ?_⟩
  · rcases handed with rfl | ⟨data, offered⟩
    · have same : service.process = ⟨service.process.pipeline, .serving⟩ := by rw [← serving]
      exact same ▸ joined.process
    · have stepped : (processMachine parse deployment redis capacity sessions workers).step
          service.process (.thread 0 (.offer index data)) =
            some ⟨{ service.process.pipeline with system := system }, .serving⟩ := by
        simp [processMachine, Process.step, Process.allows, serving, Pipeline.step, System.step,
          offered]
      exact joined.process.step stepped
  · exact forall_set joined.connections ((joined.connections connection member).step ran)
  · intro other held foundOther
    by_cases mine : other = index
    · subst other
      rw [List.getElem?_set_self bound, Option.some.injEq] at foundOther
      exact foundOther ▸ own
    · rw [List.getElem?_set_ne (Ne.symm mine)] at foundOther
      rw [← joined.accepted other held foundOther]
      cases exchanged with
      | taken _ => simp [fromSession, Ne.symm mine]
      | _ => rfl
  · rw [List.length_set]
    cases exchanged with
    | taken _ =>
        intro message among
        rcases List.mem_append.mp among with earlier | now
        · exact joined.known message earlier
        · exact List.mem_singleton.mp now ▸ bound
    | _ => exact joined.known
  · exact forall_set joined.parted parted
  · have balance := tally_set Connection.dropped
      ⟨session, connection.inbound ++ label.delivered, connection.actions ++ actions⟩ found
    have refusals := exchange_drops exchanged
    have before := joined.drops
    simp only [Connection.dropped] at balance dropped before ⊢
    omega

theorem joined_step {service next : Service capacity} {label : ServiceLabel}
    (joined : Joined parse deployment redis sessions workers service)
    (stepped : service.step parse deployment label = some next) :
    Joined parse deployment redis sessions workers next := by
  cases label with
  | session index label => exact joined_session joined stepped
  | process label =>
      obtain ⟨silent, process, ran, rfl⟩ := serviceProcess_step stepped
      obtain ⟨accepted, refusals⟩ := processStep_silent silent ran
      refine ⟨joined.process.step ran, joined.connections, ?_, ?_, joined.parted, ?_⟩
      · rw [accepted]
        exact joined.accepted
      · rw [accepted]
        exact joined.known
      · exact joined.drops.trans refusals.symm

theorem joined_initial : Joined parse deployment redis sessions workers
    (serviceMachine parse deployment redis capacity sessions workers).initial := by
  have fresh {connection : Connection}
      (member : connection ∈ List.replicate sessions connectionMachine.initial) :
      connection = connectionMachine.initial := List.eq_of_mem_replicate member
  refine ⟨Machine.Reachable.start _, ?_, ?_, ?_, ?_, ?_⟩
  · intro connection member
    exact fresh member ▸ Machine.Reachable.start _
  · intro index connection found
    rw [fresh (List.mem_of_getElem? found)]
    rfl
  · intro message member
    simp [serviceMachine, processMachine, systemMachine, Shared.initial] at member
  · intro connection member
    rw [fresh member]
    rfl
  · have nothing := tally_replicate_zero Connection.dropped connectionMachine.initial rfl sessions
    simp [serviceMachine, processMachine, systemMachine, Shared.initial, System.refusals, nothing,
      List.countP_replicate]

theorem service_joined {service : Service capacity}
    (reachable : (serviceMachine parse deployment redis capacity sessions workers).Reachable
      service) : Joined parse deployment redis sessions workers service :=
  Machine.reachable_invariant _ joined_initial
    (fun _ _ _ joined stepped => joined_step joined stepped) reachable

/-! The connections share the accepted events out among them. -/

variable {service : Service capacity}

theorem fromSession_parts {count : Nat} {messages : List Message}
    (known : ∀ message ∈ messages, message.session < count) :
    ((List.range count).flatMap fun index => fromSession index messages).Perm
      (messages.map Message.data) := by
  induction count generalizing messages with
  | zero =>
      have none : messages = [] := by
        rw [List.eq_nil_iff_forall_not_mem]
        exact fun message member => Nat.not_lt_zero _ (known message member)
      simp [none]
  | succ count ih =>
      let earlier := messages.filter fun message => message.session < count
      have below : ∀ message ∈ earlier, message.session < count := by
        intro message member
        simpa using (List.mem_filter.mp member).2
      have same (index : Nat) (small : index < count) :
          fromSession index messages = fromSession index earlier := by
        rw [fromSession, fromSession, List.filter_filter]
        congr 1
        apply List.filter_congr
        intro message _
        by_cases own : message.session = index
        · simp [own, small]
        · simp [own]
      have last : fromSession count messages =
          (messages.filter fun message => !decide (message.session < count)).map
            Message.data := by
        rw [fromSession]
        congr 1
        apply List.filter_congr
        intro message member
        have inside := known message member
        by_cases own : message.session = count
        · simp [own]
        · have strictly : message.session < count := by omega
          simp [own, strictly]
      rw [List.range_succ, List.flatMap_append, List.flatMap_singleton, last]
      have first : ((List.range count).flatMap fun index => fromSession index messages) =
          (List.range count).flatMap fun index => fromSession index earlier := by
        apply List.flatMap_congr
        exact fun index member => same index (List.mem_range.mp member)
      rw [first]
      have together : (earlier ++ messages.filter fun message =>
          !decide (message.session < count)).Perm messages :=
        List.filter_append_perm (fun message : Message => message.session < count) messages
      exact ((ih below).append_right _).trans (by
        rw [← List.map_append]
        exact together.map _)

theorem flatMap_getElem? {Item Value : Type} (items : List Item) (value : Item → List Value)
    (valueAt : Nat → List Value)
    (agree : ∀ index item, items[index]? = some item → valueAt index = value item) :
    (List.range items.length).flatMap valueAt = items.flatMap value := by
  induction items generalizing valueAt with
  | nil => rfl
  | cons item rest ih =>
      rw [List.length_cons, List.range_succ_eq_map, List.flatMap_cons, List.flatMap_cons,
        agree 0 item rfl, List.flatMap_map, ih (fun index => valueAt (index + 1))]
      exact fun index other found => agree (index + 1) other found

theorem joined_parts (joined : Joined parse deployment redis sessions workers service) :
    (service.connections.flatMap Connection.taken).Perm
      (service.process.pipeline.system.shared.accepted.map Message.data) := by
  rw [← flatMap_getElem? service.connections Connection.taken
    (fromSession · service.process.pipeline.system.shared.accepted) joined.accepted]
  exact fromSession_parts joined.known

theorem offers_length {connections : List Connection}
    (parted : ∀ connection ∈ connections,
      connection.offers.length = connection.taken.length + connection.dropped) :
    (connections.flatMap Connection.offers).length =
      (connections.flatMap Connection.taken).length + tally Connection.dropped connections := by
  induction connections with
  | nil => rfl
  | cons connection rest ih =>
      have here := parted connection List.mem_cons_self
      have later := ih fun other member => parted other (List.mem_cons_of_mem _ member)
      simp only [List.flatMap_cons, List.length_append, tally_cons]
      omega

/-- What became of the bodies that the clients' bytes hold: each was dropped and counted,
or is finished once, or still waits for its handler. -/
structure Accounts (service : Service capacity) : Prop where
  frames : ∀ connection ∈ service.connections,
    frameCode.Longest (connection.offers ++ connection.unhandled) connection.inbound
  ended : ∀ connection ∈ service.connections, connection.session.read = .idle →
    frameCode.Longest connection.offers connection.inbound
  finished : ∀ index connection, service.connections[index]? = some connection →
    (fromSession index (messages service.process.pipeline.system.shared.finished)).Perm
      connection.taken
  kept : ∀ connection ∈ service.connections, connection.taken.Sublist connection.offers ∧
    connection.offers.length = connection.taken.length + connection.dropped
  drops : tally Connection.dropped service.connections =
    service.process.pipeline.metrics.totalQueueDrop
  books : (service.connections.flatMap Connection.offers).length =
    service.process.pipeline.metrics.totalQueueDrop +
      service.process.pipeline.metrics.totalParseFail +
      service.process.pipeline.metrics.totalInvalid +
      service.process.pipeline.metrics.totalRateLimited +
      (passedOn service.process.pipeline.system.shared.finished).length

theorem joined_accounts (joined : Joined parse deployment redis sessions workers service)
    (exited : service.process.main = .exited) : Accounts service := by
  have finished := exited_finished joined.process exited
  have settled : .dropping ∉ service.process.pipeline.system.sessions := by
    refine systemMachine_settled (processSystem.reachable joined.process) ?_
    have stopped := (process_staged joined.process).stop
    rw [exited] at stopped
    exact fun serving => by simp [stopped, MainPc.stop] at serving
  have drops : tally Connection.dropped service.connections =
      service.process.pipeline.system.shared.metrics.totalQueueDrop := by
    have nobody : service.process.pipeline.system.sessions.countP SessionPc.isDropping = 0 := by
      rw [List.countP_eq_zero]
      intro session member
      cases session with
      | reading => simp
      | dropping => exact absurd member settled
    rw [joined.drops, System.refusals, nobody, Nat.add_zero]
  refine ⟨?_, ?_, ?_, ?_, drops, ?_⟩
  · intro connection member
    obtain ⟨rest, framed⟩ := connectionMachine_framed (joined.connections connection member)
    exact unhandled_longest framed
  · intro connection member idle
    obtain ⟨rest, framed⟩ := connectionMachine_framed (joined.connections connection member)
    exact connection_longest framed (by simp [idle])
  · intro index connection found
    rw [← joined.accepted index connection found]
    exact (finished.once.filter _).map _
  · exact fun connection member => ⟨connection.taken_sublist, joined.parted connection member⟩
  · have shared := (joined_parts joined).length_eq
    rw [List.length_map] at shared
    rw [offers_length joined.parted, shared, drops, finished.fates]
    simp only [Pipeline.metrics]
    omega

/-- Whatever bytes the clients send: when `main` has returned, the frames in them are, for
each connection, the dropped bodies and those finished once (and, where the io threads
ended before its handler ran, one more), and the counters add up to the number of bodies
offered on all connections. -/
theorem service_accounts (parse : Bytes → Option Event) (deployment : Deployment)
    (redis : CounterStore Bytes) (sessions workers : Nat) {service : Service capacity}
    (reachable : (serviceMachine parse deployment redis capacity sessions workers).Reachable
      service) (exited : service.process.main = .exited) : Accounts service :=
  joined_accounts (service_joined reachable) exited

end

def clientSends (index : Nat) (body : Bytes) (accepted : Bool) : List ServiceLabel :=
  [.session index (.receive (packLength body.length)), .session index (.runRead true),
    .session index (.receive body), .session index (.runRead accepted)]

/-- The queue of one place refuses the second event of the first client, which then closes.
The second client's header is that of an empty body, and the third one's body has been
read when the io threads end. -/
def lossyRun : List ServiceLabel :=
  let main : ServiceLabel := .process (.main ⟨1, []⟩)
  clientSends 0 (encodeEvent (eventOf [7])) true ++
    clientSends 0 (encodeEvent (eventOf [8])) false ++
    [.process (.thread 1 (.drop 0)), .session 0 .readFails, .session 0 (.runRead true),
      .session 1 (.receive [0, 0, 0, 0]), .session 1 (.runRead true)] ++
    (clientSends 2 [9] true).take 3 ++ [main, .process (.thread 1 (.worker 0 .fails))] ++
    List.replicate 7 main

set_option synthInstance.maxSize 256 in
theorem lossyRun_ends :
    ((serviceMachine sampleParse ⟨none, false, false⟩ (fun _ => none) 1 3 1).run
      (serviceMachine sampleParse ⟨none, false, false⟩ (fun _ => none) 1 3 1).initial lossyRun).map
        (fun service : Service 1 => (service.process.main,
          service.process.pipeline.metrics.totalQueueDrop,
          service.connections.map fun connection =>
            (connection.offers, connection.unhandled))) =
      some (.exited, 1, [([encodeEvent (eventOf [7]), encodeEvent (eventOf [8])], []), ([], []),
        ([], [[9]])]) := by decide

theorem service_accounts_lossy : ∃ service : Service 1,
    (serviceMachine sampleParse ⟨none, false, false⟩ (fun _ => none) 1 3 1).Reachable service ∧
    service.connections.map (fun connection => (connection.offers, connection.unhandled)) =
      [([encodeEvent (eventOf [7]), encodeEvent (eventOf [8])], []), ([], []), ([], [[9]])] ∧
    tally Connection.dropped service.connections = 1 ∧ Accounts service := by
  obtain ⟨service, reached, summary⟩ := Option.map_eq_some_iff.mp lossyRun_ends
  simp only [Prod.mk.injEq] at summary
  obtain ⟨exited, dropped, bodies⟩ := summary
  have accounts := service_accounts sampleParse ⟨none, false, false⟩ (fun _ => none) 3 1
    ⟨lossyRun, reached⟩ exited
  exact ⟨service, ⟨lossyRun, reached⟩, bodies, accounts.drops.trans dropped, accounts⟩

end EventCollector
