import EventCollector.EventSize
import EventCollector.Service

/-!
What the server does with the events of clients that send nothing but frames of events
it can read and would let pass: it counts none of them as broken, and each is passed on
once, refused by the rate limiter, or dropped at the full queue and counted there.
-/

namespace EventCollector

open Ledger

variable {capacity : Nat}

section

variable {parse : Bytes → Option Event} {deployment : Deployment} {redis : CounterStore Bytes}
  {sessions workers : Nat}

/-! Clients that send what the server can read. -/

/-- What a client may send: its frame is admissible and `ParseFromString` reads it back. -/
structure Sendable (parse : Bytes → Option Event) (evt : Event) : Prop where
  admissible : Admissible (encodeEvent evt)
  recovered : parse (encodeEvent evt) = some evt

/-- `sent` has the events of each client. What arrives is the start of their frames, and
no clock is read at which one of them is invalid. -/
def Service.Faithful (sent : List (List Event)) (service : Service capacity) :
    ServiceLabel → Prop
  | .session index (.receive chunk) =>
      ∀ connection ∈ service.connections[index]?,
        connection.inbound ++ chunk <+:
          frameCode.encodeAll ((sent.getD index []).map encodeEvent)
  | .session _ _ => True
  | .process label =>
      ∀ events ∈ sent, ∀ evt ∈ events, validateEvent label.clock evt = true

instance Service.Faithful.decidable (sent : List (List Event)) (service : Service capacity) :
    ∀ label, Decidable (service.Faithful sent label)
  | .session index (.receive _) =>
      inferInstanceAs (Decidable (∀ connection ∈ service.connections[index]?, _))
  | .session _ .readFails => isTrue trivial
  | .session _ (.runRead _) => isTrue trivial
  | .session _ .expire => isTrue trivial
  | .session _ .runExpired => isTrue trivial
  | .session _ .runAborted => isTrue trivial
  | .process _ => inferInstanceAs (Decidable (∀ events ∈ sent, _))

def SystemLabel.Reads (clock : Int) : SystemLabel → Prop
  | .worker _ input => input.clock = clock
  | .drain time => time = clock
  | _ => True

/-- The message that every step of a worker or of the drain loop works on. -/
theorem handled_accepted {config : Config} {sessions workers : Nat} {system : System capacity}
    (reachable : (systemMachine config capacity sessions workers).Reachable system)
    {message : Message} (held : (∃ pc ∈ system.workers, message ∈ pc.inHand) ∨
      message ∈ system.shared.queue.items) : message ∈ system.shared.accepted := by
  rw [← systemMachine_fifo reachable, List.mem_append]
  rcases held with ⟨pc, working, inHand⟩ | queued
  · have among : message ∈ bag system.shared.taken := by
      rw [(systemMachine_custody reachable).held, Multiset.mem_add]
      exact Or.inr (mem_tally working inHand)
    exact Or.inl (Multiset.mem_coe.mp among)
  · exact Or.inr queued

theorem systemStep_clean {config : Config} {sessions workers : Nat} {clock : Int}
    {system next : System capacity} {label : SystemLabel}
    (reachable : (systemMachine config capacity sessions workers).Reachable system)
    (readable : ∀ message ∈ system.shared.accepted, ∃ evt,
      config.parse message.data = some evt ∧ validateEvent clock evt = true)
    (reads : label.Reads clock) (stepped : system.step config label = some next) :
    next.shared.metrics.totalParseFail = system.shared.metrics.totalParseFail ∧
      next.shared.metrics.totalInvalid = system.shared.metrics.totalInvalid := by
  cases label with
  | offer session data =>
      have same := offer_sameWork stepped
      exact ⟨same.failed, same.invalid⟩
  | drop session =>
      have same := drop_sameWork stepped
      exact ⟨same.failed, same.invalid⟩
  | worker index input =>
      simp only [System.step, Option.bind_eq_some_iff, Option.map_eq_some_iff] at stepped
      obtain ⟨old, found, ⟨shared, new⟩, moved, rfl⟩ := stepped
      have working := List.mem_of_getElem? found
      have readIt (message : Message) (inHand : message ∈ old.inHand) :=
        readable message (handled_accepted reachable (Or.inl ⟨old, working, inHand⟩))
      cases workerStep_move moved with
      | @parseFail message failed =>
          obtain ⟨evt, parsed, -⟩ := readIt message (by simp)
          simp [failed] at parsed
      | @reject message evt rejected =>
          obtain ⟨other, parsed, valid⟩ := readIt message (by simp)
          have own := (systemMachine_custody reachable).established _ working
          simp only [WorkerPc.Established, parsed, Option.some.injEq] at own
          subst own
          rw [show input.clock = clock from reads, valid] at rejected
          simp at rejected
      | save => simp [save_eq]
      | _ => exact ⟨rfl, rfl⟩
  | callStop =>
      simp only [System.step, Option.ite_none_right_eq_some, Option.some.injEq] at stepped
      exact stepped.2 ▸ ⟨rfl, rfl⟩
  | join =>
      simp only [System.step, Option.ite_none_right_eq_some, Option.some.injEq] at stepped
      exact stepped.2 ▸ ⟨rfl, rfl⟩
  | drain time =>
      obtain rfl : time = clock := reads
      obtain ⟨-, ⟨-, rfl⟩ | ⟨message, shared, queue, front, rfl, moved⟩⟩ := drain_cases stepped
      · exact ⟨rfl, rfl⟩
      · have queued : message ∈ system.shared.queue.items := by simp [front]
        obtain ⟨evt, parsed, valid⟩ := readable message (handled_accepted reachable (Or.inr queued))
        cases moved with
        | parseFail failed => simp [failed] at parsed
        | reject found rejected =>
            rw [parsed, Option.some.injEq] at found
            subst found
            simp [valid] at rejected
        | pass _ _ => simp [save_eq, Shared.produceToKafka]

theorem clean_run {config : Config} {sessions workers : Nat} {clock : Int}
    {labels : List SystemLabel} {system next : System capacity}
    (reachable : (systemMachine config capacity sessions workers).Reachable system)
    (readable : ∀ message ∈ system.shared.accepted, ∃ evt,
      config.parse message.data = some evt ∧ validateEvent clock evt = true)
    (silent : ∀ label ∈ labels, ∀ session data, label ≠ .offer session data)
    (reads : ∀ label ∈ labels, label.Reads clock)
    (ran : (systemMachine config capacity sessions workers).run system labels = some next) :
    next.shared.metrics.totalParseFail = system.shared.metrics.totalParseFail ∧
      next.shared.metrics.totalInvalid = system.shared.metrics.totalInvalid := by
  induction labels generalizing system with
  | nil => exact Option.some.inj ran ▸ ⟨rfl, rfl⟩
  | cons label rest ih =>
      obtain ⟨middle, stepped, tail⟩ := Machine.run_cons_some.mp ran
      have kept := step_accepted (silent label List.mem_cons_self) stepped
      obtain ⟨failed, invalid⟩ := systemStep_clean reachable readable
        (reads label List.mem_cons_self) stepped
      obtain ⟨failedLater, invalidLater⟩ := ih (reachable.step stepped)
        (kept.symm ▸ readable) (fun other member => silent other (List.mem_cons_of_mem _ member))
        (fun other member => reads other (List.mem_cons_of_mem _ member)) tail
      exact ⟨failedLater.trans failed, invalidLater.trans invalid⟩

theorem systemActions_read {clock : Int} {pipeline : Pipeline capacity} (label : PipelineLabel) :
    ∀ action ∈ systemActions deployment clock pipeline label, action.Reads clock := by
  intro action member
  cases label with
  | worker index outcome =>
      simp only [systemActions] at member
      split at member
      · exact List.mem_singleton.mp member ▸ rfl
      · simp at member
  | offer session data => exact List.mem_singleton.mp member ▸ trivial
  | drop session => exact List.mem_singleton.mp member ▸ trivial
  | _ => simp [systemActions] at member

theorem mainSystem_read (input : MainInput) (main : MainPc) :
    ∀ action ∈ mainSystem input main, action.Reads input.clock := by
  intro action member
  cases main with
  | serving => exact List.mem_singleton.mp member ▸ trivial
  | joining => exact List.mem_singleton.mp member ▸ trivial
  | draining => exact List.mem_singleton.mp member ▸ rfl
  | _ => simp [mainSystem] at member

theorem processActions_read {process : Process capacity} (label : ProcessLabel) :
    ∀ action ∈ processActions deployment process label, action.Reads label.clock := by
  cases label with
  | thread clock label => exact systemActions_read label
  | main input => exact mainSystem_read input process.main

structure Clean (sent : List (List Event)) (service : Service capacity) : Prop where
  started : ∀ index connection, service.connections[index]? = some connection →
    connection.inbound <+: frameCode.encodeAll ((sent.getD index []).map encodeEvent)
  failed : service.process.pipeline.system.shared.metrics.totalParseFail = 0
  invalid : service.process.pipeline.system.shared.metrics.totalInvalid = 0

variable {sent : List (List Event)} {service : Service capacity}

theorem mem_sent {index : Nat} {evt : Event} (member : evt ∈ sent.getD index []) :
    ∃ events ∈ sent, evt ∈ events := by
  rw [List.getD_eq_getElem?_getD] at member
  cases found : sent[index]? with
  | none => simp [found] at member
  | some events =>
      rw [found, Option.getD_some] at member
      exact ⟨events, List.mem_of_getElem? found, member⟩

theorem clean_offers (sendable : ∀ events ∈ sent, ∀ evt ∈ events, Sendable parse evt)
    (joined : Joined parse deployment redis sessions workers service) (clean : Clean sent service)
    {index : Nat} {connection : Connection}
    (found : service.connections[index]? = some connection) :
    connection.offers <+: (sent.getD index []).map encodeEvent := by
  refine offers_sent (joined.connections connection (List.mem_of_getElem? found)) ?_
    (clean.started index connection found)
  intro body member
  obtain ⟨evt, own, rfl⟩ := List.mem_map.mp member
  obtain ⟨events, listed, among⟩ := mem_sent own
  exact (sendable events listed evt among).admissible

theorem clean_readable (sendable : ∀ events ∈ sent, ∀ evt ∈ events, Sendable parse evt)
    (joined : Joined parse deployment redis sessions workers service) (clean : Clean sent service)
    {message : Message} (member : message ∈ service.process.pipeline.system.shared.accepted) :
    ∃ events ∈ sent, ∃ evt ∈ events, parse message.data = some evt := by
  obtain ⟨connection, found⟩ : ∃ connection, service.connections[message.session]? =
      some connection := ⟨_, List.getElem?_eq_getElem (joined.known message member)⟩
  have own : message.data ∈
      fromSession message.session service.process.pipeline.system.shared.accepted := by
    refine List.mem_map.mpr ⟨message, List.mem_filter.mpr ⟨member, by simp⟩, rfl⟩
  rw [joined.accepted message.session connection found] at own
  have offered := (clean_offers sendable joined clean found).subset
    (connection.taken_sublist.subset own)
  obtain ⟨evt, mine, encoded⟩ := List.mem_map.mp offered
  obtain ⟨events, listed, among⟩ := mem_sent mine
  exact ⟨events, listed, evt, among, encoded ▸ (sendable events listed evt among).recovered⟩

theorem clean_initial : Clean sent
    (serviceMachine parse deployment redis capacity sessions workers).initial := by
  refine ⟨?_, rfl, rfl⟩
  intro index connection found
  rw [List.eq_of_mem_replicate (List.mem_of_getElem? found)]
  exact List.nil_prefix

theorem clean_session {next : Service capacity} {index : Nat} {label : SessionLabel}
    (clean : Clean sent service) (faithful : service.Faithful sent (.session index label))
    (stepped : service.session index label = some next) : Clean sent next := by
  obtain ⟨-, connection, session, actions, system, found, -, exchanged, handed, rfl⟩ :=
    service_session stepped
  obtain ⟨bound, -⟩ := List.getElem?_eq_some_iff.mp found
  have work : system.shared.metrics.totalParseFail =
        service.process.pipeline.system.shared.metrics.totalParseFail ∧
      system.shared.metrics.totalInvalid =
        service.process.pipeline.system.shared.metrics.totalInvalid := by
    rcases handed with rfl | ⟨data, offered⟩
    · exact ⟨rfl, rfl⟩
    · have same := offer_sameWork offered
      exact ⟨same.failed, same.invalid⟩
  refine ⟨?_, work.1.trans clean.failed, work.2.trans clean.invalid⟩
  intro other held foundOther
  by_cases mine : other = index
  · subst other
    rw [List.getElem?_set_self bound, Option.some.injEq] at foundOther
    subst held
    cases label with
    | receive chunk => exact faithful connection (Option.mem_def.mpr found)
    | _ =>
        simp only [SessionLabel.delivered, List.append_nil]
        exact clean.started index connection found
  · rw [List.getElem?_set_ne (Ne.symm mine)] at foundOther
    exact clean.started other held foundOther

theorem clean_step {next : Service capacity} {label : ServiceLabel}
    (sendable : ∀ events ∈ sent, ∀ evt ∈ events, Sendable parse evt)
    (joined : Joined parse deployment redis sessions workers service) (clean : Clean sent service)
    (faithful : service.Faithful sent label)
    (stepped : service.step parse deployment label = some next) : Clean sent next := by
  cases label with
  | session index label => exact clean_session clean faithful stepped
  | process label =>
      obtain ⟨silent, process, ran, rfl⟩ := serviceProcess_step stepped
      have readable : ∀ message ∈ service.process.pipeline.system.shared.accepted, ∃ evt,
          (deployment.config parse).parse message.data = some evt ∧
            validateEvent label.clock evt = true := by
        intro message member
        obtain ⟨events, listed, evt, among, parsed⟩ :=
          clean_readable sendable joined clean member
        exact ⟨evt, parsed, faithful events listed evt among⟩
      have kept := clean_run (processSystem.reachable joined.process) readable
        (processActions_silent silent) (processActions_read label)
        (processSystem.simulates service.process label process ran)
      exact ⟨clean.started, kept.1.trans clean.failed, kept.2.trans clean.invalid⟩

/-- What became of the events of clients that send nothing else. -/
structure Delivery (sent : List (List Event)) (deployment : Deployment)
    (service : Service capacity) : Prop where
  read : ∀ index connection, service.connections[index]? = some connection →
    ¬ connection.rejected ∧ connection.offers <+: (sent.getD index []).map encodeEvent
  failed : service.process.pipeline.metrics.totalParseFail = 0
  invalid : service.process.pipeline.metrics.totalInvalid = 0
  genuine : ∀ index connection, service.connections[index]? = some connection →
    ∃ events : List Event, events.Sublist (sent.getD index []) ∧
      (fromSession index (passedOn service.process.pipeline.system.shared.finished)).Perm
        (events.map encodeEvent)
  whole : service.process.main = .exited →
    service.process.pipeline.metrics.totalQueueDrop = 0 →
    service.process.pipeline.metrics.totalRateLimited = 0 →
    (∀ index connection, service.connections[index]? = some connection →
      (fromSession index (passedOn service.process.pipeline.system.shared.finished)).Perm
        connection.offers) ∧
    (deployment.storage = true → service.process.pipeline.storage.given.flatten.Perm
      (service.connections.flatMap Connection.offers))

theorem joined_genuine (joined : Joined parse deployment redis sessions workers service)
    (index : Nat) : List.Subperm
      (fromSession index (passedOn service.process.pipeline.system.shared.finished))
      (fromSession index service.process.pipeline.system.shared.accepted) := by
  have custody := process_custody joined.process
  have order := systemMachine_fifo (processSystem.reachable joined.process)
  have once : (messages service.process.pipeline.system.shared.finished).Subperm
      service.process.pipeline.system.shared.taken := by
    rw [← Multiset.coe_le]
    exact Multiset.le_iff_exists_add.mpr ⟨_, custody.held⟩
  have passed : (passedOn service.process.pipeline.system.shared.finished).Sublist
      (messages service.process.pipeline.system.shared.finished) := List.filter_sublist.map _
  have within : service.process.pipeline.system.shared.taken.Sublist
      service.process.pipeline.system.shared.accepted :=
    order ▸ List.sublist_append_left _ _
  obtain ⟨some, same, inside⟩ := (passed.subperm.trans once).trans within.subperm
  exact ⟨fromSession index some, (same.filter _).map _, fromSession_sublist index inside⟩

/-- Without other outcomes, what has been finished has been passed on. -/
theorem passedOn_all {config : Config} {system : System capacity}
    (finished : Finished config system) (failed : system.shared.metrics.totalParseFail = 0)
    (invalid : system.shared.metrics.totalInvalid = 0)
    (limited : system.shared.metrics.totalRateLimited = 0) :
    passedOn system.shared.finished = messages system.shared.finished := by
  have passed : (passedOn system.shared.finished).Sublist (messages system.shared.finished) :=
    List.filter_sublist.map _
  have fates := finished.fates
  have once := finished.once.length_eq
  exact passed.eq_of_length (by omega)

theorem clean_delivery (sendable : ∀ events ∈ sent, ∀ evt ∈ events, Sendable parse evt)
    (joined : Joined parse deployment redis sessions workers service) (clean : Clean sent service) :
    Delivery sent deployment service := by
  refine ⟨?_, clean.failed, clean.invalid, ?_, ?_⟩
  · intro index connection found
    refine ⟨?_, clean_offers sendable joined clean found⟩
    refine admissible_not_rejected (joined.connections connection (List.mem_of_getElem? found)) ?_
      (clean.started index connection found)
    intro body member
    obtain ⟨evt, own, rfl⟩ := List.mem_map.mp member
    obtain ⟨events, listed, among⟩ := mem_sent own
    exact (sendable events listed evt among).admissible
  · intro index connection found
    obtain ⟨bodies, same, inside⟩ := joined_genuine joined index
    rw [joined.accepted index connection found] at inside
    have offered := (inside.trans connection.taken_sublist).trans
      (clean_offers sendable joined clean found).sublist
    obtain ⟨events, among, rfl⟩ := List.sublist_map_iff.mp offered
    exact ⟨events, among, same.symm⟩
  · intro exited noDrop noLimit
    have finished := exited_finished joined.process exited
    have accounts := joined_accounts joined exited
    have all := passedOn_all finished clean.failed clean.invalid noLimit
    have kept (connection : Connection) (member : connection ∈ service.connections) :
        connection.taken = connection.offers := by
      have none : connection.dropped ≤ 0 :=
        (accounts.drops.trans noDrop) ▸ le_tally member
      obtain ⟨inside, parts⟩ := accounts.kept connection member
      exact inside.eq_of_length (by omega)
    refine ⟨?_, ?_⟩
    · intro index connection found
      rw [all, ← kept connection (List.mem_of_getElem? found)]
      exact accounts.finished index connection found
    · intro enabled
      have flushed :=
        resting_flushed joined.process (exited_resting joined.process exited) enabled
      rw [all] at flushed
      have shared := joined_parts joined
      rw [List.flatMap_congr kept] at shared
      exact (flushed.trans (finished.once.map _)).trans shared.symm

/-- As long as the clients send nothing but frames of events that the server can read and
that are valid whenever it looks, nothing is counted as broken, no connection is refused,
and what was passed on of a connection is some of its client's events, each once. When the
io threads have ended and `main` has returned, only a full queue and the rate limiter can
have kept any of the bodies offered back. -/
theorem service_delivers (parse : Bytes → Option Event) (deployment : Deployment)
    (redis : CounterStore Bytes) (sessions workers : Nat) (sent : List (List Event))
    (sendable : ∀ events ∈ sent, ∀ evt ∈ events, Sendable parse evt)
    {labels : List ServiceLabel} {service : Service capacity}
    (reached : (serviceMachine parse deployment redis capacity sessions workers).run
      (serviceMachine parse deployment redis capacity sessions workers).initial labels =
        some service)
    (faithful : (serviceMachine parse deployment redis capacity sessions workers).Steps
      (Service.Faithful sent)
      (serviceMachine parse deployment redis capacity sessions workers).initial labels) :
    Delivery sent deployment service := by
  have kept := Machine.always_of_steps
    (fun service => Joined parse deployment redis sessions workers service ∧ Clean sent service)
    (fun _ holds => holds)
    (fun before label after holds faithful stepped =>
      ⟨joined_step holds.1 stepped, clean_step sendable holds.1 holds.2 faithful stepped⟩)
    ⟨joined_initial, clean_initial⟩ faithful
  obtain ⟨joined, clean⟩ := Machine.always_final kept reached
  exact clean_delivery sendable joined clean

end

/-- One event of each of two clients: the worker passes the first on, the drain loop the
other, and `flush_and_stop` writes both. -/
def servedRun : List ServiceLabel :=
  let worker : ServiceLabel := .process (.thread 1 (.worker 0 .fails))
  let main : ServiceLabel := .process (.main ⟨1, []⟩)
  let storage (thread : Nat) : ServiceLabel := .process (.thread 1 (.storage thread true))
  clientSends 0 (encodeEvent (eventOf [7])) true ++
    clientSends 1 (encodeEvent (eventOf [8])) true ++ List.replicate 8 worker ++
    [main, worker, main, main, main, main, main] ++ List.replicate 4 (storage 2) ++
    [main, main, storage 0, main, main, main]

def servedDeployment : Deployment := ⟨none, false, true⟩

theorem servedRun_ends :
    ((serviceMachine sampleParse servedDeployment (fun _ => none) 2 2 1).run
      (serviceMachine sampleParse servedDeployment (fun _ => none) 2 2 1).initial servedRun).map
        (fun service : Service 2 => (service.process.main,
          service.process.pipeline.metrics.totalQueueDrop,
          service.process.pipeline.metrics.totalRateLimited,
          service.connections.flatMap Connection.offers)) =
      some (.exited, 0, 0, [encodeEvent (eventOf [7]), encodeEvent (eventOf [8])]) := by decide

theorem service_delivers_served : ∃ service : Service 2,
    (serviceMachine sampleParse servedDeployment (fun _ => none) 2 2 1).run
      (serviceMachine sampleParse servedDeployment (fun _ => none) 2 2 1).initial servedRun =
        some service ∧
    service.process.pipeline.storage.given.flatten.Perm
      [encodeEvent (eventOf [7]), encodeEvent (eventOf [8])] := by
  obtain ⟨service, reached, summary⟩ := Option.map_eq_some_iff.mp servedRun_ends
  simp only [Prod.mk.injEq] at summary
  obtain ⟨exited, noDrop, noLimit, offers⟩ := summary
  have sendable : ∀ events ∈ [[eventOf [7]], [eventOf [8]]], ∀ evt ∈ events,
      Sendable sampleParse evt := by
    simp only [List.mem_cons, List.not_mem_nil, or_false, forall_eq_or_imp, forall_eq]
    exact ⟨⟨by unfold Admissible; decide, by decide⟩, ⟨by unfold Admissible; decide, by decide⟩⟩
  have delivered := service_delivers sampleParse servedDeployment (fun _ => none) 2 1
    [[eventOf [7]], [eventOf [8]]] sendable reached (by decide)
  exact ⟨service, reached, offers ▸ (delivered.whole exited noDrop noLimit).2 rfl⟩

end EventCollector
