import EventCollector.ExactlyOnce
import EventCollector.Process
import EventCollector.StorageAccounting
import EventCollector.StorageRows

/-!
The books when `main` returns: what every event that was ever accepted came to, and what
the back ends did with those that were passed on, by the workers or by the drain loop.
-/

namespace EventCollector

open Ledger

variable {capacity : Nat}

section

variable {parse : Bytes → Option Event} {deployment : Deployment}

/-! The back ends have got the calls of the workers and of the main thread. -/

/-- The drain loop has recorded a `save` that it is about to make. -/
def MainPc.unsaved (deployment : Deployment) : MainPc → List Bytes
  | .saving message _ => if deployment.storage then [message.data] else []
  | _ => []

structure Wired (deployment : Deployment) (process : Process capacity) : Prop where
  kafka : deployment.kafka = true →
    process.pipeline.kafka.calls = process.pipeline.system.shared.produced.length
  storage : process.pipeline.storage.saved ++ process.main.unsaved deployment =
    process.pipeline.system.shared.saved.map Message.data

theorem drainMove_stops {config : Config} {clock : Int} {message : Message}
    {before after : Shared capacity}
    (stopped : (config.parse message.data).filter (validateEvent clock) = none)
    (moved : DrainMove config clock message before after) :
    after.produced = before.produced ∧ after.saved = before.saved := by
  cases moved with
  | parseFail _ => exact ⟨rfl, rfl⟩
  | reject _ _ => exact ⟨rfl, rfl⟩
  | pass parsed accepted => simp [parsed, accepted] at stopped

theorem drainMove_passes {config : Config} {clock : Int} {message : Message} {evt : Event}
    {before after : Shared capacity}
    (passed : (config.parse message.data).filter (validateEvent clock) = some evt)
    (moved : DrainMove config clock message before after) :
    after.produced = before.produced ++ [⟨evt.userId, message⟩] ∧
      after.saved = before.saved ++ if config.storage then [message] else [] := by
  obtain ⟨found, valid⟩ := Option.filter_eq_some_iff.mp passed
  cases moved with
  | parseFail failed => simp [failed] at found
  | reject parsed rejected =>
      rw [parsed, Option.some.injEq] at found
      subst found
      simp [rejected] at valid
  | pass parsed accepted =>
      rw [parsed, Option.some.injEq] at found
      subst found
      refine ⟨by simp [save_eq, Shared.produceToKafka], ?_⟩
      cases enabled : config.storage <;> simp [save_eq, Shared.produceToKafka, enabled]

/-- Only a worker's own step hands anything to the back ends. -/
theorem pipelineMove_idle {clock : Int} {before after : Pipeline capacity}
    {label : PipelineLabel} (own : ∀ index outcome, label ≠ .worker index outcome)
    (moved : PipelineMove parse deployment clock before label after) :
    after.kafka.calls = before.kafka.calls ∧
    after.system.shared.produced = before.system.shared.produced ∧
    after.storage.saved = before.storage.saved ∧
    after.system.shared.saved = before.system.shared.saved := by
  cases moved with
  | offer offered =>
      have same := offer_sameWork offered
      exact ⟨rfl, same.produced, rfl, same.saved⟩
  | drop dropped =>
      have same := drop_sameWork dropped
      exact ⟨rfl, same.produced, rfl, same.saved⟩
  | worker _ _ _ _ => exact absurd rfl (own _ _)
  | kafka later stepped =>
      exact ⟨kafkaMove_calls (kafkaStep_move stepped).2 later, rfl, rfl, rfl⟩
  | storage stepped => exact ⟨rfl, rfl, storageAdvance_saved stepped, rfl⟩

theorem wired_thread {process : Process capacity} {clock : Int} {label : PipelineLabel}
    {pipeline : Pipeline capacity} (wired : Wired deployment process)
    (allowed : Process.allows deployment process.main label = true)
    (moved : PipelineMove parse deployment clock process.pipeline label pipeline) :
    Wired deployment ⟨pipeline, process.main⟩ := by
  by_cases worker : ∃ index outcome, label = .worker index outcome
  · obtain ⟨index, outcome, rfl⟩ := worker
    have nothing : process.main.unsaved deployment = [] := by
      cases at_ : process.main with
      | saving message evt => simp [Process.allows, at_] at allowed
      | _ => rfl
    have connected : Connected deployment process.pipeline :=
      ⟨wired.kafka, by simpa [nothing] using wired.storage⟩
    have after := connected_step connected moved
    exact ⟨after.kafka, by simpa [nothing] using after.storage⟩
  · obtain ⟨calls, produced, saved, records⟩ :=
      pipelineMove_idle (fun index outcome same => worker ⟨index, outcome, same⟩) moved
    refine ⟨fun enabled => ?_, ?_⟩
    · rw [calls, produced]
      exact wired.kafka enabled
    · rw [saved, records]
      exact wired.storage

theorem flushKafka_calls (queued : List Nat) (kafka : KafkaSystem) :
    (flushKafka queued kafka).calls = kafka.calls := by
  unfold flushKafka
  split <;> rfl

theorem takeAll_saved (system : StorageSystem) (thread : Nat) (role : StorageRole) :
    (system.takeAll thread role).saved = system.saved := by
  unfold StorageSystem.takeAll
  split <;> rfl

theorem storageStep_saved {system next : StorageSystem} {label : StorageLabel}
    (silent : ∀ thread record, label ≠ .save thread record)
    (stepped : system.step label = some next) : next.saved = system.saved := by
  cases label with
  | save thread record => exact absurd rfl (silent thread record)
  | advance thread outcome => exact storageAdvance_saved stepped
  | flushAndStop thread =>
      simp only [StorageSystem.step, Option.ite_none_right_eq_some, Option.some.injEq] at stepped
      exact stepped.2 ▸ takeAll_saved system thread .caller
  | lastFlush thread =>
      simp only [StorageSystem.step, Option.ite_none_right_eq_some, Option.some.injEq] at stepped
      exact stepped.2 ▸ takeAll_saved system thread .caller
  | _ =>
      simp only [StorageSystem.step, Option.ite_none_right_eq_some, Option.some.injEq] at stepped
      exact stepped.2 ▸ rfl

theorem wired_flush {process : Process capacity} {label : StorageLabel} {old new : MainPc}
    {storage : StorageSystem}
    (wired : Wired deployment ⟨process.pipeline, old⟩) (before : old.unsaved deployment = [])
    (after : new.unsaved deployment = []) (silent : ∀ thread record, label ≠ .save thread record)
    (stepped : process.pipeline.storage.step label = some storage) :
    Wired deployment ⟨{ process.pipeline with storage := storage }, new⟩ := by
  refine ⟨wired.kafka, ?_⟩
  have kept := wired.storage
  rw [before] at kept
  rw [after, storageStep_saved silent stepped]
  exact kept

theorem wired_main {input : MainInput} {process : Process capacity}
    {pipeline : Pipeline capacity} {old new : MainPc}
    (wired : Wired deployment ⟨process.pipeline, old⟩)
    (moved : MainMove parse deployment input process old pipeline new) :
    Wired deployment ⟨pipeline, new⟩ := by
  have kafka : deployment.kafka = true →
      process.pipeline.kafka.calls = process.pipeline.system.shared.produced.length := wired.kafka
  have storage : process.pipeline.storage.saved ++ old.unsaved deployment =
      process.pipeline.system.shared.saved.map Message.data := wired.storage
  cases moved with
  | callStop stepped =>
      simp only [System.step, Option.ite_none_right_eq_some, Option.some.injEq] at stepped
      obtain ⟨-, rfl⟩ := stepped
      exact ⟨kafka, storage⟩
  | join _ stepped =>
      simp only [System.step, Option.ite_none_right_eq_some, Option.some.injEq] at stepped
      obtain ⟨-, rfl⟩ := stepped
      exact ⟨kafka, storage⟩
  | drainEnds _ empty stepped =>
      obtain rfl := drain_ends empty stepped
      exact ⟨kafka, storage⟩
  | drainStops _ front stopped stepped =>
      obtain ⟨shared, queue, -, rfl, turned⟩ := drain_turns front stepped
      obtain ⟨produced, saved⟩ := drainMove_stops stopped turned
      exact ⟨fun enabled => by simp [produced, kafka enabled], by simpa [saved] using storage⟩
  | @drainPasses system message evt _ next _ front passed stepped called =>
      obtain ⟨shared, queue, -, rfl, turned⟩ := drain_turns front stepped
      obtain ⟨produced, saved⟩ := drainMove_passes passed turned
      refine ⟨?_, ?_⟩
      · intro enabled
        have one := callKafka_allowed enabled called
        simp [one, produced, kafka enabled]
      · simp only [MainPc.unsaved, List.append_nil] at storage ⊢
        rw [storage, saved, List.map_append]
        cases enabled : deployment.storage <;> simp [Deployment.config, enabled]
  | save _ called =>
      refine ⟨kafka, ?_⟩
      have grown := callStorage_produced called
      simp only [MainPc.unsaved, List.append_nil] at storage ⊢
      rw [grown, storage]
  | flushStorage _ _ stepped =>
      exact wired_flush wired rfl rfl (by simp) stepped
  | noStorage _ _ => exact ⟨kafka, storage⟩
  | callFlush _ _ => exact ⟨kafka, storage⟩
  | noKafka _ _ => exact ⟨kafka, storage⟩
  | flushReturns => exact ⟨fun enabled => (flushKafka_calls _ _).trans (kafka enabled), storage⟩
  | leave _ => exact ⟨kafka, storage⟩
  | destroy _ stepped => exact wired_flush wired rfl rfl (by simp) stepped
  | joinFlusher stepped => exact wired_flush wired rfl rfl (by simp) stepped
  | lastFlush stepped => exact wired_flush wired rfl rfl (by simp) stepped
  | finish stepped => exact wired_flush wired rfl rfl (by simp) stepped

variable {redis : CounterStore Bytes} {sessions workers : Nat} {process : Process capacity}

theorem process_wired (reachable : (processMachine parse deployment redis
    capacity sessions workers).Reachable process) : Wired deployment process := by
  refine Machine.reachable_invariant (Wired deployment) ⟨fun _ => rfl, rfl⟩ ?_ reachable
  intro before label after wired stepped
  cases processStep_move stepped with
  | thread allowed moved => exact wired_thread wired allowed moved
  | main moved => exact wired_main wired moved

theorem process_batched (reachable : (processMachine parse deployment redis
    capacity sessions workers).Reachable process) : Batched process.pipeline.storage :=
  processStorage.invariant (fun _ => storageMachine_batched) reachable

theorem process_custody (reachable : (processMachine parse deployment redis
      capacity sessions workers).Reachable process) :
    Custody (deployment.config parse) process.pipeline.system :=
  processSystem.invariant (fun _ => systemMachine_custody) reachable

theorem process_conservation (reachable : (processMachine parse deployment redis
    capacity sessions workers).Reachable process) : Conservation process.pipeline.system :=
  processSystem.invariant (fun _ => systemMachine_conservation) reachable

/-! The records that no counter tells of. -/

def Process.loses (process : Process capacity) : ProcessLabel → Nat
  | .thread _ (.storage thread outcome) =>
      process.pipeline.storage.loses (.advance thread outcome)
  | _ => 0

def Process.decides (process : Process capacity) : ProcessLabel → List (Fate × Bytes)
  | .thread _ (.storage thread outcome) =>
      process.pipeline.storage.decides (.advance thread outcome)
  | _ => []

/-- A call of the main thread or of a worker decides nothing itself. -/
theorem fated_quiet {labels : List StorageLabel} {callers : Nat}
    {storage next : StorageSystem} {decided : List (Fate × Bytes)}
    (fated : Fated storage decided)
    (calling : ∀ label ∈ labels, ∀ thread outcome, label ≠ .advance thread outcome)
    (ran : (storageMachine callers).run storage labels = some next) : Fated next decided := by
  induction labels generalizing storage with
  | nil => exact Option.some.inj ran ▸ fated
  | cons label rest ih =>
      obtain ⟨middle, stepped, tail⟩ := Machine.run_cons_some.mp ran
      have nothing : storage.decides label = [] := by
        cases label with
        | advance thread outcome => exact absurd rfl (calling _ (by simp) thread outcome)
        | _ => rfl
      have after := fated_step fated stepped
      rw [nothing, List.append_nil] at after
      exact ih after (fun other member => calling other (List.mem_cons_of_mem _ member)) tail

theorem storageCalls_calls (index : Nat) (pc : WorkerPc) :
    ∀ label ∈ storageCalls deployment index pc, ∀ thread outcome,
      label ≠ .advance thread outcome := by
  intro label member thread outcome
  cases pc with
  | produced message evt =>
      simp only [storageCalls] at member
      split at member
      · simp [List.mem_singleton.mp member]
      · simp at member
  | _ => simp [storageCalls] at member

theorem mainStorage_calls (slot : Nat) (main : MainPc) :
    ∀ label ∈ mainStorage deployment slot main, ∀ thread outcome,
      label ≠ .advance thread outcome := by
  intro label member thread outcome
  cases main with
  | saving message evt => 
      exact storageCalls_calls slot (.produced message evt) label member thread outcome
  | drained =>
      simp only [mainStorage] at member
      split at member
      · simp [List.mem_singleton.mp member]
      · simp at member
  | stopped =>
      simp only [mainStorage] at member
      split at member
      · simp [List.mem_singleton.mp member]
      · simp at member
  | joiningFlusher => simp [List.mem_singleton.mp member]
  | flusherJoined => simp [List.mem_singleton.mp member]
  | lastFlush => simp [List.mem_singleton.mp member]
  | _ => simp [mainStorage] at member

theorem fated_processStep {before after : Process capacity} {label : ProcessLabel}
    {decided : List (Fate × Bytes)} (fated : Fated before.pipeline.storage decided)
    (stepped : before.step parse deployment label = some after) :
    Fated after.pipeline.storage (decided ++ before.decides label) := by
  have quiet (nothing : before.decides label = []) (kept : Fated after.pipeline.storage decided) :
      Fated after.pipeline.storage (decided ++ before.decides label) := by
    rwa [nothing, List.append_nil]
  cases processStep_move stepped with
  | main moved =>
      exact quiet rfl (fated_quiet fated (mainStorage_calls _ _) (mainMove_storage 0 moved))
  | thread _ moved =>
      cases moved with
      | offer _ => exact quiet rfl fated
      | drop _ => exact quiet rfl fated
      | kafka _ _ => exact quiet rfl fated
      | storage advanced => exact fated_step fated advanced
      | worker _ _ _ saved =>
          rw [callStorage_eq _ 0] at saved
          exact quiet rfl (fated_quiet fated (storageCalls_calls _ _) saved)

theorem process_fated {labels : List ProcessLabel}
    (reached : (processMachine parse deployment redis capacity sessions workers).run
      (processMachine parse deployment redis capacity sessions workers).initial labels =
        some process) :
    Fated process.pipeline.storage
      ((processMachine parse deployment redis capacity sessions workers).log Process.decides
        (processMachine parse deployment redis capacity sessions workers).initial labels) :=
  Machine.run_log Process.decides (fun process decided => Fated process.pipeline.storage decided)
    (fun _ _ _ _ fated stepped => fated_processStep fated stepped)
    (fated_initial (workers + 1)) reached

theorem process_loses (process : Process capacity) (label : ProcessLabel) :
    process.loses label = Fate.lost.count (process.decides label) := by
  cases label with
  | main input => rfl
  | thread clock label =>
      cases label with
      | storage thread outcome => exact loses_eq _ _
      | _ => rfl

theorem process_lengths {labels : List ProcessLabel}
    (reached : (processMachine parse deployment redis capacity sessions workers).run
      (processMachine parse deployment redis capacity sessions workers).initial labels =
        some process) :
    process.pipeline.storage.saved.length = process.pipeline.storage.buffer.length +
      process.pipeline.storage.metrics.totalStored +
      process.pipeline.storage.metrics.totalStoreDead +
      (processMachine parse deployment redis capacity sessions workers).total Process.loses
        (processMachine parse deployment redis capacity sessions workers).initial labels +
      tally StoragePc.carried process.pipeline.storage.threads := by
  rw [Machine.total_eq_log Process.loses Process.decides Fate.lost.count rfl (count_append .lost)
    process_loses]
  exact fated_lengths (process_fated reached)

/-- What came of the accepted events. `lost` counts the records of the batches for
which `dead_letter.log` did not open. -/
structure Settlement (parse : Bytes → Option Event) (deployment : Deployment)
    (process : Process capacity) (lost : Nat) : Prop where
  bodies : process.pipeline.system.completed =
    process.pipeline.metrics.totalQueueDrop + process.pipeline.system.shared.accepted.length
  once : (messages process.pipeline.system.shared.finished).Perm
    process.pipeline.system.shared.accepted
  justified : ∀ processed ∈ process.pipeline.system.shared.finished,
    processed.Justified (deployment.config parse)
  fates : process.pipeline.system.shared.accepted.length =
    process.pipeline.metrics.totalParseFail + process.pipeline.metrics.totalInvalid +
      process.pipeline.metrics.totalRateLimited +
      (passedOn process.pipeline.system.shared.finished).length
  kafka : deployment.kafka = true →
    (passedOn process.pipeline.system.shared.finished).length =
      process.pipeline.metrics.totalKafkaOk + process.pipeline.metrics.totalKafkaFail +
        rdKafkaOutqLen process.pipeline.kafka
  flushed : deployment.storage = true → process.pipeline.storage.given.flatten.Perm
    ((passedOn process.pipeline.system.shared.finished).map Message.data)
  storage : deployment.storage = true →
    (passedOn process.pipeline.system.shared.finished).length =
      process.pipeline.metrics.totalStored + process.pipeline.metrics.totalStoreDead + lost

/-! What holds from the end of the drain loop on. -/

theorem systemMove_settled {config : Config} {system next : System capacity}
    (settled : system.stop ≠ .notCalled → .dropping ∉ system.sessions)
    (moved : SystemMove config system next) :
    next.stop ≠ .notCalled → .dropping ∉ next.sessions := by
  cases moved with
  | accept notCalled _ _ => exact fun called => absurd notCalled called
  | refuse notCalled _ _ => exact fun called => absurd notCalled called
  | drop _ =>
      intro called member
      rcases List.mem_or_eq_of_mem_set member with earlier | same
      · exact settled called earlier
      · simp at same
  | callStop _ reading => exact fun _ => reading
  | worker _ _ => exact settled
  | join joining _ => exact fun _ => settled (by simp [joining])
  | drain _ _ _ => exact settled
  | finish draining _ => exact fun _ => settled (by simp [draining])

theorem systemMachine_settled {config : Config} {system : System capacity}
    (reachable : (systemMachine config capacity sessions workers).Reachable system) :
    system.stop ≠ .notCalled → .dropping ∉ system.sessions :=
  systemMachine_invariant _ (by simp [systemMachine])
    (fun _ _ settled moved => systemMove_settled settled moved) reachable

structure Finished (config : Config) (system : System capacity) : Prop where
  bodies : system.completed = system.shared.metrics.totalQueueDrop + system.shared.accepted.length
  once : (messages system.shared.finished).Perm system.shared.accepted
  justified : ∀ processed ∈ system.shared.finished, processed.Justified config
  fates : system.shared.accepted.length = system.shared.metrics.totalParseFail +
    system.shared.metrics.totalInvalid + system.shared.metrics.totalRateLimited +
    (passedOn system.shared.finished).length
  produced : (calls system.shared.produced).Perm (passedOn system.shared.finished)
  saved : system.shared.saved = if config.storage then passedOn system.shared.finished else []

/-- No event is queued or in the hands of a worker, and no refusal is still uncounted. -/
structure Unloaded (system : System capacity) : Prop where
  queue : system.shared.queue.items = []
  workers : ∀ pc ∈ system.workers, pc.betweenEvents = true
  sessions : .dropping ∉ system.sessions

theorem finished_of_unloaded {config : Config} {system : System capacity}
    (reachable : (systemMachine config capacity sessions workers).Reachable system)
    (unloaded : Unloaded system) : Finished config system := by
  have custody := systemMachine_custody reachable
  have balance := systemMachine_conservation reachable
  have fifo := systemMachine_fifo reachable
  rw [unloaded.queue, List.append_nil] at fifo
  have nobody (place : WorkerPc → Bool) (check : indicator place .check = 0)
      (popping : indicator place .popping = 0) (exited : indicator place .exited = 0) :
      system.workers.countP place = 0 :=
    countP_between place check popping exited unloaded.workers
  have reading : system.sessions.countP SessionPc.isDropping = 0 := by
    rw [List.countP_eq_zero]
    intro session member
    cases session with
    | reading => simp
    | dropping => exact absurd member unloaded.sessions
  have held := custody.held
  have produced := custody.produced
  have received := custody.received
  rw [tally_between _ rfl rfl rfl unloaded.workers, add_zero] at held produced received
  have perm := bag_eq_bag.mp produced
  have handed := perm.length_eq
  obtain ⟨bodies, parsing, validating, deciding⟩ := balance
  rw [nobody _ rfl rfl rfl] at bodies parsing validating deciding
  rw [unloaded.queue, reading, List.length_nil] at bodies
  simp only [calls, List.length_map] at handed
  refine ⟨?_, ?_, custody.shared.justified, ?_, perm, custody.shared.saved⟩
  · rw [← fifo]
    omega
  · rw [← fifo]
    exact bag_eq_bag.mp held.symm
  · rw [← fifo]
    omega

/-- Nothing is under way but messages that Kafka still owes a report. -/
structure Resting (deployment : Deployment) (process : Process capacity) : Prop where
  system : Unloaded process.pipeline.system
  main : process.main.unsaved deployment = []
  kafka : ∀ pc ∈ process.pipeline.kafka.workers, pc = .idle
  storage : deployment.storage = true → Flushed process.pipeline.storage

theorem resting_finished (reachable : (processMachine parse deployment redis
      capacity sessions workers).Reachable process) (resting : Resting deployment process) :
    Finished (deployment.config parse) process.pipeline.system :=
  finished_of_unloaded (processSystem.reachable reachable) resting.system

theorem resting_saved (reachable : (processMachine parse deployment redis
      capacity sessions workers).Reachable process) (resting : Resting deployment process)
    (enabled : deployment.storage = true) : process.pipeline.storage.saved =
      (passedOn process.pipeline.system.shared.finished).map Message.data := by
  have saved := (process_wired reachable).storage
  rwa [resting.main, List.append_nil, (resting_finished reachable resting).saved,
    Deployment.config, if_pos enabled] at saved

theorem resting_flushed (reachable : (processMachine parse deployment redis
      capacity sessions workers).Reachable process) (resting : Resting deployment process)
    (enabled : deployment.storage = true) : process.pipeline.storage.given.flatten.Perm
      ((passedOn process.pipeline.system.shared.finished).map Message.data) := by
  rw [← resting_saved reachable resting enabled]
  exact flushed_given (process_batched reachable) (resting.storage enabled)

theorem settlement_of_resting {labels : List ProcessLabel}
    (reached : (processMachine parse deployment redis capacity sessions workers).run
      (processMachine parse deployment redis capacity sessions workers).initial labels =
        some process) (resting : Resting deployment process) :
    Settlement parse deployment process
      ((processMachine parse deployment redis capacity sessions workers).total Process.loses
        (processMachine parse deployment redis capacity sessions workers).initial labels) := by
  have reachable : (processMachine parse deployment redis capacity sessions workers).Reachable
      process := ⟨labels, reached⟩
  have finished := resting_finished reachable resting
  refine ⟨finished.bodies, finished.once, finished.justified, finished.fates, ?_, ?_, ?_⟩
  · intro enabled
    have booked := process_booked reachable
    have balance := (accounted_of_ledgered booked.ledgered booked.alive).balance resting.kafka
    have calls := (process_wired reachable).kafka enabled
    have handed := finished.produced.length_eq
    simp only [EventCollector.calls, List.length_map] at handed
    simp only [Pipeline.metrics, rdKafkaOutqLen]
    omega
  · exact resting_flushed reachable resting
  · intro enabled
    have flushed := resting.storage enabled
    have records := process_lengths reached
    rw [flushed_carried flushed, flushed.buffer, resting_saved reachable resting enabled,
      List.length_map, List.length_nil] at records
    simp only [Pipeline.metrics]
    omega

theorem exited_resting (reachable : (processMachine parse deployment redis
      capacity sessions workers).Reachable process) (exited : process.main = .exited) :
    Resting deployment process := by
  have staged := process_staged reachable
  have system := processSystem.reachable reachable
  have custody := systemMachine_custody system
  have returned : process.pipeline.system.stop = .returned := by
    rw [staged.stop, exited]
    rfl
  have past : process.main.pastDrain = true := by
    rw [exited]
    rfl
  constructor
  · refine ⟨custody.drained returned, fun pc member => ?_, ?_⟩
    · rw [custody.joined (Or.inr returned) pc member]
      rfl
    · exact systemMachine_settled system (by simp [returned])
  · rw [exited]
    rfl
  · exact process_kafkaIdle reachable past
  · intro enabled
    refine returned_flushed (process_batched reachable) ?_
    rw [staged.destruction, exited, MainPc.destruction, if_pos enabled]

theorem exited_finished (reachable : (processMachine parse deployment redis
      capacity sessions workers).Reachable process) (exited : process.main = .exited) :
    Finished (deployment.config parse) process.pipeline.system :=
  resting_finished reachable (exited_resting reachable exited)

/-- When the io threads have ended and `main` returns, every body that a session completed
was dropped and counted, or accepted and finished once; the events passed on are what
Kafka's counters and the messages it still owes add up to, and what ClickHouse, the dead
letters and the failed openings of the log add up to. -/
theorem process_settles (parse : Bytes → Option Event) (deployment : Deployment)
    (redis : CounterStore Bytes) (sessions workers : Nat) {labels : List ProcessLabel}
    {process : Process capacity}
    (reached : (processMachine parse deployment redis capacity sessions workers).run
      (processMachine parse deployment redis capacity sessions workers).initial labels =
        some process) (exited : process.main = .exited) :
    Settlement parse deployment process
      ((processMachine parse deployment redis capacity sessions workers).total Process.loses
        (processMachine parse deployment redis capacity sessions workers).initial labels) := by
  have reachable : (processMachine parse deployment redis capacity sessions workers).Reachable
      process := ⟨labels, reached⟩
  exact settlement_of_resting reached (exited_resting reachable exited)

end

def abandonedDeployment : Deployment := ⟨none, true, true⟩

/-- The worker passes one event on and the drain loop another. Kafka takes the first and
refuses the second twice; all three `Insert`s throw, and `dead_letter.log` does not open. -/
def abandonedRun : List ProcessLabel :=
  let worker : ProcessLabel := .thread 1 (.worker 0 .fails)
  let main : ProcessLabel := .main ⟨1, [0]⟩
  let insertFails : List ProcessLabel :=
    [.thread 1 (.storage 2 true), .thread 1 (.storage 2 false)]
  [.thread 1 (.offer 0 (encodeEvent (eventOf [7]))), worker, worker,
    .thread 1 (.offer 0 (encodeEvent (eventOf [8]))), worker, worker, main, worker, worker, worker,
    .thread 1 (.kafka (.produce 0 true)), worker, worker, main, main,
    .thread 1 (.kafka (.produce 1 false)), .thread 1 (.kafka (.pollReturns 1)),
    .thread 1 (.kafka (.produce 1 false)), .thread 1 (.kafka (.countFail 1)), main, main, main,
    .thread 1 (.storage 2 true)] ++ insertFails ++ insertFails ++ insertFails ++
    [.thread 1 (.storage 2 false), main, main, main, .thread 1 (.storage 0 true), main, main, main]

theorem abandonedRun_ends :
    ((processMachine sampleParse abandonedDeployment (fun _ => none) 1 1 1).run
      (processMachine sampleParse abandonedDeployment (fun _ => none) 1 1 1).initial
      abandonedRun).map (fun process : Process 1 => (process.main,
        rdKafkaOutqLen process.pipeline.kafka,
        (passedOn process.pipeline.system.shared.finished).map Message.data)) =
      some (.exited, 1, [encodeEvent (eventOf [7]), encodeEvent (eventOf [8])]) := by decide

theorem process_settles_abandoned : ∃ process : Process 1,
    (processMachine sampleParse abandonedDeployment (fun _ => none) 1 1 1).run
      (processMachine sampleParse abandonedDeployment (fun _ => none) 1 1 1).initial
      abandonedRun = some process ∧
    (passedOn process.pipeline.system.shared.finished).length =
      process.pipeline.metrics.totalKafkaOk + process.pipeline.metrics.totalKafkaFail + 1 ∧
    (passedOn process.pipeline.system.shared.finished).length =
      process.pipeline.metrics.totalStored + process.pipeline.metrics.totalStoreDead + 2 := by
  obtain ⟨process, reached, summary⟩ := Option.map_eq_some_iff.mp abandonedRun_ends
  simp only [Prod.mk.injEq] at summary
  obtain ⟨exited, outstanding, -⟩ := summary
  have lost : (processMachine sampleParse abandonedDeployment (fun _ => none) 1 1 1).total
      Process.loses (processMachine sampleParse abandonedDeployment (fun _ => none) 1 1 1).initial
      abandonedRun = 2 := by decide
  have settled := process_settles sampleParse abandonedDeployment (fun _ => none) 1 1 reached exited
  have kafka := settled.kafka rfl
  have storage := settled.storage rfl
  rw [outstanding] at kafka
  rw [lost] at storage
  exact ⟨process, reached, kafka, storage⟩

/-! The rows of every block that is ever built. -/

/-- The table that the block of a batch stands for. -/
def blockRows (parse : Bytes → Option Event) (batch : List Bytes) : List Row :=
  (List.range batch.length).filterMap (fillColumns parse batch).row?

theorem filterMap_getElem? {Item : Type} (items : List Item) :
    (List.range items.length).filterMap (items[·]?) = items := by
  induction items with
  | nil => rfl
  | cons item rest ih =>
      simp only [List.length_cons, List.range_succ_eq_map, List.filterMap_cons,
        List.getElem?_cons_zero, List.filterMap_map]
      exact congrArg (item :: ·) ih

theorem blockRows_eq (parse : Bytes → Option Event) (batch : List Bytes) :
    blockRows parse batch = batch.map (rowOf parse) := by
  have rows := filterMap_getElem? (batch.map (rowOf parse))
  rw [List.length_map] at rows
  simp only [blockRows, fillColumns_eq, ofRows_row?]
  exact rows

section

variable {parse : Bytes → Option Event} {deployment : Deployment} {redis : CounterStore Bytes}
  {sessions workers : Nat} {process : Process capacity}

theorem passedOn_checked {config : Config} {finished : List Processed}
    (justified : ∀ processed ∈ finished, processed.Justified config) {message : Message}
    (member : message ∈ passedOn finished) : Checked config.parse message.data := by
  simp only [passedOn, messages, List.mem_map, List.mem_filter, decide_eq_true_eq] at member
  obtain ⟨processed, ⟨done, outcome⟩, rfl⟩ := member
  have reason := justified processed done
  simp only [Processed.Justified, outcome] at reason
  exact reason

theorem checked_events {records : List Bytes} (checked : ∀ d ∈ records, Checked parse d) :
    ∃ events : List Event, records.map parse = events.map some ∧
      records.map (rowOf parse) = events.map Event.row ∧
      ∀ evt ∈ events, (evt.row.ts.toNat : Int) = evt.ts.toInt := by
  induction records with
  | nil => exact ⟨[], rfl, rfl, by simp⟩
  | cons d rest ih =>
      obtain ⟨events, parsed, rows, stamped⟩ :=
        ih fun other member => checked other (List.mem_cons_of_mem _ member)
      obtain ⟨evt, found, row, stamp, -⟩ := checked_row (checked d (by simp))
      refine ⟨evt :: events, ?_, ?_, ?_⟩
      · rw [List.map_cons, List.map_cons, found, parsed]
      · rw [List.map_cons, List.map_cons, row, rows]
      · intro other member
        rcases List.mem_cons.mp member with rfl | later
        · exact stamp
        · exact stamped other later

/-- Once the io threads have ended and `main` has returned, the rows that `do_flush` has put
into its blocks in the whole life of the process are those of the events that were passed
on, by workers and by the drain loop, each once. -/
theorem process_rows (parse : Bytes → Option Event) (deployment : Deployment)
    (redis : CounterStore Bytes) (sessions workers : Nat) {process : Process capacity}
    (reachable : (processMachine parse deployment redis capacity sessions workers).Reachable
      process) (exited : process.main = .exited) (enabled : deployment.storage = true) :
    ∃ events : List Event,
      (passedOn process.pipeline.system.shared.finished).map (fun message => parse message.data) =
        events.map some ∧
      (process.pipeline.storage.given.flatMap (blockRows parse)).Perm (events.map Event.row) ∧
      ∀ evt ∈ events, (evt.row.ts.toNat : Int) = evt.ts.toInt := by
  have justified := (exited_finished reachable exited).justified
  have checked : ∀ d ∈ (passedOn process.pipeline.system.shared.finished).map Message.data,
      Checked parse d := by
    intro d member
    obtain ⟨message, passed, rfl⟩ := List.mem_map.mp member
    exact passedOn_checked justified passed
  obtain ⟨events, parsed, rows, stamped⟩ := checked_events checked
  refine ⟨events, by rwa [List.map_map] at parsed, ?_, stamped⟩
  have built : process.pipeline.storage.given.flatMap (blockRows parse) =
      process.pipeline.storage.given.flatten.map (rowOf parse) := by
    rw [List.map_flatten, List.flatMap_def]
    exact congrArg List.flatten (List.map_congr_left fun batch _ => blockRows_eq parse batch)
  rw [built, ← rows]
  exact (resting_flushed reachable (exited_resting reachable exited) enabled).map (rowOf parse)

end

theorem process_rows_abandoned : ∃ process : Process 1,
    (processMachine sampleParse abandonedDeployment (fun _ => none) 1 1 1).run
      (processMachine sampleParse abandonedDeployment (fun _ => none) 1 1 1).initial
      abandonedRun = some process ∧
    (process.pipeline.storage.given.flatMap (blockRows sampleParse)).Perm
      [(eventOf [7]).row, (eventOf [8]).row] := by
  obtain ⟨process, reached, summary⟩ := Option.map_eq_some_iff.mp abandonedRun_ends
  simp only [Prod.mk.injEq] at summary
  obtain ⟨exited, -, passed⟩ := summary
  obtain ⟨events, parsed, rows, -⟩ := process_rows sampleParse abandonedDeployment (fun _ => none)
    1 1 ⟨abandonedRun, reached⟩ exited rfl
  have both : events.map some = [some (eventOf [7]), some (eventOf [8])] := by
    have recovered : [encodeEvent (eventOf [7]), encodeEvent (eventOf [8])].map sampleParse =
        [some (eventOf [7]), some (eventOf [8])] := by decide
    rw [← parsed, ← recovered, ← passed, List.map_map]
    rfl
  have same : events = [eventOf [7], eventOf [8]] :=
    List.map_injective_iff.mpr (Option.some_injective Event) both
  rw [same] at rows
  exact ⟨process, reached, rows⟩

end EventCollector
