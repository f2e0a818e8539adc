import EventCollector.ProcessExit

/-!
What the process can be holding at any moment. A slow back end stops the workers in their
calls, then the queue fills up and bodies are dropped and counted; so whatever is neither
counted as refused nor dealt with by the back ends is bounded by the configuration alone.
-/

namespace EventCollector

open Ledger

variable {capacity : Nat}

/-! No thread flushes more than a batch. -/

theorem flushMove_carried {system : StorageSystem} {old new : StoragePc}
    {given : List (List Bytes)} {metrics : Metrics}
    (moved : FlushMove system old given metrics new) : new.carried ≤ old.carried := by
  cases moved with
  | callEmpty => exact Nat.le_of_eq (resume_carried _)
  | stored => exact Nat.le_of_eq (resume_carried _) |>.trans (Nat.zero_le _)
  | logged => exact Nat.le_of_eq (resume_carried _) |>.trans (Nat.zero_le _)
  | lost => exact Nat.le_of_eq (resume_carried _) |>.trans (Nat.zero_le _)
  | _ => exact Nat.le_refl _

theorem storageMove_sized {system next : StorageSystem} (batched : Batched system)
    (sized : ∀ pc ∈ system.threads, pc.carried ≤ batchSize) (moved : StorageMove system next) :
    ∀ pc ∈ next.threads, pc.carried ≤ batchSize := by
  have small := batched.small
  cases moved with
  | push _ _ _ => exact sized
  | fill _ _ _ =>
      refine forall_set sized ?_
      simp only [StorageSystem.push, StoragePc.carried, List.length_append, List.length_singleton]
      omega
  | skip _ _ _ => exact forall_set sized (Nat.le_of_eq (resume_carried _) |>.trans (Nat.zero_le _))
  | take _ _ _ => exact forall_set sized (Nat.le_of_lt small)
  | flush found moved =>
      have own := sized _ (List.mem_of_getElem? found)
      exact forall_set sized (Nat.le_trans (flushMove_carried moved) own)
  | destroy _ _ => exact sized
  | join _ _ => exact sized
  | finish _ _ => exact sized

theorem storageMachine_sized {callers : Nat} {system : StorageSystem}
    (reachable : (storageMachine callers).Reachable system) :
    ∀ pc ∈ system.threads, pc.carried ≤ batchSize := by
  have holds : (storageMachine callers).Reachable system ∧
      ∀ pc ∈ system.threads, pc.carried ≤ batchSize := by
    refine Machine.reachable_invariant (fun system => (storageMachine callers).Reachable system ∧
      ∀ pc ∈ system.threads, pc.carried ≤ batchSize) ?_ ?_ reachable
    · refine ⟨Machine.Reachable.start _, fun pc member => ?_⟩
      rcases List.mem_cons.mp member with rfl | caller
      · exact Nat.zero_le _
      · rw [List.eq_of_mem_replicate caller]
        exact Nat.zero_le _
    · rintro system label next ⟨reached, sized⟩ stepped
      exact ⟨reached.step stepped,
        storageMove_sized (storageMachine_batched reached) sized (storageStep_move stepped)⟩
  exact holds.2

/-! A worker is in one place at a time. -/

theorem worker_spread (pc : WorkerPc) :
    (if pc.isPopped then 1 else 0) + (if pc.isReceived then 1 else 0) +
      (if pc.isParsed then 1 else 0) + (if pc.isUndecided then 1 else 0) +
      pc.underway.card ≤ 1 := by
  cases pc <;>
    simp [WorkerPc.isPopped, WorkerPc.isReceived, WorkerPc.isParsed, WorkerPc.isUndecided]

theorem workers_spread (workers : List WorkerPc) :
    workers.countP WorkerPc.isPopped + workers.countP WorkerPc.isReceived +
      workers.countP WorkerPc.isParsed + workers.countP WorkerPc.isUndecided +
      tally (fun pc => pc.underway.card) workers ≤ workers.length := by
  induction workers with
  | nil => exact Nat.le_refl 0
  | cons pc rest ih =>
      have own := worker_spread pc
      simp only [tally_cons, List.countP_cons, List.length_cons]
      omega

theorem systemMove_sessions {config : Config} {system next : System capacity}
    (moved : SystemMove config system next) : next.sessions.length = system.sessions.length := by
  cases moved with
  | refuse _ _ _ => exact List.length_set
  | drop _ => exact List.length_set
  | _ => rfl

theorem systemMachine_sessions {config : Config} {sessions workers : Nat} {system : System capacity}
    (reachable : (systemMachine config capacity sessions workers).Reachable system) :
    system.sessions.length = sessions :=
  systemMachine_invariant (fun system => system.sessions.length = sessions)
    List.length_replicate (fun _ _ same moved => (systemMove_sessions moved).trans same) reachable

section

variable {parse : Bytes → Option Event} {deployment : Deployment} {redis : CounterStore Bytes}
  {sessions workers : Nat} {process : Process capacity}

/-- What has been refused or passed on falls short of what the sessions completed by what
is queued or in the hands of a thread. -/
theorem process_decided (reachable : (processMachine parse deployment redis
      capacity sessions workers).Reachable process) :
    let refused := process.pipeline.metrics.totalQueueDrop +
      process.pipeline.metrics.totalParseFail + process.pipeline.metrics.totalInvalid +
      process.pipeline.metrics.totalRateLimited
    let produced := process.pipeline.system.shared.produced.length
    let passed := (passedOn process.pipeline.system.shared.finished).length
    refused + produced ≤ process.pipeline.system.completed ∧ passed ≤ produced ∧
      process.pipeline.system.completed ≤ refused + passed + (capacity + sessions + workers) := by
  obtain ⟨bodies, received, parsed, valid⟩ := process_conservation reachable
  have handed := congrArg Multiset.card (process_custody reachable).produced
  have queued := process.pipeline.system.shared.queue.bounded
  have spread := workers_spread process.pipeline.system.workers
  have manned := (process_manned reachable).slot
  have dropping : process.pipeline.system.sessions.countP SessionPc.isDropping ≤ sessions :=
    Nat.le_trans List.countP_le_length
      (Nat.le_of_eq (systemMachine_sessions (processSystem.reachable reachable)))
  have calls : (bag (EventCollector.calls process.pipeline.system.shared.produced)).card =
      process.pipeline.system.shared.produced.length := List.length_map _
  have passed : (bag (passedOn process.pipeline.system.shared.finished)).card =
      (passedOn process.pipeline.system.shared.finished).length := rfl
  rw [Multiset.card_add, calls, passed, card_tally] at handed
  simp only [Process.slot] at manned
  simp only [Pipeline.metrics]
  omega

/-- A call of `produce_to_kafka` is counted, owed a report, or one of a thread's. -/
theorem process_produced (reachable : (processMachine parse deployment redis
      capacity sessions workers).Reachable process) (enabled : deployment.kafka = true) :
    process.pipeline.metrics.totalKafkaOk + process.pipeline.metrics.totalKafkaFail +
        rdKafkaOutqLen process.pipeline.kafka ≤ process.pipeline.system.shared.produced.length ∧
    process.pipeline.system.shared.produced.length ≤
      process.pipeline.metrics.totalKafkaOk + process.pipeline.metrics.totalKafkaFail +
        rdKafkaOutqLen process.pipeline.kafka + (workers + 1) := by
  obtain ⟨calls, counted⟩ := (process_booked reachable).ledgered
  have wired := (process_wired reachable).kafka enabled
  have each : ∀ pc ∈ process.pipeline.kafka.workers, pc.holding.card ≤ 1 := by
    intro pc _
    cases pc <;> simp [ProducePc.holding]
  have held := tally_le each
  rw [(process_manned reachable).kafka, Nat.one_mul] at held
  have sizes := congrArg Multiset.card calls
  have range : (bag (List.range process.pipeline.kafka.calls)).card =
      process.pipeline.kafka.calls := List.length_range
  have enqueued : (bag process.pipeline.kafka.enqueued).card =
      process.pipeline.kafka.enqueued.length := rfl
  have failed : (bag process.pipeline.kafka.failed).card =
      process.pipeline.kafka.failed.length := rfl
  rw [Multiset.card_add, Multiset.card_add, range, enqueued, failed, card_tally] at sizes
  simp only [Pipeline.metrics, rdKafkaOutqLen]
  omega

/-- An event that is passed on is counted by the storage, lost, buffered, in a batch that
some thread is flushing, or on the main thread's way to `save`. -/
theorem process_stored {labels : List ProcessLabel}
    (reached : (processMachine parse deployment redis capacity sessions workers).run
      (processMachine parse deployment redis capacity sessions workers).initial labels =
        some process) (enabled : deployment.storage = true) :
    let lost := (processMachine parse deployment redis capacity sessions workers).total
      Process.loses (processMachine parse deployment redis capacity sessions workers).initial labels
    process.pipeline.metrics.totalStored + process.pipeline.metrics.totalStoreDead + lost ≤
      (passedOn process.pipeline.system.shared.finished).length ∧
    (passedOn process.pipeline.system.shared.finished).length ≤
      process.pipeline.metrics.totalStored + process.pipeline.metrics.totalStoreDead + lost +
        (batchSize + batchSize * (workers + 2)) := by
  intro lost
  have reachable : (processMachine parse deployment redis capacity sessions workers).Reachable
      process := ⟨labels, reached⟩
  have records : _ = _ + lost + _ := process_lengths reached
  have small := (process_batched reachable).small
  have sized := tally_le (storageMachine_sized (processStorage.reachable reachable))
  have wired := congrArg List.length (process_wired reachable).storage
  have saved := (process_custody reachable).shared.saved
  have unsaved : (process.main.unsaved deployment).length ≤ 1 := by
    unfold MainPc.unsaved
    split
    · split <;> simp
    · exact Nat.zero_le _
  rw [Deployment.config, if_pos enabled] at saved
  rw [saved, List.length_append, List.length_map] at wired
  have threads : process.pipeline.storage.threads.length = workers + 2 :=
    (process_manned reachable).storage
  simp only [processStorage, threads] at sized
  simp only [Pipeline.metrics]
  omega

/-- What is neither refused and counted nor in the books of the storage. -/
theorem process_recorded {labels : List ProcessLabel}
    (reached : (processMachine parse deployment redis capacity sessions workers).run
      (processMachine parse deployment redis capacity sessions workers).initial labels =
        some process) (enabled : deployment.storage = true) :
    let refused := process.pipeline.metrics.totalQueueDrop +
      process.pipeline.metrics.totalParseFail + process.pipeline.metrics.totalInvalid +
      process.pipeline.metrics.totalRateLimited
    let recorded := process.pipeline.metrics.totalStored +
      process.pipeline.metrics.totalStoreDead +
      (processMachine parse deployment redis capacity sessions workers).total Process.loses
        (processMachine parse deployment redis capacity sessions workers).initial labels
    refused + recorded ≤ process.pipeline.system.completed ∧
      process.pipeline.system.completed ≤
        refused + recorded + (capacity + sessions + workers + 1000 * (workers + 3)) := by
  intro refused recorded
  have reachable : (processMachine parse deployment redis capacity sessions workers).Reachable
      process := ⟨labels, reached⟩
  obtain ⟨least, inside, most⟩ := process_decided reachable
  obtain ⟨counted, behind⟩ := process_stored reached enabled
  refine ⟨?_, ?_⟩
  · exact Nat.le_trans (Nat.add_le_add_left (Nat.le_trans counted inside) refused) least
  · simp only [batchSize] at behind
    omega

/-- At every moment of every run what the sessions have completed is what has been refused
and counted and what the back ends have dealt with, but for a backlog that the capacity of
the queue, the number of threads and the size of a batch bound. -/
theorem process_backlog (parse : Bytes → Option Event) (deployment : Deployment)
    (redis : CounterStore Bytes) (sessions workers : Nat) {labels : List ProcessLabel}
    {process : Process capacity}
    (reached : (processMachine parse deployment redis capacity sessions workers).run
      (processMachine parse deployment redis capacity sessions workers).initial labels =
        some process) :
    let refused := process.pipeline.metrics.totalQueueDrop +
      process.pipeline.metrics.totalParseFail + process.pipeline.metrics.totalInvalid +
      process.pipeline.metrics.totalRateLimited
    let reported := process.pipeline.metrics.totalKafkaOk +
      process.pipeline.metrics.totalKafkaFail + rdKafkaOutqLen process.pipeline.kafka
    let recorded := process.pipeline.metrics.totalStored +
      process.pipeline.metrics.totalStoreDead +
      (processMachine parse deployment redis capacity sessions workers).total Process.loses
        (processMachine parse deployment redis capacity sessions workers).initial labels
    (deployment.kafka = true → refused + reported ≤ process.pipeline.system.completed ∧
      process.pipeline.system.completed ≤
        refused + reported + (capacity + sessions + workers + (workers + 1))) ∧
    (deployment.storage = true → refused + recorded ≤ process.pipeline.system.completed ∧
      process.pipeline.system.completed ≤
        refused + recorded + (capacity + sessions + workers + 1000 * (workers + 3))) := by
  intro refused reported recorded
  have reachable : (processMachine parse deployment redis capacity sessions workers).Reachable
      process := ⟨labels, reached⟩
  obtain ⟨least, inside, most⟩ := process_decided reachable
  constructor
  · intro enabled
    obtain ⟨counted, behind⟩ := process_produced reachable enabled
    refine ⟨?_, ?_⟩
    · exact Nat.le_trans (Nat.add_le_add_left counted refused) least
    · omega
  · exact process_recorded reached

end

/-- The first event is with Kafka and in the buffer, the second one still queued. -/
theorem process_backlog_queued : ∃ process : Process 1,
    (processMachine sampleParse abandonedDeployment (fun _ => none) 1 1 1).run
      (processMachine sampleParse abandonedDeployment (fun _ => none) 1 1 1).initial
      (abandonedRun.take 12) = some process ∧
    process.pipeline.system.completed = 2 ∧
    process.pipeline.metrics.totalKafkaOk + process.pipeline.metrics.totalKafkaFail +
      rdKafkaOutqLen process.pipeline.kafka ≤ 2 ∧
    2 ≤ process.pipeline.metrics.totalQueueDrop + process.pipeline.metrics.totalParseFail +
      process.pipeline.metrics.totalInvalid + process.pipeline.metrics.totalRateLimited +
      (process.pipeline.metrics.totalKafkaOk + process.pipeline.metrics.totalKafkaFail +
        rdKafkaOutqLen process.pipeline.kafka) + 5 := by
  have runs : ((processMachine sampleParse abandonedDeployment (fun _ => none) 1 1 1).run
      (processMachine sampleParse abandonedDeployment (fun _ => none) 1 1 1).initial
      (abandonedRun.take 12)).map (fun process : Process 1 => process.pipeline.system.completed) =
        some 2 := by
    decide
  obtain ⟨process, reached, completed⟩ := Option.map_eq_some_iff.mp runs
  obtain ⟨kafka, -⟩ :=
    process_backlog sampleParse abandonedDeployment (fun _ => none) 1 1 reached
  obtain ⟨least, most⟩ := kafka rfl
  rw [completed] at least most
  exact ⟨process, reached, completed, by omega, by omega⟩

end EventCollector
