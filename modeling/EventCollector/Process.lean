import EventCollector.PipelineAccounting
import EventCollector.ProcessCore

/-!
What one step of the process can do, and that its parts run as the machines of their
own modules do to the very end.
-/

namespace EventCollector

open ThreadSafeQueue

variable {capacity : Nat}

section

variable {parse : Bytes → Option Event} {deployment : Deployment}

/-- What the main thread does to the pipeline and where it goes from there. -/
inductive MainMove (parse : Bytes → Option Event) (deployment : Deployment) (input : MainInput)
    (process : Process capacity) : MainPc → Pipeline capacity → MainPc → Prop
  | callStop {system : System capacity} :
      process.pipeline.system.step (deployment.config parse) .callStop = some system →
      MainMove parse deployment input process .serving
        { process.pipeline with system := system } .joining
  | join {system : System capacity} :
      (∀ index < process.slot, process.pipeline.returned index = true) →
      process.pipeline.system.step (deployment.config parse) .join = some system →
      MainMove parse deployment input process .joining
        { process.pipeline with system := system } .draining
  | drainEnds {system : System capacity} :
      process.pipeline.returned process.slot = true →
      process.pipeline.system.shared.queue.items = [] →
      process.pipeline.system.step (deployment.config parse) (.drain input.clock) =
        some system →
      MainMove parse deployment input process .draining
        { process.pipeline with system := system } .drained
  | drainStops {system : System capacity} {message : Message}
      {queue : ThreadSafeQueue Message capacity} :
      process.pipeline.returned process.slot = true →
      process.pipeline.system.shared.queue.items = message :: queue.items →
      (parse message.data).filter (validateEvent input.clock) = none →
      process.pipeline.system.step (deployment.config parse) (.drain input.clock) =
        some system →
      MainMove parse deployment input process .draining
        { process.pipeline with system := system } .draining
  | drainPasses {system : System capacity} {message : Message} {evt : Event}
      {queue : ThreadSafeQueue Message capacity} {kafka : KafkaSystem} :
      process.pipeline.returned process.slot = true →
      process.pipeline.system.shared.queue.items = message :: queue.items →
      (parse message.data).filter (validateEvent input.clock) = some evt →
      process.pipeline.system.step (deployment.config parse) (.drain input.clock) =
        some system →
      Pipeline.callKafka deployment process.slot (.allowed message evt)
        process.pipeline.kafka = some kafka →
      MainMove parse deployment input process .draining
        { process.pipeline with system := system, kafka := kafka } (.saving message evt)
  | save {message : Message} {evt : Event} {storage : StorageSystem} :
      process.pipeline.returned process.slot = true →
      Pipeline.callStorage deployment process.slot (.produced message evt)
        process.pipeline.storage = some storage →
      MainMove parse deployment input process (.saving message evt)
        { process.pipeline with storage := storage } .draining
  | flushStorage {storage : StorageSystem} : process.pipeline.returned process.slot = true →
      deployment.storage = true →
      process.pipeline.storage.step (.flushAndStop (Pipeline.storageThread process.slot)) =
        some storage →
      MainMove parse deployment input process .drained
        { process.pipeline with storage := storage } .storageFlush
  | noStorage : process.pipeline.returned process.slot = true → deployment.storage = false →
      MainMove parse deployment input process .drained process.pipeline .storageFlush
  | callFlush : process.pipeline.returned process.slot = true → deployment.kafka = true →
      MainMove parse deployment input process .storageFlush process.pipeline .kafkaFlush
  | noKafka : process.pipeline.returned process.slot = true → deployment.kafka = false →
      MainMove parse deployment input process .storageFlush process.pipeline .stopped
  | flushReturns :
      MainMove parse deployment input process .kafkaFlush
        { process.pipeline with kafka := flushKafka input.queued process.pipeline.kafka } .stopped
  | leave : deployment.storage = false →
      MainMove parse deployment input process .stopped process.pipeline .exited
  | destroy {storage : StorageSystem} : deployment.storage = true →
      process.pipeline.storage.step .destroy = some storage →
      MainMove parse deployment input process .stopped
        { process.pipeline with storage := storage } .joiningFlusher
  | joinFlusher {storage : StorageSystem} : process.pipeline.storage.step .join = some storage →
      MainMove parse deployment input process .joiningFlusher
        { process.pipeline with storage := storage } .flusherJoined
  | lastFlush {storage : StorageSystem} :
      process.pipeline.storage.step (.lastFlush (Pipeline.storageThread process.slot)) =
        some storage →
      MainMove parse deployment input process .flusherJoined
        { process.pipeline with storage := storage } .lastFlush
  | finish {storage : StorageSystem} : process.pipeline.storage.step .finish = some storage →
      MainMove parse deployment input process .lastFlush
        { process.pipeline with storage := storage } .exited

inductive ProcessMove (parse : Bytes → Option Event) (deployment : Deployment)
    (process : Process capacity) : ProcessLabel → Process capacity → Prop
  | thread {clock : Int} {label : PipelineLabel} {pipeline : Pipeline capacity} :
      Process.allows deployment process.main label = true →
      PipelineMove parse deployment clock process.pipeline label pipeline →
      ProcessMove parse deployment process (.thread clock label) ⟨pipeline, process.main⟩
  | main {input : MainInput} {pipeline : Pipeline capacity} {pc : MainPc} :
      MainMove parse deployment input process process.main pipeline pc →
      ProcessMove parse deployment process (.main input) ⟨pipeline, pc⟩

theorem drainTurn_move {input : MainInput} {process next : Process capacity}
    {system : System capacity} (returned : process.pipeline.returned process.slot = true)
    (drained : process.pipeline.system.step (deployment.config parse) (.drain input.clock) =
      some system)
    (turned : process.drainTurn parse deployment input.clock system = some next) :
    MainMove parse deployment input process .draining next.pipeline next.main := by
  simp only [Process.drainTurn] at turned
  split at turned
  · rename_i popped
    simp only [Option.some.injEq] at turned
    subst next
    exact .drainEnds returned (tryPop_none.mp popped) drained
  · rename_i message queue popped
    split at turned
    · rename_i stopped
      simp only [Option.some.injEq] at turned
      subst next
      exact .drainStops returned (tryPop_some.mp popped) stopped drained
    · rename_i evt passed
      obtain ⟨kafka, called, rfl⟩ := Option.map_eq_some_iff.mp turned
      exact .drainPasses returned (tryPop_some.mp popped) passed drained called

theorem mainStep_move {input : MainInput} {process next : Process capacity}
    (stepped : process.mainStep parse deployment input = some next) :
    MainMove parse deployment input process process.main next.pipeline next.main := by
  cases at_ : process.main with
  | serving =>
      simp only [Process.mainStep, at_, Option.map_eq_some_iff] at stepped
      obtain ⟨system, called, rfl⟩ := stepped
      exact .callStop called
  | joining =>
      simp only [Process.mainStep, at_, Option.ite_none_right_eq_some,
        Option.map_eq_some_iff] at stepped
      obtain ⟨returned, system, joined, rfl⟩ := stepped
      exact .join (by simpa using returned) joined
  | draining =>
      simp only [Process.mainStep, at_, Option.ite_none_right_eq_some,
        Option.bind_eq_some_iff] at stepped
      obtain ⟨returned, system, drained, turned⟩ := stepped
      exact drainTurn_move returned drained turned
  | saving message evt =>
      simp only [Process.mainStep, at_, Option.ite_none_right_eq_some,
        Option.map_eq_some_iff] at stepped
      obtain ⟨returned, storage, saved, rfl⟩ := stepped
      exact .save returned saved
  | drained =>
      simp only [Process.mainStep, at_, Option.ite_none_right_eq_some] at stepped
      obtain ⟨returned, stepped⟩ := stepped
      split at stepped
      · rename_i enabled
        obtain ⟨storage, flushed, rfl⟩ := Option.map_eq_some_iff.mp stepped
        exact .flushStorage returned enabled flushed
      · rename_i disabled
        simp only [Option.some.injEq] at stepped
        subst next
        exact .noStorage returned (by simpa using disabled)
  | storageFlush =>
      simp only [Process.mainStep, at_, Option.ite_none_right_eq_some, Option.some.injEq] at stepped
      obtain ⟨returned, rfl⟩ := stepped
      cases enabled : deployment.kafka with
      | true => exact .callFlush returned enabled
      | false => exact .noKafka returned enabled
  | kafkaFlush =>
      simp only [Process.mainStep, at_, Option.some.injEq] at stepped
      subst next
      exact .flushReturns
  | stopped =>
      simp only [Process.mainStep, at_] at stepped
      split at stepped
      · rename_i enabled
        obtain ⟨storage, destroyed, rfl⟩ := Option.map_eq_some_iff.mp stepped
        exact .destroy enabled destroyed
      · rename_i disabled
        simp only [Option.some.injEq] at stepped
        subst next
        exact .leave (by simpa using disabled)
  | joiningFlusher =>
      simp only [Process.mainStep, at_] at stepped
      obtain ⟨storage, joined, rfl⟩ := Option.map_eq_some_iff.mp stepped
      exact .joinFlusher joined
  | flusherJoined =>
      simp only [Process.mainStep, at_] at stepped
      obtain ⟨storage, flushed, rfl⟩ := Option.map_eq_some_iff.mp stepped
      exact .lastFlush flushed
  | lastFlush =>
      simp only [Process.mainStep, at_] at stepped
      obtain ⟨storage, finished, rfl⟩ := Option.map_eq_some_iff.mp stepped
      exact .finish finished
  | exited => simp [Process.mainStep, at_] at stepped

theorem processStep_move {process next : Process capacity} {label : ProcessLabel}
    (stepped : process.step parse deployment label = some next) :
    ProcessMove parse deployment process label next := by
  cases label with
  | thread clock label =>
      simp only [Process.step, Option.ite_none_right_eq_some, Option.map_eq_some_iff] at stepped
      obtain ⟨allowed, pipeline, moved, rfl⟩ := stepped
      exact .thread allowed (pipelineStep_move moved)
  | main input => exact .main (mainStep_move stepped)

/-! Each part runs as its own machine does. -/

def mainSystem (input : MainInput) : MainPc → List SystemLabel
  | .serving => [.callStop]
  | .joining => [.join]
  | .draining => [.drain input.clock]
  | _ => []

def mainStorage (deployment : Deployment) (slot : Nat) : MainPc → List StorageLabel
  | .saving message evt => storageCalls deployment slot (.produced message evt)
  | .drained =>
      if deployment.storage then [.flushAndStop (Pipeline.storageThread slot)] else []
  | .stopped => if deployment.storage then [.destroy] else []
  | .joiningFlusher => [.join]
  | .flusherJoined => [.lastFlush (Pipeline.storageThread slot)]
  | .lastFlush => [.finish]
  | _ => []

variable {redis : CounterStore Bytes} {sessions workers : Nat}

theorem mainMove_system {input : MainInput} {process : Process capacity}
    {pipeline : Pipeline capacity} {old new : MainPc}
    (moved : MainMove parse deployment input process old pipeline new) :
    (systemMachine (deployment.config parse) capacity sessions workers).run
      process.pipeline.system (mainSystem input old) = some pipeline.system := by
  cases moved with
  | callStop stepped => exact Machine.run_cons_some.mpr ⟨_, stepped, rfl⟩
  | join _ stepped => exact Machine.run_cons_some.mpr ⟨_, stepped, rfl⟩
  | drainEnds _ _ stepped => exact Machine.run_cons_some.mpr ⟨_, stepped, rfl⟩
  | drainStops _ _ _ stepped => exact Machine.run_cons_some.mpr ⟨_, stepped, rfl⟩
  | drainPasses _ _ _ stepped _ => exact Machine.run_cons_some.mpr ⟨_, stepped, rfl⟩
  | _ => rfl

theorem mainMove_storage (workers : Nat) {input : MainInput} {process : Process capacity}
    {pipeline : Pipeline capacity} {old new : MainPc}
    (moved : MainMove parse deployment input process old pipeline new) :
    (storageMachine (workers + 1)).run process.pipeline.storage
      (mainStorage deployment process.slot old) = some pipeline.storage := by
  cases moved with
  | save _ called => exact (callStorage_eq _ (workers + 1) _ _).symm.trans called
  | flushStorage _ enabled stepped =>
      simp only [mainStorage, enabled, if_true]
      exact Machine.run_cons_some.mpr ⟨_, stepped, rfl⟩
  | noStorage _ disabled => simp [mainStorage, disabled, Machine.run]
  | leave disabled => simp [mainStorage, disabled, Machine.run]
  | destroy enabled stepped =>
      simp only [mainStorage, enabled, if_true]
      exact Machine.run_cons_some.mpr ⟨_, stepped, rfl⟩
  | joinFlusher stepped => exact Machine.run_cons_some.mpr ⟨_, stepped, rfl⟩
  | lastFlush stepped => exact Machine.run_cons_some.mpr ⟨_, stepped, rfl⟩
  | finish stepped => exact Machine.run_cons_some.mpr ⟨_, stepped, rfl⟩
  | _ => rfl

theorem processThread_step {process next : Process capacity} {clock : Int}
    {label : PipelineLabel}
    (stepped : process.step parse deployment (.thread clock label) = some next) :
    process.pipeline.step parse deployment clock label = some next.pipeline := by
  simp only [Process.step, Option.ite_none_right_eq_some, Option.map_eq_some_iff] at stepped
  obtain ⟨-, pipeline, moved, rfl⟩ := stepped
  exact moved

/-- The steps of the queue's part that a step of the process makes. -/
def processActions (deployment : Deployment) (process : Process capacity) :
    ProcessLabel → List SystemLabel
  | .thread clock label => systemActions deployment clock process.pipeline label
  | .main input => mainSystem input process.main

def processSystem : Refinement
    (processMachine parse deployment redis capacity sessions workers)
    (systemMachine (deployment.config parse) capacity sessions workers) where
  view process := process.pipeline.system
  actions := processActions deployment
  initial := rfl
  simulates process label next stepped := by
    cases label with
    | thread clock label =>
        exact (pipelineSystem : Refinement (pipelineMachine parse deployment clock redis
          capacity sessions workers) _).simulates _ label _ (processThread_step stepped)
    | main input => exact mainMove_system (mainStep_move stepped)

def processStorage : Refinement
    (processMachine parse deployment redis capacity sessions workers)
    (storageMachine (workers + 1)) where
  view process := process.pipeline.storage
  actions process label :=
    match label with
    | .thread _ label => storageActions deployment process.pipeline label
    | .main _ => mainStorage deployment process.slot process.main
  initial := rfl
  simulates process label next stepped := by
    cases label with
    | thread clock label =>
        exact (pipelineStorage : Refinement (pipelineMachine parse deployment clock redis
          capacity sessions (workers + 1)) _).simulates _ label _ (processThread_step stepped)
    | main input => exact mainMove_storage workers (mainStep_move stepped)

/-! Kafka's books stay in order, whatever `rd_kafka_flush` leaves behind. -/

structure Booked (kafka : KafkaSystem) : Prop where
  ledgered : Ledgered kafka
  alive : kafka.crashed = false

theorem booked_step {kafka next : KafkaSystem} {label : KafkaLabel} (booked : Booked kafka)
    (stepped : kafka.step countingConf label = some next) : Booked next := by
  obtain ⟨ledgered, alive⟩ := repaired_step ⟨booked.ledgered, booked.alive⟩ stepped
  exact ⟨ledgered, alive⟩

theorem booked_call {kafka next : KafkaSystem} {index : Nat} {pc : WorkerPc}
    (booked : Booked kafka)
    (called : Pipeline.callKafka deployment index pc kafka = some next) : Booked next := by
  unfold Pipeline.callKafka at called
  split at called
  · exact booked_step booked called
  · exact Option.some.inj called ▸ booked

/-- A purge moves messages to the reports. -/
theorem purge_outqLen (queued : List Nat) (kafka : KafkaSystem) :
    rdKafkaOutqLen (rdKafkaPurge queued kafka) = rdKafkaOutqLen kafka := by
  have parts := List.length_eq_length_filter_add (l := kafka.inFlight)
    fun message => decide (message.call ∈ queued)
  simp only [rdKafkaOutqLen, rdKafkaPurge, List.length_append, List.length_map, decide_not]
  omega

theorem flushKafka_outqLen (queued : List Nat) (kafka : KafkaSystem) :
    rdKafkaOutqLen (flushKafka queued kafka) = rdKafkaOutqLen kafka := by
  unfold flushKafka
  split
  · rfl
  · exact purge_outqLen queued kafka

theorem booked_flush {kafka : KafkaSystem} (queued : List Nat) (booked : Booked kafka) :
    Booked (flushKafka queued kafka) := by
  have outstanding := purge_outqLen queued kafka
  have counted := booked.ledgered.counted
  unfold flushKafka
  split
  · exact booked
  · refine ⟨⟨booked.ledgered.calls, ?_⟩, booked.alive⟩
    unfold rdKafkaOutqLen at outstanding
    change kafka.enqueued.length + kafka.failed.length =
      kafka.metrics.totalKafkaOk + kafka.metrics.totalKafkaFail +
        (rdKafkaPurge queued kafka).inFlight.length + (rdKafkaPurge queued kafka).reports.length
    omega

theorem pipelineMove_booked {clock : Int} {before after : Pipeline capacity}
    {label : PipelineLabel} (booked : Booked before.kafka)
    (moved : PipelineMove parse deployment clock before label after) : Booked after.kafka := by
  cases moved with
  | offer _ => exact booked
  | drop _ => exact booked
  | worker _ _ called _ => exact booked_call booked called
  | kafka _ stepped => exact booked_step booked stepped
  | storage _ => exact booked

theorem mainMove_booked {input : MainInput} {process : Process capacity}
    {pipeline : Pipeline capacity} {old new : MainPc} (booked : Booked process.pipeline.kafka)
    (moved : MainMove parse deployment input process old pipeline new) :
    Booked pipeline.kafka := by
  cases moved with
  | drainPasses _ _ _ _ called => exact booked_call booked called
  | flushReturns => exact booked_flush _ booked
  | _ => exact booked

variable {process : Process capacity}

theorem process_booked (reachable : (processMachine parse deployment redis
    capacity sessions workers).Reachable process) : Booked process.pipeline.kafka := by
  refine Machine.reachable_invariant
    (fun process : Process capacity => Booked process.pipeline.kafka) ?_ ?_ reachable
  · exact ⟨ledgered_initial countingConf (workers + 1), rfl⟩
  · intro before label after booked stepped
    cases processStep_move stepped with
    | thread _ moved => exact pipelineMove_booked booked moved
    | main moved => exact mainMove_booked booked moved

/-! Where the main thread is tells how far `stop()` and `~Storage` have come. -/

def MainPc.stop : MainPc → StopPc
  | .serving => .notCalled
  | .joining => .joining
  | .draining | .saving _ _ => .draining
  | _ => .returned

def MainPc.destruction (deployment : Deployment) : MainPc → Destruction
  | .joiningFlusher => .joining
  | .flusherJoined => .joined
  | .lastFlush => .flushing
  | .exited => if deployment.storage then .returned else .alive
  | _ => .alive

/-- For what is said of places where the main thread is not. -/
theorem vacuous {statement : Prop} (impossible : false = true) : statement :=
  absurd impossible Bool.false_ne_true

def MainPc.inDestructor : MainPc → Bool
  | .joiningFlusher | .flusherJoined | .lastFlush => true
  | _ => false

structure Staged (deployment : Deployment) (process : Process capacity) : Prop where
  stop : process.pipeline.system.stop = process.main.stop
  destruction : process.pipeline.storage.destruction = process.main.destruction deployment
  owned : process.main.inDestructor = true → deployment.storage = true

theorem offer_stop {system next : System capacity} {session : Nat} {data : Bytes}
    (offered : system.offer session data = some next) : next.stop = system.stop := by
  obtain ⟨-, ⟨_, rfl⟩ | ⟨_, _, rfl⟩⟩ := offer_cases offered
  · rfl
  · rfl

theorem drop_stop {system next : System capacity} {session : Nat}
    (dropped : system.drop session = some next) : next.stop = system.stop := by
  simp only [System.drop, Option.ite_none_right_eq_some, Option.some.injEq] at dropped
  obtain ⟨-, rfl⟩ := dropped
  rfl

theorem takeAll_destruction (system : StorageSystem) (thread : Nat) (role : StorageRole) :
    (system.takeAll thread role).destruction = system.destruction := by
  unfold StorageSystem.takeAll
  split <;> rfl

theorem advance_destruction {system next : StorageSystem} {thread : Nat} {outcome : Bool}
    (stepped : system.step (.advance thread outcome) = some next) :
    next.destruction = system.destruction := by
  obtain ⟨pc, -, advanced⟩ := Option.bind_eq_some_iff.mp stepped
  cases pc with
  | idle => simp [StorageSystem.advance] at advanced
  | exited => simp [StorageSystem.advance] at advanced
  | asleep =>
      simp only [StorageSystem.advance, Option.some.injEq] at advanced
      exact advanced ▸ takeAll_destruction system thread .flusher
  | _ =>
      simp only [StorageSystem.advance, Option.some.injEq] at advanced
      subst next
      rfl

theorem save_destruction {system next : StorageSystem} {thread : Nat} {record : Bytes}
    (stepped : system.step (.save thread record) = some next) :
    next.destruction = system.destruction := by
  simp only [StorageSystem.step, Option.ite_none_right_eq_some] at stepped
  obtain ⟨-, stepped⟩ := stepped
  split at stepped
  · simp only [Option.some.injEq] at stepped
    subst next
    rfl
  · simp only [Option.some.injEq] at stepped
    subst next
    rfl

theorem callStorage_destruction {index : Nat} {pc : WorkerPc} {storage next : StorageSystem}
    (called : Pipeline.callStorage deployment index pc storage = some next) :
    next.destruction = storage.destruction := by
  unfold Pipeline.callStorage at called
  split at called
  · exact save_destruction called
  · exact Option.some.inj called ▸ rfl

theorem pipelineMove_staged {clock : Int} {before after : Pipeline capacity}
    {label : PipelineLabel} (moved : PipelineMove parse deployment clock before label after) :
    after.system.stop = before.system.stop ∧
      after.storage.destruction = before.storage.destruction := by
  cases moved with
  | offer offered => exact ⟨offer_stop offered, rfl⟩
  | drop dropped => exact ⟨drop_stop dropped, rfl⟩
  | worker _ _ _ saved => exact ⟨rfl, callStorage_destruction saved⟩
  | kafka _ _ => exact ⟨rfl, rfl⟩
  | storage stepped => exact ⟨rfl, advance_destruction stepped⟩

/-- What one turn of the drain loop does to the shared state. -/
theorem drain_cases {config : Config} {clock : Int} {system next : System capacity}
    (stepped : system.step config (.drain clock) = some next) :
    system.stop = .draining ∧
    ((system.shared.queue.items = [] ∧ next = { system with stop := .returned }) ∨
      ∃ message shared, ∃ queue : ThreadSafeQueue Message capacity,
        system.shared.queue.items = message :: queue.items ∧
        next = { system with shared := shared } ∧
        DrainMove config clock message { system.shared with
          queue := queue, taken := system.shared.taken ++ [message] } shared) := by
  simp only [System.step, Option.ite_none_right_eq_some] at stepped
  obtain ⟨draining, stepped⟩ := stepped
  refine ⟨draining, ?_⟩
  split at stepped
  · rename_i shared drained
    obtain ⟨message, queue, front, moved⟩ := drainStep_some drained
    exact Or.inr ⟨message, shared, queue, front, (Option.some.inj stepped).symm, moved⟩
  · rename_i ended
    exact Or.inl ⟨drainStep_none ended, (Option.some.inj stepped).symm⟩

theorem drain_ends {config : Config} {clock : Int} {system next : System capacity}
    (empty : system.shared.queue.items = [])
    (stepped : system.step config (.drain clock) = some next) :
    next = { system with stop := .returned } := by
  obtain ⟨-, ⟨-, rfl⟩ | ⟨message, shared, queue, front, -, -⟩⟩ := drain_cases stepped
  · rfl
  · simp [empty] at front

theorem drain_turns {config : Config} {clock : Int} {system next : System capacity}
    {message : Message} {rest : List Message}
    (front : system.shared.queue.items = message :: rest)
    (stepped : system.step config (.drain clock) = some next) :
    ∃ shared, ∃ queue : ThreadSafeQueue Message capacity, queue.items = rest ∧
      next = { system with shared := shared } ∧ DrainMove config clock message { system.shared with
        queue := queue, taken := system.shared.taken ++ [message] } shared := by
  obtain ⟨-, ⟨empty, -⟩ | ⟨other, shared, queue, place, same, moved⟩⟩ := drain_cases stepped
  · simp [front] at empty
  · rw [front, List.cons.injEq] at place
    obtain ⟨rfl, rest⟩ := place
    exact ⟨shared, queue, rest.symm, same, moved⟩

theorem mainMove_staged {input : MainInput} {process : Process capacity}
    {pipeline : Pipeline capacity} {new : MainPc} (staged : Staged deployment process)
    (moved : MainMove parse deployment input process process.main pipeline new) :
    Staged deployment ⟨pipeline, new⟩ := by
  obtain ⟨stop, destruction, owned⟩ := staged
  generalize process.main = old at moved stop destruction owned
  cases moved with
  | callStop stepped =>
      simp only [System.step, Option.ite_none_right_eq_some, Option.some.injEq] at stepped
      obtain ⟨-, rfl⟩ := stepped
      exact ⟨rfl, destruction, vacuous⟩
  | join _ stepped =>
      simp only [System.step, Option.ite_none_right_eq_some, Option.some.injEq] at stepped
      obtain ⟨-, rfl⟩ := stepped
      exact ⟨rfl, destruction, vacuous⟩
  | drainEnds _ empty stepped =>
      obtain rfl := drain_ends empty stepped
      exact ⟨rfl, destruction, vacuous⟩
  | drainStops _ front _ stepped =>
      obtain ⟨shared, queue, -, rfl, -⟩ := drain_turns front stepped
      exact ⟨stop, destruction, vacuous⟩
  | drainPasses _ front _ stepped _ =>
      obtain ⟨shared, queue, -, rfl, -⟩ := drain_turns front stepped
      exact ⟨stop, destruction, vacuous⟩
  | save _ called => exact ⟨stop, (callStorage_destruction called).trans destruction, vacuous⟩
  | flushStorage _ _ stepped =>
      simp only [StorageSystem.step, Option.ite_none_right_eq_some, Option.some.injEq] at stepped
      obtain ⟨-, rfl⟩ := stepped
      exact ⟨stop, (takeAll_destruction _ _ _).trans destruction, vacuous⟩
  | noStorage _ _ => exact ⟨stop, destruction, vacuous⟩
  | callFlush _ _ => exact ⟨stop, destruction, vacuous⟩
  | noKafka _ _ => exact ⟨stop, destruction, vacuous⟩
  | flushReturns => exact ⟨stop, destruction, vacuous⟩
  | leave disabled =>
      exact ⟨stop, by simpa [MainPc.destruction, disabled] using destruction, vacuous⟩
  | destroy enabled stepped =>
      simp only [StorageSystem.step, Option.ite_none_right_eq_some, Option.some.injEq] at stepped
      obtain ⟨-, rfl⟩ := stepped
      exact ⟨stop, rfl, fun _ => enabled⟩
  | joinFlusher stepped =>
      simp only [StorageSystem.step, Option.ite_none_right_eq_some, Option.some.injEq] at stepped
      obtain ⟨-, rfl⟩ := stepped
      exact ⟨stop, rfl, fun _ => owned rfl⟩
  | lastFlush stepped =>
      simp only [StorageSystem.step, Option.ite_none_right_eq_some, Option.some.injEq] at stepped
      obtain ⟨-, rfl⟩ := stepped
      exact ⟨stop, rfl, fun _ => owned rfl⟩
  | finish stepped =>
      simp only [StorageSystem.step, Option.ite_none_right_eq_some, Option.some.injEq] at stepped
      obtain ⟨-, rfl⟩ := stepped
      exact ⟨stop, by simp [MainPc.destruction, owned rfl], vacuous⟩

theorem process_staged (reachable : (processMachine parse deployment redis
    capacity sessions workers).Reachable process) : Staged deployment process := by
  refine Machine.reachable_invariant (Staged deployment)
    ⟨rfl, rfl, by simp [processMachine, MainPc.inDestructor]⟩ ?_ reachable
  intro before label after staged stepped
  cases processStep_move stepped with
  | thread _ moved =>
      obtain ⟨stop, destruction⟩ := pipelineMove_staged moved
      exact ⟨stop.trans staged.stop, destruction.trans staged.destruction, staged.owned⟩
  | main moved => exact mainMove_staged staged moved

/-! Places in the back ends: there is one for each worker and one more, and a place that
is idle stays so until its own thread calls. -/

structure Manned (workers : Nat) (process : Process capacity) : Prop where
  slot : process.slot = workers
  kafka : process.pipeline.kafka.workers.length = workers + 1
  storage : process.pipeline.storage.threads.length = workers + 2

theorem kafkaMove_length {conf : KafkaConf} {system next : KafkaSystem} {label : KafkaLabel}
    (moved : KafkaMove conf system label next) : next.workers.length = system.workers.length := by
  cases moved with
  | outcome _ => rfl
  | serve _ =>
      unfold KafkaSystem.serve
      split
      · split <;> rfl
      · rfl
  | _ => exact List.length_set ..

theorem kafkaMove_idle {conf : KafkaConf} {system next : KafkaSystem} {label : KafkaLabel}
    {worker : Nat} (idle : system.workers[worker]? = some .idle)
    (others : ∀ key data, label ≠ .call worker key data)
    (moved : KafkaMove conf system label next) : next.workers[worker]? = some .idle := by
  have elsewhere {other : Nat} {old new : ProducePc} (found : system.workers[other]? = some old)
      (busy : old ≠ .idle) : (system.workers.set other new)[worker]? = some .idle := by
    rw [List.getElem?_set_ne]
    · exact idle
    · rintro rfl
      exact busy (Option.some.inj (found.symm.trans idle))
  cases moved with
  | @call other key data _ =>
      refine (List.getElem?_set_ne ?_).trans idle
      rintro rfl
      exact others key data rfl
  | enqueue found has => exact elsewhere found (by rcases has with rfl | rfl <;> simp)
  | refuseFirst found => exact elsewhere found (by simp)
  | refuseSecond found => exact elsewhere found (by simp)
  | pollReturns found => exact elsewhere found (by simp)
  | countFail found => exact elsewhere found (by simp)
  | outcome _ => exact idle
  | serve _ =>
      unfold KafkaSystem.serve
      split
      · split <;> exact idle
      · exact idle

theorem storageMove_length {system next : StorageSystem} (moved : StorageMove system next) :
    next.threads.length = system.threads.length := by
  cases moved with
  | push _ _ _ => rfl
  | destroy _ _ => rfl
  | join _ _ => rfl
  | finish _ _ => rfl
  | _ => exact List.length_set ..

theorem takeAll_idle {system : StorageSystem} {thread other : Nat} (role : StorageRole)
    (idle : system.threads[thread]? = some .idle) (different : other ≠ thread) :
    (system.takeAll other role).threads[thread]? = some .idle := by
  unfold StorageSystem.takeAll
  split <;> exact (List.getElem?_set_ne different).trans idle

theorem storageStep_idle {system next : StorageSystem} {label : StorageLabel} {thread : Nat}
    (idle : system.threads[thread]? = some .idle) (noSave : ∀ record, label ≠ .save thread record)
    (noStop : label ≠ .flushAndStop thread) (noLast : label ≠ .lastFlush thread)
    (stepped : system.step label = some next) : next.threads[thread]? = some .idle := by
  cases label with
  | save other record =>
      have different : other ≠ thread := fun same => noSave record (by rw [same])
      simp only [StorageSystem.step, Option.ite_none_right_eq_some] at stepped
      obtain ⟨-, stepped⟩ := stepped
      split at stepped
      · exact Option.some.inj stepped ▸ idle
      · exact Option.some.inj stepped ▸ (List.getElem?_set_ne different).trans idle
  | flushAndStop other =>
      simp only [StorageSystem.step, Option.ite_none_right_eq_some, Option.some.injEq] at stepped
      exact stepped.2 ▸ takeAll_idle .caller idle fun same => noStop (by rw [same])
  | lastFlush other =>
      simp only [StorageSystem.step, Option.ite_none_right_eq_some, Option.some.injEq] at stepped
      exact stepped.2 ▸ takeAll_idle .caller idle fun same => noLast (by rw [same])
  | advance other outcome =>
      obtain ⟨pc, found, advanced⟩ := Option.bind_eq_some_iff.mp stepped
      have different : other ≠ thread := by
        rintro rfl
        rw [idle, Option.some.injEq] at found
        subst found
        simp [StorageSystem.advance] at advanced
      have elsewhere (new : StoragePc) :
          (system.threads.set other new)[thread]? = some .idle :=
        (List.getElem?_set_ne different).trans idle
      cases pc with
      | idle => simp [StorageSystem.advance] at advanced
      | exited => simp [StorageSystem.advance] at advanced
      | asleep => exact Option.some.inj advanced ▸ takeAll_idle .flusher idle different
      | _ => exact Option.some.inj advanced ▸ elsewhere _
  | _ =>
      simp only [StorageSystem.step, Option.ite_none_right_eq_some, Option.some.injEq] at stepped
      exact stepped.2 ▸ idle

theorem callKafka_length {index : Nat} {pc : WorkerPc} {kafka next : KafkaSystem}
    (called : Pipeline.callKafka deployment index pc kafka = some next) :
    next.workers.length = kafka.workers.length := by
  unfold Pipeline.callKafka at called
  split at called
  · exact kafkaMove_length (kafkaStep_move called).2
  · exact Option.some.inj called ▸ rfl

theorem callKafka_idle {index worker : Nat} {pc : WorkerPc} {kafka next : KafkaSystem}
    (idle : kafka.workers[worker]? = some .idle) (different : worker ≠ index)
    (called : Pipeline.callKafka deployment index pc kafka = some next) :
    next.workers[worker]? = some .idle := by
  unfold Pipeline.callKafka at called
  split at called
  · exact kafkaMove_idle idle (by simp [different.symm]) (kafkaStep_move called).2
  · exact Option.some.inj called ▸ idle

theorem callStorage_length {index : Nat} {pc : WorkerPc} {storage next : StorageSystem}
    (called : Pipeline.callStorage deployment index pc storage = some next) :
    next.threads.length = storage.threads.length := by
  unfold Pipeline.callStorage at called
  split at called
  · exact storageMove_length (storageStep_move called)
  · exact Option.some.inj called ▸ rfl

theorem callStorage_idle {index thread : Nat} {pc : WorkerPc} {storage next : StorageSystem}
    (idle : storage.threads[thread]? = some .idle)
    (different : thread ≠ Pipeline.storageThread index)
    (called : Pipeline.callStorage deployment index pc storage = some next) :
    next.threads[thread]? = some .idle := by
  unfold Pipeline.callStorage at called
  split at called
  · exact storageStep_idle idle (by simp [different.symm]) (by simp) (by simp) called
  · exact Option.some.inj called ▸ idle

theorem callStop_workers {config : Config} {system next : System capacity}
    (stepped : system.step config .callStop = some next) : next.workers = system.workers := by
  simp only [System.step, Option.ite_none_right_eq_some, Option.some.injEq] at stepped
  exact stepped.2 ▸ rfl

theorem join_workers {config : Config} {system next : System capacity}
    (stepped : system.step config .join = some next) : next.workers = system.workers := by
  simp only [System.step, Option.ite_none_right_eq_some, Option.some.injEq] at stepped
  exact stepped.2 ▸ rfl

theorem drain_workers {config : Config} {clock : Int} {system next : System capacity}
    (stepped : system.step config (.drain clock) = some next) :
    next.workers = system.workers := by
  obtain ⟨-, ⟨-, rfl⟩ | ⟨message, shared, queue, -, rfl, -⟩⟩ := drain_cases stepped
  · rfl
  · rfl

theorem flushKafka_workers (queued : List Nat) (kafka : KafkaSystem) :
    (flushKafka queued kafka).workers = kafka.workers := by
  unfold flushKafka
  split <;> rfl

theorem pipelineMove_manned {clock : Int} {before after : Pipeline capacity}
    {label : PipelineLabel} (moved : PipelineMove parse deployment clock before label after) :
    after.system.workers.length = before.system.workers.length ∧
    after.kafka.workers.length = before.kafka.workers.length ∧
    after.storage.threads.length = before.storage.threads.length := by
  cases moved with
  | offer offered => exact ⟨congrArg List.length (offer_sameWork offered).workers, rfl, rfl⟩
  | drop dropped => exact ⟨congrArg List.length (drop_sameWork dropped).workers, rfl, rfl⟩
  | worker _ _ called saved =>
      exact ⟨List.length_set .., callKafka_length called, callStorage_length saved⟩
  | kafka _ stepped => exact ⟨rfl, kafkaMove_length (kafkaStep_move stepped).2, rfl⟩
  | storage stepped => exact ⟨rfl, rfl, storageMove_length (storageStep_move stepped)⟩

theorem mainMove_manned {input : MainInput} {process : Process capacity}
    {pipeline : Pipeline capacity} {old new : MainPc}
    (moved : MainMove parse deployment input process old pipeline new) :
    pipeline.system.workers = process.pipeline.system.workers ∧
    pipeline.kafka.workers.length = process.pipeline.kafka.workers.length ∧
    pipeline.storage.threads.length = process.pipeline.storage.threads.length := by
  have kept {label : StorageLabel} {storage : StorageSystem}
      (stepped : process.pipeline.storage.step label = some storage) :
      storage.threads.length = process.pipeline.storage.threads.length :=
    storageMove_length (storageStep_move stepped)
  cases moved with
  | callStop stepped => exact ⟨callStop_workers stepped, rfl, rfl⟩
  | join _ stepped => exact ⟨join_workers stepped, rfl, rfl⟩
  | drainEnds _ _ stepped => exact ⟨drain_workers stepped, rfl, rfl⟩
  | drainStops _ _ _ stepped => exact ⟨drain_workers stepped, rfl, rfl⟩
  | drainPasses _ _ _ stepped called => exact ⟨drain_workers stepped, callKafka_length called, rfl⟩
  | save _ called => exact ⟨rfl, rfl, callStorage_length called⟩
  | flushReturns => exact ⟨rfl, by rw [flushKafka_workers], rfl⟩
  | flushStorage _ _ stepped => exact ⟨rfl, rfl, kept stepped⟩
  | destroy _ stepped => exact ⟨rfl, rfl, kept stepped⟩
  | joinFlusher stepped => exact ⟨rfl, rfl, kept stepped⟩
  | lastFlush stepped => exact ⟨rfl, rfl, kept stepped⟩
  | finish stepped => exact ⟨rfl, rfl, kept stepped⟩
  | _ => exact ⟨rfl, rfl, rfl⟩

theorem process_manned (reachable : (processMachine parse deployment redis
    capacity sessions workers).Reachable process) : Manned workers process := by
  refine Machine.reachable_invariant (Manned workers) ?_ ?_ reachable
  · constructor <;> simp [processMachine, Process.slot, systemMachine, kafkaMachine, storageMachine]
  · intro before label after manned stepped
    cases processStep_move stepped with
    | thread _ moved =>
        obtain ⟨slot, kafka, storage⟩ := pipelineMove_manned moved
        exact ⟨slot.trans manned.slot, kafka.trans manned.kafka, storage.trans manned.storage⟩
    | main moved =>
        obtain ⟨slot, kafka, storage⟩ := mainMove_manned moved
        exact ⟨(congrArg List.length slot).trans manned.slot, kafka.trans manned.kafka,
          storage.trans manned.storage⟩

/-! Nobody is in a call any more: the workers once they are joined, the main thread once
it is past the drain loop and past its own `flush_and_stop`. -/

def MainPc.joined : MainPc → Bool
  | .serving | .joining => false
  | _ => true

def MainPc.pastDrain : MainPc → Bool
  | .serving | .joining | .draining | .saving _ _ => false
  | _ => true

def MainPc.pastFlush : MainPc → Bool
  | .kafkaFlush | .stopped | .joiningFlusher | .flusherJoined => true
  | _ => false

structure Quiet (process : Process capacity) : Prop where
  kafka : process.main.joined = true → ∀ index < process.slot,
    process.pipeline.kafka.workers[index]? = some .idle
  storage : process.main.joined = true → ∀ index < process.slot,
    process.pipeline.storage.threads[Pipeline.storageThread index]? = some .idle
  ownKafka : process.main.pastDrain = true →
    process.pipeline.kafka.workers[process.slot]? = some .idle
  ownStorage : process.main.pastFlush = true →
    process.pipeline.storage.threads[Pipeline.storageThread process.slot]? = some .idle

theorem returned_idle {pipeline : Pipeline capacity} {index : Nat}
    (returned : pipeline.returned index = true) :
    pipeline.kafka.workers[index]? = some .idle ∧
      pipeline.storage.threads[Pipeline.storageThread index]? = some .idle := by
  simpa [Pipeline.returned] using returned

/-- Once the workers are joined nobody but the main thread begins a call. -/
theorem pipelineMove_quiet {clock : Int} {before after : Pipeline capacity}
    {label : PipelineLabel} (own : ∀ index outcome, label ≠ .worker index outcome)
    (moved : PipelineMove parse deployment clock before label after) :
    after.system.workers = before.system.workers ∧
    (∀ worker : Nat, before.kafka.workers[worker]? = some .idle →
      after.kafka.workers[worker]? = some .idle) ∧
    ∀ thread : Nat, before.storage.threads[thread]? = some .idle →
      after.storage.threads[thread]? = some .idle := by
  cases moved with
  | offer offered => exact ⟨(offer_sameWork offered).workers, fun _ => id, fun _ => id⟩
  | drop dropped => exact ⟨(drop_sameWork dropped).workers, fun _ => id, fun _ => id⟩
  | worker _ _ _ _ => exact absurd rfl (own _ _)
  | kafka later stepped =>
      refine ⟨rfl, fun worker idle => ?_, fun _ => id⟩
      exact kafkaMove_idle idle (later worker) (kafkaStep_move stepped).2
  | storage stepped =>
      refine ⟨rfl, fun _ => id, fun thread idle => ?_⟩
      exact storageStep_idle idle (by simp) (by simp) (by simp) stepped

theorem allows_own {main : MainPc} {label : PipelineLabel} (joined : main.joined = true)
    (allowed : Process.allows deployment main label = true) :
    ∀ index outcome, label ≠ .worker index outcome := by
  rintro index outcome rfl
  cases main <;> simp [Process.allows, MainPc.joined] at allowed joined

theorem pastDrain_joined {main : MainPc} (past : main.pastDrain = true) : main.joined = true := by
  cases main <;> simp [MainPc.pastDrain, MainPc.joined] at past ⊢

theorem pastFlush_joined {main : MainPc} (past : main.pastFlush = true) : main.joined = true := by
  cases main <;> simp [MainPc.pastFlush, MainPc.joined] at past ⊢

theorem quiet_thread {process : Process capacity} {clock : Int} {label : PipelineLabel}
    {pipeline : Pipeline capacity} (quiet : Quiet process)
    (allowed : Process.allows deployment process.main label = true)
    (moved : PipelineMove parse deployment clock process.pipeline label pipeline) :
    Quiet ⟨pipeline, process.main⟩ := by
  have slot : Process.slot ⟨pipeline, process.main⟩ = process.slot := (pipelineMove_manned moved).1
  have kept (joined : process.main.joined = true) :=
    (pipelineMove_quiet (allows_own joined allowed) moved).2
  constructor
  · intro joined index below
    exact (kept joined).1 index (quiet.kafka joined index (slot ▸ below))
  · intro joined index below
    exact (kept joined).2 _ (quiet.storage joined index (slot ▸ below))
  · intro past
    rw [slot]
    exact (kept (pastDrain_joined past)).1 _ (quiet.ownKafka past)
  · intro past
    rw [slot]
    exact (kept (pastFlush_joined past)).2 _ (quiet.ownStorage past)

theorem quiet_flush {process : Process capacity} {label : StorageLabel} {old new : MainPc}
    {storage : StorageSystem} (quiet : Quiet ⟨process.pipeline, old⟩)
    (joined : old.joined = true) (past : old.pastDrain = true)
    (others : ∀ index < process.slot, (∀ record,
        label ≠ .save (Pipeline.storageThread index) record) ∧
      label ≠ .flushAndStop (Pipeline.storageThread index) ∧
      label ≠ .lastFlush (Pipeline.storageThread index))
    (own : new.pastFlush = true →
      storage.threads[Pipeline.storageThread process.slot]? = some .idle)
    (stepped : process.pipeline.storage.step label = some storage) :
    Quiet ⟨{ process.pipeline with storage := storage }, new⟩ := by
  refine ⟨fun _ => quiet.kafka joined, fun _ index below => ?_, fun _ => quiet.ownKafka past, own⟩
  obtain ⟨noSave, noStop, noLast⟩ := others index below
  exact storageStep_idle (quiet.storage joined index below) noSave noStop noLast stepped

theorem slot_apart {process : Process capacity} {index : Nat} (below : index < process.slot) :
    Pipeline.storageThread process.slot ≠ Pipeline.storageThread index := by
  simp only [Pipeline.storageThread]
  omega

theorem quiet_main {input : MainInput} {process : Process capacity}
    {pipeline : Pipeline capacity} {old new : MainPc}
    (quiet : Quiet ⟨process.pipeline, old⟩)
    (moved : MainMove parse deployment input process old pipeline new) :
    Quiet ⟨pipeline, new⟩ := by
  have slot : Process.slot ⟨pipeline, new⟩ = process.slot :=
    congrArg List.length (mainMove_manned moved).1
  cases moved with
  | callStop _ => exact ⟨vacuous, vacuous, vacuous, vacuous⟩
  | join returned stepped =>
      refine ⟨fun _ index below => ?_, fun _ index below => ?_, vacuous, vacuous⟩
      · exact (returned_idle (returned index (slot ▸ below))).1
      · exact (returned_idle (returned index (slot ▸ below))).2
  | drainEnds returned _ _ =>
      refine ⟨fun _ index below => ?_, fun _ index below => ?_, fun _ => ?_, vacuous⟩
      · exact quiet.kafka rfl index (slot ▸ below)
      · exact quiet.storage rfl index (slot ▸ below)
      · rw [slot]
        exact (returned_idle returned).1
  | drainStops _ _ _ _ =>
      refine ⟨fun _ index below => ?_, fun _ index below => ?_, vacuous, vacuous⟩
      · exact quiet.kafka rfl index (slot ▸ below)
      · exact quiet.storage rfl index (slot ▸ below)
  | drainPasses _ _ _ _ called =>
      refine ⟨fun _ index below => ?_, fun _ index below => ?_, vacuous, vacuous⟩
      · have lower : index < process.slot := slot ▸ below
        exact callKafka_idle (quiet.kafka rfl index lower) (Nat.ne_of_lt lower) called
      · exact quiet.storage rfl index (slot ▸ below)
  | save _ called =>
      refine ⟨fun _ => quiet.kafka rfl, fun _ index below => ?_, vacuous, vacuous⟩
      exact callStorage_idle (quiet.storage rfl index below) (slot_apart below).symm called
  | flushStorage returned _ stepped =>
      refine quiet_flush quiet rfl rfl (fun index below => ?_) vacuous stepped
      have apart := slot_apart below
      simp [apart]
  | noStorage _ _ => exact ⟨quiet.kafka, quiet.storage, quiet.ownKafka, vacuous⟩
  | callFlush returned _ =>
      exact ⟨quiet.kafka, quiet.storage, quiet.ownKafka, fun _ => (returned_idle returned).2⟩
  | noKafka returned _ =>
      exact ⟨quiet.kafka, quiet.storage, quiet.ownKafka, fun _ => (returned_idle returned).2⟩
  | flushReturns =>
      have kept : (flushKafka input.queued process.pipeline.kafka).workers =
          process.pipeline.kafka.workers := flushKafka_workers _ _
      refine ⟨fun _ index below => ?_, quiet.storage, fun _ => ?_, quiet.ownStorage⟩
      · exact (congrArg (·[index]?) kept).trans (quiet.kafka rfl index below)
      · exact (congrArg (·[process.slot]?) kept).trans (quiet.ownKafka rfl)
  | leave _ => exact ⟨quiet.kafka, quiet.storage, quiet.ownKafka, vacuous⟩
  | destroy _ stepped =>
      refine quiet_flush quiet rfl rfl (by simp) (fun _ => ?_) stepped
      exact storageStep_idle (quiet.ownStorage rfl) (by simp) (by simp) (by simp) stepped
  | joinFlusher stepped =>
      refine quiet_flush quiet rfl rfl (by simp) (fun _ => ?_) stepped
      exact storageStep_idle (quiet.ownStorage rfl) (by simp) (by simp) (by simp) stepped
  | lastFlush stepped =>
      refine quiet_flush quiet rfl rfl (fun index below => ?_) vacuous stepped
      have apart := slot_apart below
      simp [apart]
  | finish stepped => exact quiet_flush quiet rfl rfl (by simp) vacuous stepped

theorem process_quiet (reachable : (processMachine parse deployment redis
    capacity sessions workers).Reachable process) : Quiet process := by
  refine Machine.reachable_invariant Quiet ?_ ?_ reachable
  · constructor <;> simp [processMachine, MainPc.joined, MainPc.pastDrain, MainPc.pastFlush]
  · intro before label after quiet stepped
    cases processStep_move stepped with
    | thread allowed moved => exact quiet_thread quiet allowed moved
    | main moved => exact quiet_main quiet moved

/-- Past the drain loop no call of `produce_to_kafka` is under way. -/
theorem process_kafkaIdle (reachable : (processMachine parse deployment redis
      capacity sessions workers).Reachable process) (past : process.main.pastDrain = true) :
    ∀ pc ∈ process.pipeline.kafka.workers, pc = .idle := by
  have manned := process_manned reachable
  have quiet := process_quiet reachable
  intro pc member
  obtain ⟨index, bound, rfl⟩ := List.getElem_of_mem member
  rw [manned.kafka, ← manned.slot] at bound
  have idle : process.pipeline.kafka.workers[index]? = some .idle := by
    rcases Nat.lt_or_eq_of_le (Nat.le_of_lt_succ bound) with below | same
    · exact quiet.kafka (pastDrain_joined past) index below
    · exact same ▸ quiet.ownKafka past
  exact (List.getElem?_eq_some_iff.mp idle).2

end

end EventCollector
