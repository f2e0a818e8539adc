import EventCollector.PipelineCore
import EventCollector.Processor

/-!
What one step of the workers with their back ends can do, and that each part of the
pipeline runs as the machine of its own module does.
-/

namespace EventCollector

variable {capacity : Nat}

section

variable {parse : Bytes → Option Event} {deployment : Deployment} {clock : Int}

inductive PipelineMove (parse : Bytes → Option Event) (deployment : Deployment) (clock : Int)
    (pipeline : Pipeline capacity) : PipelineLabel → Pipeline capacity → Prop
  | offer {session : Nat} {data : Bytes} {system : System capacity} :
      pipeline.system.offer session data = some system →
      PipelineMove parse deployment clock pipeline (.offer session data)
        { pipeline with system := system }
  | drop {session : Nat} {system : System capacity} :
      pipeline.system.drop session = some system →
      PipelineMove parse deployment clock pipeline (.drop session)
        { pipeline with system := system }
  | worker {index : Nat} {outcome : RedisOutcome} {old new : WorkerPc} {shared : Shared capacity}
      {kafka : KafkaSystem} {storage : StorageSystem} :
      pipeline.system.workers[index]? = some old →
      workerStep (deployment.config parse) index
        ⟨clock, (Pipeline.consult deployment old outcome pipeline.redis).1⟩
        pipeline.system.shared old = some (shared, new) →
      Pipeline.callKafka deployment index old pipeline.kafka = some kafka →
      Pipeline.callStorage deployment index old pipeline.storage = some storage →
      PipelineMove parse deployment clock pipeline (.worker index outcome)
        { system := { pipeline.system with
            shared := shared
            workers := pipeline.system.workers.set index new }
          kafka := kafka
          storage := storage
          redis := (Pipeline.consult deployment old outcome pipeline.redis).2 }
  | kafka {label : KafkaLabel} {kafka : KafkaSystem} :
      (∀ worker key data, label ≠ .call worker key data) →
      pipeline.kafka.step countingConf label = some kafka →
      PipelineMove parse deployment clock pipeline (.kafka label) { pipeline with kafka := kafka }
  | storage {thread : Nat} {outcome : Bool} {storage : StorageSystem} :
      pipeline.storage.step (.advance thread outcome) = some storage →
      PipelineMove parse deployment clock pipeline (.storage thread outcome)
        { pipeline with storage := storage }

theorem pipelineStep_move {pipeline next : Pipeline capacity} {label : PipelineLabel}
    (stepped : pipeline.step parse deployment clock label = some next) :
    PipelineMove parse deployment clock pipeline label next := by
  cases label with
  | offer session data =>
      obtain ⟨system, offered, rfl⟩ := Option.map_eq_some_iff.mp stepped
      exact .offer offered
  | drop session =>
      obtain ⟨system, dropped, rfl⟩ := Option.map_eq_some_iff.mp stepped
      exact .drop dropped
  | worker index outcome =>
      simp only [Pipeline.step, Pipeline.worker, Option.ite_none_right_eq_some,
        Option.bind_eq_some_iff, Option.map_eq_some_iff] at stepped
      obtain ⟨-, old, found, system, moved, kafka, called, storage, saved, rfl⟩ := stepped
      simp only [System.step, Option.bind_eq_some_iff, Option.map_eq_some_iff] at moved
      obtain ⟨pc, foundPc, ⟨shared, new⟩, ran, rfl⟩ := moved
      obtain rfl : old = pc := Option.some.inj (found.symm.trans foundPc)
      exact .worker found ran called saved
  | kafka label =>
      cases label with
      | call worker key data => simp [Pipeline.step] at stepped
      | _ =>
          obtain ⟨kafka, moved, rfl⟩ := Option.map_eq_some_iff.mp stepped
          exact .kafka (by simp) moved
  | storage thread outcome =>
      obtain ⟨storage, moved, rfl⟩ := Option.map_eq_some_iff.mp stepped
      exact .storage moved

/-- A session's part in the queue leaves all of this alone. -/
structure SameWork (before after : System capacity) : Prop where
  workers : after.workers = before.workers
  taken : after.shared.taken = before.shared.taken
  asked : after.shared.asked = before.shared.asked
  produced : after.shared.produced = before.shared.produced
  saved : after.shared.saved = before.shared.saved
  failed : after.shared.metrics.totalParseFail = before.shared.metrics.totalParseFail
  invalid : after.shared.metrics.totalInvalid = before.shared.metrics.totalInvalid
  limited : after.shared.metrics.totalRateLimited = before.shared.metrics.totalRateLimited

theorem offer_sameWork {system next : System capacity} {session : Nat} {data : Bytes}
    (offered : system.offer session data = some next) : SameWork system next := by
  obtain ⟨-, ⟨_, rfl⟩ | ⟨_, _, rfl⟩⟩ := offer_cases offered
  · exact ⟨rfl, rfl, rfl, rfl, rfl, rfl, rfl, rfl⟩
  · exact ⟨rfl, rfl, rfl, rfl, rfl, rfl, rfl, rfl⟩

theorem drop_sameWork {system next : System capacity} {session : Nat}
    (dropped : system.drop session = some next) : SameWork system next := by
  simp only [System.drop, Option.ite_none_right_eq_some, Option.some.injEq] at dropped
  obtain ⟨-, rfl⟩ := dropped
  exact ⟨rfl, rfl, rfl, rfl, rfl, rfl, rfl, rfl⟩

/-! Each part of the pipeline runs as its own machine does. -/

def systemActions (deployment : Deployment) (clock : Int) (pipeline : Pipeline capacity) :
    PipelineLabel → List SystemLabel
  | .offer session data => [.offer session data]
  | .drop session => [.drop session]
  | .worker index outcome =>
      match pipeline.system.workers[index]? with
      | some pc =>
          [.worker index ⟨clock, (Pipeline.consult deployment pc outcome pipeline.redis).1⟩]
      | none => []
  | _ => []

def kafkaCalls (deployment : Deployment) (index : Nat) : WorkerPc → List KafkaLabel
  | .allowed message evt =>
      if deployment.kafka then [.call index evt.userId message.data] else []
  | _ => []

def storageCalls (deployment : Deployment) (index : Nat) : WorkerPc → List StorageLabel
  | .produced message _ =>
      if deployment.storage then [.save (Pipeline.storageThread index) message.data] else []
  | _ => []

theorem callKafka_eq (index workers : Nat) (pc : WorkerPc) (kafka : KafkaSystem) :
    Pipeline.callKafka deployment index pc kafka =
      (kafkaMachine countingConf workers).run kafka (kafkaCalls deployment index pc) := by
  cases enabled : deployment.kafka with
  | false => cases pc <;> simp [Pipeline.callKafka, kafkaCalls, enabled, Machine.run]
  | true => cases pc <;> simp [Pipeline.callKafka, kafkaCalls, enabled, Machine.run, kafkaMachine]

theorem callStorage_eq (index workers : Nat) (pc : WorkerPc) (storage : StorageSystem) :
    Pipeline.callStorage deployment index pc storage =
      (storageMachine workers).run storage (storageCalls deployment index pc) := by
  cases enabled : deployment.storage with
  | false => cases pc <;> simp [Pipeline.callStorage, storageCalls, enabled, Machine.run]
  | true =>
      cases pc <;> simp [Pipeline.callStorage, storageCalls, enabled, Machine.run, storageMachine]

def kafkaActions (deployment : Deployment) (pipeline : Pipeline capacity) :
    PipelineLabel → List KafkaLabel
  | .worker index _ =>
      match pipeline.system.workers[index]? with
      | some pc => kafkaCalls deployment index pc
      | none => []
  | .kafka label => [label]
  | _ => []

def storageActions (deployment : Deployment) (pipeline : Pipeline capacity) :
    PipelineLabel → List StorageLabel
  | .worker index _ =>
      match pipeline.system.workers[index]? with
      | some pc => storageCalls deployment index pc
      | none => []
  | .storage thread outcome => [.advance thread outcome]
  | _ => []

variable {redis : CounterStore Bytes} {sessions workers : Nat}

def pipelineSystem : Refinement
    (pipelineMachine parse deployment clock redis capacity sessions workers)
    (systemMachine (deployment.config parse) capacity sessions workers) where
  view := Pipeline.system
  actions := systemActions deployment clock
  initial := rfl
  simulates pipeline label next stepped := by
    cases pipelineStep_move stepped with
    | offer offered => exact Machine.run_cons_some.mpr ⟨_, offered, rfl⟩
    | drop dropped => exact Machine.run_cons_some.mpr ⟨_, dropped, rfl⟩
    | worker found ran _ _ =>
        simp only [systemActions, found]
        refine Machine.run_cons_some.mpr ⟨_, ?_, rfl⟩
        simp only [systemMachine, System.step, found, Option.bind_some, ran, Option.map_some]
    | kafka _ _ => rfl
    | storage _ => rfl

theorem pipeline_system {pipeline : Pipeline capacity} (reachable : (pipelineMachine parse deployment
      clock redis capacity sessions workers).Reachable pipeline) :
    (systemMachine (deployment.config parse) capacity sessions workers).Reachable
      pipeline.system :=
  pipelineSystem.reachable reachable

def pipelineKafka : Refinement
    (pipelineMachine parse deployment clock redis capacity sessions workers)
    (kafkaMachine countingConf workers) where
  view := Pipeline.kafka
  actions := kafkaActions deployment
  initial := rfl
  simulates pipeline label next stepped := by
    cases pipelineStep_move stepped with
    | offer _ => rfl
    | drop _ => rfl
    | worker found _ called _ =>
        simp only [kafkaActions, found]
        exact callKafka_eq _ workers _ _ ▸ called
    | kafka _ moved => exact Machine.run_cons_some.mpr ⟨_, moved, rfl⟩
    | storage _ => rfl

def pipelineStorage : Refinement
    (pipelineMachine parse deployment clock redis capacity sessions workers)
    (storageMachine workers) where
  view := Pipeline.storage
  actions := storageActions deployment
  initial := rfl
  simulates pipeline label next stepped := by
    cases pipelineStep_move stepped with
    | offer _ => rfl
    | drop _ => rfl
    | worker found _ _ saved =>
        simp only [storageActions, found]
        exact callStorage_eq _ workers _ _ ▸ saved
    | kafka _ _ => rfl
    | storage moved => exact Machine.run_cons_some.mpr ⟨_, moved, rfl⟩

/-! The clock that moves. -/

def clockedSystem : Refinement
    (clockedPipeline parse deployment redis capacity sessions workers)
    (systemMachine (deployment.config parse) capacity sessions workers) where
  view := Pipeline.system
  actions pipeline label := systemActions deployment label.1 pipeline label.2
  initial := rfl
  simulates pipeline label next stepped :=
    (pipelineSystem : Refinement
      (pipelineMachine parse deployment label.1 redis capacity sessions workers) _).simulates
      pipeline label.2 next stepped

def clockedKafka : Refinement
    (clockedPipeline parse deployment redis capacity sessions workers)
    (kafkaMachine countingConf workers) where
  view := Pipeline.kafka
  actions pipeline label := kafkaActions deployment pipeline label.2
  initial := rfl
  simulates pipeline label next stepped :=
    (pipelineKafka : Refinement
      (pipelineMachine parse deployment label.1 redis capacity sessions workers) _).simulates
      pipeline label.2 next stepped

end

end EventCollector
