import EventCollector.KafkaCore
import EventCollector.ProcessorCore
import EventCollector.RateLimiterCore
import EventCollector.StorageCore

/-!
The workers with the back ends they call, before any `stop()`: a worker inside
`produce_to_kafka` or `save` goes on in the Kafka and Storage models and comes back when
its call has returned; the limiter's script runs in Redis.
-/

namespace EventCollector

variable {capacity : Nat}

/-- `kafka` is whether `producer_` and `kafka_topic_` both exist: otherwise
`produce_to_kafka` returns at once. -/
structure Deployment where
  rateLimit : Option UInt64
  kafka : Bool
  storage : Bool
  deriving DecidableEq

def Deployment.config (deployment : Deployment) (parse : Bytes → Option Event) : Config where
  parse := parse
  rateLimit := deployment.rateLimit
  storage := deployment.storage

/-- The script runs and its reply arrives, or is lost, or the script never runs. -/
inductive RedisOutcome
  | answers (now : Nat)
  | replyLost (now : Nat)
  | fails
  deriving DecidableEq

structure Pipeline (capacity : Nat) where
  system : System capacity
  kafka : KafkaSystem
  storage : StorageSystem
  redis : CounterStore Bytes

inductive PipelineLabel
  | offer (session : Nat) (data : Bytes)
  | drop (session : Nat)
  | worker (index : Nat) (outcome : RedisOutcome)
  | kafka (label : KafkaLabel)
  | storage (thread : Nat) (outcome : Bool)
  deriving DecidableEq

def evalScript (outcome : RedisOutcome) (userId : Bytes) (redis : CounterStore Bytes) :
    RedisReply × CounterStore Bytes :=
  match outcome with
  | .answers now => rateScript now (rateKey userId) redis
  | .replyLost now => (.error, (rateScript now (rateKey userId) redis).2)
  | .fails => (.error, redis)

namespace Pipeline

/-- The counters of the one `Metrics` that all parts share. -/
def metrics (pipeline : Pipeline capacity) : Metrics :=
  { pipeline.system.shared.metrics with
    totalKafkaOk := pipeline.kafka.metrics.totalKafkaOk
    totalKafkaFail := pipeline.kafka.metrics.totalKafkaFail
    totalStored := pipeline.storage.metrics.totalStored
    totalStoreFail := pipeline.storage.metrics.totalStoreFail
    totalStoreDead := pipeline.storage.metrics.totalStoreDead }

/-- Thread 0 of the storage is its flush thread. -/
def storageThread (index : Nat) : Nat := index + 1

/-- The worker is in its own code, not inside a call of a back end. -/
def returned (pipeline : Pipeline capacity) (index : Nat) : Bool :=
  decide (pipeline.kafka.workers[index]? = some .idle) &&
    decide (pipeline.storage.threads[storageThread index]? = some .idle)

def consult (deployment : Deployment) (pc : WorkerPc) (outcome : RedisOutcome)
    (redis : CounterStore Bytes) : RedisReply × CounterStore Bytes :=
  match deployment.rateLimit, pc with
  | some _, .valid _ evt => evalScript outcome evt.userId redis
  | _, _ => (.error, redis)

def callKafka (deployment : Deployment) (index : Nat) (pc : WorkerPc) (kafka : KafkaSystem) :
    Option KafkaSystem :=
  match deployment.kafka, pc with
  | true, .allowed message evt =>
      kafka.step countingConf (.call index evt.userId message.data)
  | _, _ => some kafka

def callStorage (deployment : Deployment) (index : Nat) (pc : WorkerPc)
    (storage : StorageSystem) : Option StorageSystem :=
  match deployment.storage, pc with
  | true, .produced message _ => storage.step (.save (storageThread index) message.data)
  | _, _ => some storage

def worker (parse : Bytes → Option Event) (deployment : Deployment) (clock : Int)
    (pipeline : Pipeline capacity) (index : Nat) (outcome : RedisOutcome) :
    Option (Pipeline capacity) :=
  if pipeline.returned index then
    (pipeline.system.workers[index]?).bind fun pc =>
      let (reply, redis) := consult deployment pc outcome pipeline.redis
      (pipeline.system.step (deployment.config parse) (.worker index ⟨clock, reply⟩)).bind
        fun system =>
          (callKafka deployment index pc pipeline.kafka).bind fun kafka =>
            (callStorage deployment index pc pipeline.storage).map fun storage =>
              { system := system, kafka := kafka, storage := storage, redis := redis }
  else none

def step (parse : Bytes → Option Event) (deployment : Deployment) (clock : Int)
    (pipeline : Pipeline capacity) : PipelineLabel → Option (Pipeline capacity)
  | .offer session data =>
      (pipeline.system.step (deployment.config parse) (.offer session data)).map fun system =>
        { pipeline with system := system }
  | .drop session =>
      (pipeline.system.step (deployment.config parse) (.drop session)).map fun system =>
        { pipeline with system := system }
  | .worker index outcome => pipeline.worker parse deployment clock index outcome
  -- a call begins in the worker's own step only
  | .kafka (.call _ _ _) => none
  | .kafka label =>
      (pipeline.kafka.step countingConf label).map fun kafka => { pipeline with kafka := kafka }
  | .storage thread outcome =>
      (pipeline.storage.step (.advance thread outcome)).map fun storage =>
        { pipeline with storage := storage }

end Pipeline

/-- `clock` is the time that all calls of `validate_event` read, `redis` what Redis
holds at the start. -/
def pipelineMachine (parse : Bytes → Option Event) (deployment : Deployment) (clock : Int)
    (redis : CounterStore Bytes) (capacity sessions workers : Nat) :
    Machine (Pipeline capacity) PipelineLabel where
  initial :=
    { system := (systemMachine (deployment.config parse) capacity sessions workers).initial
      kafka := (kafkaMachine countingConf workers).initial
      storage := (storageMachine workers).initial
      redis := redis }
  step := Pipeline.step parse deployment clock

/-- The same with a clock that moves: a label says what a step reads. -/
def clockedPipeline (parse : Bytes → Option Event) (deployment : Deployment)
    (redis : CounterStore Bytes) (capacity sessions workers : Nat) :
    Machine (Pipeline capacity) (Int × PipelineLabel) where
  initial := (pipelineMachine parse deployment 0 redis capacity sessions workers).initial
  step pipeline label := pipeline.step parse deployment label.1 label.2

end EventCollector
