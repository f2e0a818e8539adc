import EventCollector.Lib.Numeral
import EventCollector.PipelineCore

/-!
`main` until the io threads run, with the constructors it calls: what they read from the
environment, what they open, and what is destroyed when one of them throws.
-/

namespace EventCollector

open Ascii

/-- `std::getenv`. -/
abbrev Environment := String → Option Bytes

/-- The values of `int`. -/
def IsInt (value : Int) : Prop := -2147483648 ≤ value ∧ value ≤ 2147483647

instance (value : Int) : Decidable (IsInt value) := inferInstanceAs (Decidable (_ ∧ _))

/-- `std::stoi`, which throws for a text without a number and for one out of range. -/
def stoi (text : Bytes) : Option Int :=
  (Numeral.scan text).bind fun (negative, magnitude) =>
    let value : Int := if negative then -magnitude else magnitude
    if IsInt value then some value else none

/-- `std::stoull`: a minus is taken in the arithmetic of the result. -/
def stoull (text : Bytes) : Option UInt64 :=
  (Numeral.scan text).bind fun (negative, magnitude) =>
    if magnitude < 2 ^ 64 then
      some (if negative then -UInt64.ofNat magnitude else UInt64.ofNat magnitude)
    else none

/-- A value that does not parse is warned of and the default stays. -/
def tolerant {Value : Type} (env : Environment) (name : String) (default : Value)
    (cast : Int → Value) : Value :=
  match (env name).bind stoi with
  | none => default
  | some value => cast value

/-- The default stands for a missing value only; one that does not parse throws. -/
def strict {Value : Type} (env : Environment) (name : String) (default : Value)
    (parse : Bytes → Option Value) : Option Value :=
  match env name with
  | none => some default
  | some text => parse text

def collectorPort (env : Environment) : UInt16 :=
  tolerant env "EVENT_COLLECTOR_PORT" 8080 UInt16.ofInt

def monitorPort (env : Environment) : UInt16 :=
  tolerant env "EVENT_COLLECTOR_PROMETHEUS_PORT" 9090 UInt16.ofInt

def workerCount (env : Environment) : Nat :=
  tolerant env "EVENT_COLLECTOR_WORKERS" 4 fun value => (max 1 value).toNat

def ioThreadCount (env : Environment) : Nat :=
  tolerant env "EVENT_COLLECTOR_IO_THREADS" 2 fun value => (max 1 value).toNat

/-- What the system calls and the libraries do. -/
structure World where
  collectorBinds : Bool
  confSets : String → Bytes → Bool
  producerStarts : Bool
  topicOpens : Bool
  clickhouseConnects : Bool
  flusherStarts : Bool
  redisConnects : Bool
  processorThreadStarts : Nat → Bool
  monitorBinds : Bool
  signalsRegister : Bool
  ioThreadStarts : Nat → Bool

inductive Resource
  | collectorSocket
  | kafkaConf
  | producer
  | topic
  | clickhouse
  | flusher
  | redis
  | processorThread (index : Nat)
  | monitorSocket
  | signals
  | ioThread (index : Nat)
  deriving DecidableEq

/-- A thread is closed when it is joined, a configuration also when a producer takes it. -/
inductive Effect
  | opens (resource : Resource)
  | closes (resource : Resource)
  deriving DecidableEq

/-! `Processor::Processor`. -/

def kafkaProperties (bootstrap : Bytes) : List (String × Bytes) :=
  [("bootstrap.servers", bootstrap), ("acks", ascii "1"), ("compression.codec", ascii "snappy"),
    ("linger.ms", ascii "5"), ("batch.num.messages", ascii "1000")]

def topicName (env : Environment) : Bytes :=
  match env "EVENT_COLLECTOR_KAFKA_TOPIC" with
  | none | some [] => ascii "event_stream"
  | some name => name

structure RateLimiterOptions where
  host : Bytes
  port : Int
  password : Option Bytes
  limitPerMin : UInt64
  deriving DecidableEq

/-- `producer_`, `kafka_topic_` under its name, `storage_` with its host and port, and
`rate_limiter_`. -/
structure Processor where
  producer : Bool
  topic : Option Bytes
  storage : Option (Bytes × Int)
  rateLimiter : Option RateLimiterOptions
  deriving DecidableEq

/-- When `rd_kafka_new` fails the configuration stays with the caller. -/
def openKafka (env : Environment) (world : World) : List Effect × Bool × Option Bytes :=
  match env "EVENT_COLLECTOR_KAFKA_BOOTSTRAP" with
  | none | some [] => ([], false, none)
  | some bootstrap =>
      if (kafkaProperties bootstrap).all fun property => world.confSets property.1 property.2 then
        if world.producerStarts then
          let opened : List Effect := [.opens .kafkaConf, .closes .kafkaConf, .opens .producer]
          if world.topicOpens then (opened ++ [.opens .topic], true, some (topicName env))
          else (opened, true, none)
        else ([.opens .kafkaConf], false, none)
      else ([.opens .kafkaConf, .closes .kafkaConf], false, none)

/-- `Storage::Storage`, and the handler of what it throws. -/
def openStorage (env : Environment) (world : World) : List Effect × Option (Bytes × Int) :=
  if env "EVENT_COLLECTOR_ENABLE_CLICKHOUSE" = some (ascii "1") then
    let host := (env "EVENT_COLLECTOR_CLICKHOUSE_HOST").getD (ascii "localhost")
    match strict env "EVENT_COLLECTOR_CLICKHOUSE_PORT" 9000 stoi with
    | none => ([], none)
    | some port =>
        if world.clickhouseConnects then
          if world.flusherStarts then ([.opens .clickhouse, .opens .flusher], some (host, port))
          else ([.opens .clickhouse, .closes .clickhouse], none)
        else ([], none)
  else ([], none)

/-- `none` is an exception that no handler of the constructor is around. -/
def openRateLimiter (env : Environment) (world : World) :
    Option (List Effect × Option RateLimiterOptions) :=
  if env "EVENT_COLLECTOR_REDIS_ENABLE" = some (ascii "1") then
    let host := (env "EVENT_COLLECTOR_REDIS_HOST").getD (ascii "127.0.0.1")
    let password := (env "EVENT_COLLECTOR_REDIS_PASSWORD").filter fun text => !text.isEmpty
    (strict env "EVENT_COLLECTOR_REDIS_PORT" 6379 stoi).bind fun port =>
      (strict env "EVENT_COLLECTOR_RATE_LIMIT" 100 stoull).map fun limit =>
        if world.redisConnects then ([.opens .redis], some ⟨host, port, password, limit⟩)
        else ([], none)
  else some ([], none)

/-- `~Storage`: the flush thread is joined, then the client goes. -/
def closeStorage (storage : Option (Bytes × Int)) : List Effect :=
  if storage.isSome then [.closes .flusher, .closes .clickhouse] else []

/-- Without `~Processor` an exception destroys the members, which are raw pointers in the
case of Kafka. -/
def newProcessor (env : Environment) (world : World) : List Effect × Option Processor :=
  let (kafka, producer, topic) := openKafka env world
  let (clickhouse, storage) := openStorage env world
  match openRateLimiter env world with
  | none => (kafka ++ clickhouse ++ closeStorage storage, none)
  | some (redis, rateLimiter) =>
      (kafka ++ clickhouse ++ redis, some ⟨producer, topic, storage, rateLimiter⟩)

/-- `~Processor` and the members but `threads_`. -/
def Processor.close (processor : Processor) : List Effect :=
  (if processor.topic.isSome then [.closes .topic] else []) ++
    (if processor.producer then [.closes .producer] else []) ++
    (if processor.rateLimiter.isSome then [.closes .redis] else []) ++
    closeStorage processor.storage

def Processor.deployment (processor : Processor) : Deployment where
  rateLimit := processor.rateLimiter.map RateLimiterOptions.limitPerMin
  kafka := processor.topic.isSome
  storage := processor.storage.isSome

/-! `main`. -/

/-- `ThreadSafeQueue queue(10000)` -/
def queueCapacity : Nat := 10000

/-- How many of `left` threads start, from `index` on, until one does not. -/
def spawned (starts : Nat → Bool) (index : Nat) : Nat → Nat
  | 0 => 0
  | left + 1 => if starts index then spawned starts (index + 1) left + 1 else 0

/-- `Processor::start`: the workers, then the poll thread. -/
def Processor.threadCount (env : Environment) (processor : Processor) : Nat :=
  workerCount env + if processor.producer then 1 else 0

structure Settings where
  collectorPort : UInt16
  monitorPort : UInt16
  workers : Nat
  ioThreads : Nat
  processor : Processor
  deriving DecidableEq

/-- `returns` is the handler of `main`, with 1; `terminates` is `std::terminate`. -/
inductive Ending
  | serving (settings : Settings)
  | returns
  | terminates
  deriving DecidableEq

/-- What is left of an exception after `processor.start` has been called: the processor is
destroyed, its thread objects last, and a thread object may not be destroyed while its
thread can be joined. -/
def unwind (processor : Processor) (threads : Nat) (effects : List Effect) :
    List Effect × Ending :=
  if threads = 0 then
    (effects ++ processor.close ++ [.closes .collectorSocket], .returns)
  else (effects ++ processor.close, .terminates)

def settings (env : Environment) (processor : Processor) : Settings :=
  ⟨collectorPort env, monitorPort env, workerCount env, ioThreadCount env, processor⟩

def threadOpens (count : Nat) (resource : Nat → Resource) : List Effect :=
  (List.range count).map fun index => .opens (resource index)

/-- The end of `main`, once the signals are registered. -/
def runIoThreads (env : Environment) (world : World) (processor : Processor) (threads : Nat)
    (effects : List Effect) : List Effect × Ending :=
  let ioThreads := spawned world.ioThreadStarts 0 (ioThreadCount env)
  let registered := effects ++ [.opens .monitorSocket, .opens .signals]
  if ioThreads = ioThreadCount env then
    (registered ++ threadOpens ioThreads .ioThread, .serving (settings env processor))
  else if ioThreads = 0 then
    unwind processor threads (registered ++ [.closes .signals, .closes .monitorSocket])
  -- the thread objects of `io_threads` are the first to be destroyed
  else (registered ++ threadOpens ioThreads .ioThread, .terminates)

def runMain (env : Environment) (world : World) : List Effect × Ending :=
  if !world.collectorBinds then ([], .returns)
  else
    match newProcessor env world with
    | (effects, none) =>
        (.opens .collectorSocket :: effects ++ [.closes .collectorSocket], .returns)
    | (effects, some processor) =>
        let threads := spawned world.processorThreadStarts 0 (processor.threadCount env)
        let started := .opens .collectorSocket :: effects ++ threadOpens threads .processorThread
        if threads ≠ processor.threadCount env then unwind processor threads started
        else if !world.monitorBinds then unwind processor threads started
        else if !world.signalsRegister then
          unwind processor threads (started ++ [.opens .monitorSocket, .closes .monitorSocket])
        else runIoThreads env world processor threads started

end EventCollector
