import EventCollector.Metrics
import EventCollector.QueueCore
import EventCollector.Validation

/-!
`src/processor/processor.cpp` between the queue and the back ends: `worker()`
with one step for each access to shared memory, the drain loop of `stop()`, and
the sessions as far as they touch the queue. What Kafka and ClickHouse do with
an event is in the Kafka and Storage modules; here a call is recorded.
-/

namespace EventCollector

/-- `ParseFromString` is generated code and stays a parameter. `rateLimit` is
`limit_per_min_` when `rate_limiter_` exists, `storage` whether `storage_` does. -/
structure Config where
  parse : Bytes → Option Event
  rateLimit : Option UInt64
  storage : Bool

/-- A string in the queue. `session` and `serial`, where it came from and its
place among the accepted pushes, are bookkeeping that no step reads. -/
structure Message where
  session : Nat
  serial : Nat
  data : Bytes
  deriving DecidableEq

inductive Outcome
  | parseFail
  | invalid
  | rateLimited
  | passed
  deriving DecidableEq

inductive Handler
  | worker (index : Nat)
  | drain
  deriving DecidableEq

structure Processed where
  message : Message
  outcome : Outcome
  handler : Handler
  deriving DecidableEq

structure KafkaCall where
  key : Bytes
  message : Message
  deriving DecidableEq

structure Shared (capacity : Nat) where
  queue : ThreadSafeQueue Message capacity
  metrics : Metrics
  running : Bool
  accepted : List Message
  taken : List Message
  asked : List Bytes
  produced : List KafkaCall
  saved : List Message
  finished : List Processed
  deriving DecidableEq

def Shared.initial (capacity : Nat) : Shared capacity where
  queue := .empty Message capacity
  metrics := {}
  running := true
  accepted := []
  taken := []
  asked := []
  produced := []
  saved := []
  finished := []

variable {capacity : Nat}

def Shared.finish (shared : Shared capacity) (message : Message) (outcome : Outcome)
    (handler : Handler) : Shared capacity :=
  { shared with
    finished := shared.finished ++
      [{ message := message, outcome := outcome, handler := handler }] }

def Shared.produceToKafka (shared : Shared capacity) (key : Bytes) (message : Message) :
    Shared capacity :=
  { shared with produced := shared.produced ++ [{ key := key, message := message }] }

def Shared.save (config : Config) (shared : Shared capacity) (message : Message) :
    Shared capacity :=
  if config.storage then { shared with saved := shared.saved ++ [message] } else shared

inductive WorkerPc
  | check
  | popping
  | popped (message : Message)
  | received (message : Message)
  | parsed (message : Message) (evt : Event)
  | valid (message : Message) (evt : Event)
  | limited (message : Message) (evt : Event)
  | allowed (message : Message) (evt : Event)
  | produced (message : Message) (evt : Event)
  | exited
  deriving DecidableEq

/-- What the environment answers during a step: the clock that `validate_event`
reads and the reply that `allow` gets. -/
structure Input where
  clock : Int
  reply : RedisReply
  deriving DecidableEq

def workerStep (config : Config) (index : Nat) (input : Input) (shared : Shared capacity) :
    WorkerPc → Option (Shared capacity × WorkerPc)
  | .check => some (shared, if shared.running then .popping else .exited)
  | .popping =>
      match shared.queue.tryPop with
      | none => some (shared, .check)
      | some (message, queue) =>
          some ({ shared with queue := queue, taken := shared.taken ++ [message] }, .popped message)
  | .popped message =>
      some ({ shared with metrics.totalReceived := shared.metrics.totalReceived + 1 },
        .received message)
  | .received message =>
      match config.parse message.data with
      | none =>
          some ({ shared with
            metrics.totalParseFail := shared.metrics.totalParseFail + 1 }.finish
              message .parseFail (.worker index), .check)
      | some evt =>
          some ({ shared with metrics.totalParsed := shared.metrics.totalParsed + 1 },
            .parsed message evt)
  | .parsed message evt =>
      if !validateEvent input.clock evt then
        some ({ shared with metrics.totalInvalid := shared.metrics.totalInvalid + 1 }.finish
          message .invalid (.worker index), .check)
      else
        some ({ shared with metrics.totalValid := shared.metrics.totalValid + 1 },
          .valid message evt)
  | .valid message evt =>
      match config.rateLimit with
      | none => some (shared, .allowed message evt)
      | some limit =>
          some ({ shared with asked := shared.asked ++ [evt.userId] },
            if !allow limit input.reply then .limited message evt else .allowed message evt)
  | .limited message _ =>
      some ({ shared with metrics.totalRateLimited := shared.metrics.totalRateLimited + 1 }.finish
        message .rateLimited (.worker index), .check)
  | .allowed message evt =>
      some (shared.produceToKafka evt.userId message, .produced message evt)
  | .produced message _ =>
      some ((shared.save config message).finish message .passed (.worker index), .check)
  | .exited => none

/-- The body of the drain loop in `stop()`. By then every worker has been
joined, so that no other thread runs between its parts. -/
def drainBody (config : Config) (clock : Int) (message : Message) (shared : Shared capacity) :
    Shared capacity :=
  let shared := { shared with metrics.totalReceived := shared.metrics.totalReceived + 1 }
  match config.parse message.data with
  | some evt =>
      let shared := { shared with metrics.totalParsed := shared.metrics.totalParsed + 1 }
      if validateEvent clock evt then
        let shared := { shared with metrics.totalValid := shared.metrics.totalValid + 1 }
        let shared := shared.produceToKafka evt.userId message
        (shared.save config message).finish message .passed .drain
      else
        { shared with metrics.totalInvalid := shared.metrics.totalInvalid + 1 }.finish
          message .invalid .drain
  | none =>
      { shared with metrics.totalParseFail := shared.metrics.totalParseFail + 1 }.finish
        message .parseFail .drain

def drainStep (config : Config) (clock : Int) (shared : Shared capacity) :
    Option (Shared capacity) :=
  match shared.queue.tryPop with
  | none => none
  | some (message, queue) =>
      some (drainBody config clock message
        { shared with queue := queue, taken := shared.taken ++ [message] })

/-- A session as the queue sees it: `dropping` is between a refused push and
the increment of `total_queue_drop`. -/
inductive SessionPc
  | reading
  | dropping
  deriving DecidableEq

inductive StopPc
  | notCalled
  | joining
  | draining
  | returned
  deriving DecidableEq

structure System (capacity : Nat) where
  shared : Shared capacity
  sessions : List SessionPc
  workers : List WorkerPc
  stop : StopPc
  completed : Nat
  deriving DecidableEq

inductive SystemLabel
  | offer (session : Nat) (data : Bytes)
  | drop (session : Nat)
  | worker (index : Nat) (input : Input)
  | callStop
  | join
  | drain (clock : Int)
  deriving DecidableEq

namespace System

/-- A session offers a completed body to `try_push`. `main` joins the io threads
before it calls `stop()`, so nothing is offered after that. -/
def offer (system : System capacity) (session : Nat) (data : Bytes) :
    Option (System capacity) :=
  let message : Message := ⟨session, system.shared.accepted.length, data⟩
  if system.stop = .notCalled ∧ system.sessions[session]? = some .reading then
    match system.shared.queue.tryPushMove message with
    | (true, queue) =>
        some { system with
          shared.queue := queue
          shared.accepted := system.shared.accepted ++ [message]
          completed := system.completed + 1 }
    | (false, _) =>
        some { system with
          sessions := system.sessions.set session .dropping
          completed := system.completed + 1 }
  else none

def drop (system : System capacity) (session : Nat) : Option (System capacity) :=
  if system.sessions[session]? = some .dropping then
    some { system with
      shared.metrics.totalQueueDrop := system.shared.metrics.totalQueueDrop + 1
      sessions := system.sessions.set session .reading }
  else none

def step (config : Config) (system : System capacity) : SystemLabel → Option (System capacity)
  | .offer session data => system.offer session data
  | .drop session => system.drop session
  | .worker index input =>
      (system.workers[index]?).bind fun pc =>
        (workerStep config index input system.shared pc).map fun (shared, next) =>
          { system with shared := shared, workers := system.workers.set index next }
  | .callStop =>
      if system.stop = .notCalled ∧ .dropping ∉ system.sessions then
        some { system with shared.running := false, stop := .joining }
      else none
  | .join =>
      if system.stop = .joining ∧ ∀ pc ∈ system.workers, pc = .exited then
        some { system with stop := .draining }
      else none
  | .drain clock =>
      if system.stop = .draining then
        match drainStep config clock system.shared with
        | some shared => some { system with shared := shared }
        | none => some { system with stop := .returned }
      else none

end System

def systemMachine (config : Config) (capacity sessions workers : Nat) :
    Machine (System capacity) SystemLabel where
  initial :=
    { shared := .initial capacity
      sessions := List.replicate sessions .reading
      workers := List.replicate workers .check
      stop := .notCalled
      completed := 0 }
  step := System.step config

end EventCollector
