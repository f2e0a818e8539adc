import EventCollector.Lib.Machine
import EventCollector.Metrics
import EventCollector.Validation

/-!
`Processor::produce_to_kafka`, `dr_msg_cb` and the poll thread while `running_`
is set, with what librdkafka does between them: messages wait for the broker,
then a delivery report waits for a poll, and a poll serves the reports one by one.
Both `producer_` and `kafka_topic_` exist: without one of them `produce_to_kafka`
returns at once and nothing of this is called.
-/

namespace EventCollector

inductive Pointer
  | null
  | metrics
  deriving DecidableEq

structure KafkaConf where
  drMsgCb : Bool
  confOpaque : Pointer
  deriving DecidableEq

def rdKafkaConfNew : KafkaConf := ⟨false, .null⟩

def rdKafkaConfSetDrMsgCb (conf : KafkaConf) : KafkaConf := { conf with drMsgCb := true }

def rdKafkaConfSetOpaque (conf : KafkaConf) (value : Pointer) : KafkaConf :=
  { conf with confOpaque := value }

/-- What the constructor of `Processor` passes to `rd_kafka_new`, up to the string
properties. -/
def processorConf : KafkaConf := rdKafkaConfSetDrMsgCb rdKafkaConfNew

/-- With it the callback finds the `Metrics` and returns. -/
def countingConf : KafkaConf := rdKafkaConfSetOpaque processorConf .metrics

/-- `call` is the number of the `produce_to_kafka` call, `msgOpaque` the last
argument of `rd_kafka_produce`. -/
structure KafkaMessage where
  call : Nat
  key : Bytes
  data : Bytes
  msgOpaque : Pointer
  deriving DecidableEq

/-- A worker in `produce_to_kafka`: before the first `rd_kafka_produce`, in
`rd_kafka_poll`, before the second one, and before `total_kafka_fail`. -/
inductive ProducePc
  | idle
  | first (message : KafkaMessage)
  | polling (message : KafkaMessage)
  | second (message : KafkaMessage)
  | failing (message : KafkaMessage)
  deriving DecidableEq

/-- `enqueued` and `failed` record the calls whose message was taken by librdkafka
and those that were given up. -/
structure KafkaSystem where
  metrics : Metrics
  workers : List ProducePc
  inFlight : List KafkaMessage
  reports : List (KafkaMessage × Bool)
  crashed : Bool
  calls : Nat
  enqueued : List Nat
  failed : List Nat
  deriving DecidableEq

/-- `serve none` is the poll thread, `serve (some worker)` a worker that polls
before its retry. -/
inductive KafkaLabel
  | call (worker : Nat) (key data : Bytes)
  | produce (worker : Nat) (accepted : Bool)
  | outcome (place : Nat) (delivered : Bool)
  | serve (thread : Option Nat)
  | pollReturns (worker : Nat)
  | countFail (worker : Nat)
  deriving DecidableEq

def drMsgCb (metrics : Metrics) (delivered : Bool) : Pointer → Option Metrics
  | .null => none
  | .metrics =>
      if delivered then some { metrics with totalKafkaOk := metrics.totalKafkaOk + 1 }
      else some { metrics with totalKafkaFail := metrics.totalKafkaFail + 1 }

namespace KafkaSystem

def place (system : KafkaSystem) (worker : Nat) (pc : ProducePc) : KafkaSystem :=
  { system with workers := system.workers.set worker pc }

def enqueue (system : KafkaSystem) (worker : Nat) (message : KafkaMessage) : KafkaSystem :=
  { system with
    inFlight := system.inFlight ++ [message]
    enqueued := system.enqueued ++ [message.call] }.place worker .idle

def mayServe (system : KafkaSystem) : Option Nat → Bool
  | none => true
  | some worker =>
      match system.workers[worker]? with
      | some (.polling _) => true
      | _ => false

def serve (conf : KafkaConf) (system : KafkaSystem) (delivered : Bool)
    (rest : List (KafkaMessage × Bool)) : KafkaSystem :=
  if conf.drMsgCb then
    match drMsgCb system.metrics delivered conf.confOpaque with
    | none => { system with reports := rest, crashed := true }
    | some metrics => { system with reports := rest, metrics := metrics }
  else { system with reports := rest }

/-- A `call` is past the early return of `produce_to_kafka`. -/
def act (conf : KafkaConf) (system : KafkaSystem) : KafkaLabel → Option KafkaSystem
  | .call worker key data =>
      if system.workers[worker]? = some .idle then
        some ({ system with calls := system.calls + 1 }.place worker
          (.first ⟨system.calls, key, data, .metrics⟩))
      else none
  | .produce worker accepted =>
      match system.workers[worker]? with
      | some (.first message) =>
          some (if accepted then system.enqueue worker message
            else system.place worker (.polling message))
      | some (.second message) =>
          some (if accepted then system.enqueue worker message
            else system.place worker (.failing message))
      | _ => none
  | .outcome place delivered =>
      (system.inFlight[place]?).map fun message =>
        { system with
          inFlight := system.inFlight.eraseIdx place
          reports := system.reports ++ [(message, delivered)] }
  | .serve thread =>
      match system.reports with
      | [] => none
      | (_, delivered) :: rest =>
          if system.mayServe thread then some (system.serve conf delivered rest) else none
  | .pollReturns worker =>
      match system.workers[worker]? with
      | some (.polling message) => some (system.place worker (.second message))
      | _ => none
  | .countFail worker =>
      match system.workers[worker]? with
      | some (.failing message) =>
          some ({ system with
            metrics.totalKafkaFail := system.metrics.totalKafkaFail + 1
            failed := system.failed ++ [message.call] }.place worker .idle)
      | _ => none

def step (conf : KafkaConf) (system : KafkaSystem) (label : KafkaLabel) : Option KafkaSystem :=
  if system.crashed then none else system.act conf label

end KafkaSystem

def kafkaMachine (conf : KafkaConf) (workers : Nat) : Machine KafkaSystem KafkaLabel where
  initial :=
    { metrics := {}
      workers := List.replicate workers .idle
      inFlight := []
      reports := []
      crashed := false
      calls := 0
      enqueued := []
      failed := [] }
  step := KafkaSystem.step conf

end EventCollector
