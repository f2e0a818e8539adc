import EventCollector.KafkaShutdown
import EventCollector.PipelineCore

/-!
The whole process, from the moment `main` has started its threads until it returns:
the pipeline, `Processor::stop()` on the main thread with the calls its drain loop
makes, and `~Processor`, which destroys the storage. The main thread calls the back
ends from a place of its own, after those of the workers. The io threads are not part
of the process: `main` may find them joined at any moment, so all that follows is what
happens once they have ended.
-/

namespace EventCollector

variable {capacity : Nat}

/-- `serving` is `main` joining the io threads; its step to `joining` is taken when the
last of them has ended, and nothing here waits for that. In `stop()` it joins the others,
drains the queue (`saving` is between `produce_to_kafka` and `save`), is in
`flush_and_stop` and in `rd_kafka_flush`. In `~Storage` it joins the flush thread and
flushes once more. -/
inductive MainPc
  | serving
  | joining
  | draining
  | saving (message : Message) (evt : Event)
  | drained
  | storageFlush
  | kafkaFlush
  | stopped
  | joiningFlusher
  | flusherJoined
  | lastFlush
  | exited
  deriving DecidableEq

def MainPc.phase : MainPc → FlushPhase
  | .serving | .joining => .running
  | .draining | .saving _ _ | .drained | .storageFlush => .draining
  | .kafkaFlush => .flushing
  | .stopped | .joiningFlusher | .flusherJoined | .lastFlush | .exited => .returned

structure Process (capacity : Nat) where
  pipeline : Pipeline capacity
  main : MainPc

/-- What the main thread is told: the time in `validate_event`, and the calls whose
messages `rd_kafka_purge` still finds in the queue. -/
structure MainInput where
  clock : Int
  queued : List Nat
  deriving DecidableEq

inductive ProcessLabel
  | thread (clock : Int) (label : PipelineLabel)
  | main (input : MainInput)
  deriving DecidableEq

def flushKafka (queued : List Nat) (kafka : KafkaSystem) : KafkaSystem :=
  match rdKafkaFlush kafka with
  | .noError => kafka
  | .timedOut => rdKafkaPurge queued kafka

namespace Process

/-- The place of the main thread, behind those of the workers. -/
def slot (process : Process capacity) : Nat := process.pipeline.system.workers.length

/-- A worker has no step once it has been joined, the poll thread none but while the
workers run, and there is a flush thread only if there is a storage. -/
def allows (deployment : Deployment) : MainPc → PipelineLabel → Bool
  | main, .kafka label => main.phase.allows label
  | _, .storage _ _ => deployment.storage
  | .serving, _ | .joining, _ => true
  | _, .worker _ _ => false
  | _, _ => true

/-- One turn of `while (queue_.try_pop(data))`, up to the return of `produce_to_kafka`. -/
def drainTurn (parse : Bytes → Option Event) (deployment : Deployment) (clock : Int)
    (process : Process capacity) (system : System capacity) : Option (Process capacity) :=
  let pipeline := { process.pipeline with system := system }
  match process.pipeline.system.shared.queue.tryPop with
  | none => some ⟨pipeline, .drained⟩
  | some (message, _) =>
      match (parse message.data).filter (validateEvent clock) with
      | none => some ⟨pipeline, .draining⟩
      | some evt =>
          (Pipeline.callKafka deployment process.slot (.allowed message evt) pipeline.kafka).map
            fun kafka => ⟨{ pipeline with kafka := kafka }, .saving message evt⟩

/-- `~Storage` and the last call of `flush_and_stop`, if there is a storage. -/
def storageStep (process : Process capacity) (label : StorageLabel) (main : MainPc) :
    Option (Process capacity) :=
  (process.pipeline.storage.step label).map fun storage =>
    ⟨{ process.pipeline with storage := storage }, main⟩

def mainStep (parse : Bytes → Option Event) (deployment : Deployment) (input : MainInput)
    (process : Process capacity) : Option (Process capacity) :=
  let pipeline := process.pipeline
  let config := deployment.config parse
  let thread := Pipeline.storageThread process.slot
  match process.main with
  | .serving =>
      (pipeline.system.step config .callStop).map fun system =>
        ⟨{ pipeline with system := system }, .joining⟩
  -- a thread inside a call has not ended
  | .joining =>
      if (List.range process.slot).all pipeline.returned then
        (pipeline.system.step config .join).map fun system =>
          ⟨{ pipeline with system := system }, .draining⟩
      else none
  | .draining =>
      if pipeline.returned process.slot then
        (pipeline.system.step config (.drain input.clock)).bind
          (process.drainTurn parse deployment input.clock)
      else none
  | .saving message evt =>
      if pipeline.returned process.slot then
        (Pipeline.callStorage deployment process.slot (.produced message evt)
          pipeline.storage).map fun storage => ⟨{ pipeline with storage := storage }, .draining⟩
      else none
  | .drained =>
      if pipeline.returned process.slot then
        if deployment.storage then process.storageStep (.flushAndStop thread) .storageFlush
        else some ⟨pipeline, .storageFlush⟩
      else none
  | .storageFlush =>
      if pipeline.returned process.slot then
        some ⟨pipeline, if deployment.kafka then .kafkaFlush else .stopped⟩
      else none
  | .kafkaFlush =>
      some ⟨{ pipeline with kafka := flushKafka input.queued pipeline.kafka }, .stopped⟩
  | .stopped =>
      if deployment.storage then process.storageStep .destroy .joiningFlusher
      else some ⟨pipeline, .exited⟩
  | .joiningFlusher => process.storageStep .join .flusherJoined
  | .flusherJoined => process.storageStep (.lastFlush thread) .lastFlush
  | .lastFlush => process.storageStep .finish .exited
  | .exited => none

def step (parse : Bytes → Option Event) (deployment : Deployment)
    (process : Process capacity) : ProcessLabel → Option (Process capacity)
  | .thread clock label =>
      if allows deployment process.main label then
        (process.pipeline.step parse deployment clock label).map fun pipeline =>
          { process with pipeline := pipeline }
      else none
  | .main input => process.mainStep parse deployment input

end Process

def processMachine (parse : Bytes → Option Event) (deployment : Deployment)
    (redis : CounterStore Bytes) (capacity sessions workers : Nat) :
    Machine (Process capacity) ProcessLabel where
  initial :=
    { pipeline :=
        { system := (systemMachine (deployment.config parse) capacity sessions workers).initial
          kafka := (kafkaMachine countingConf (workers + 1)).initial
          storage := (storageMachine (workers + 1)).initial
          redis := redis }
      main := .serving }
  step := Process.step parse deployment

end EventCollector
