import EventCollector.ProcessBacklog
import EventCollector.ProcessReturn

/-!
The process as `Processor::Processor` configures librdkafka, with `dr_msg_cb` but without
an opaque. Until a poll or the flush serves a delivery report it runs like the process
that counts them; the first report that is served ends it.
-/

namespace EventCollector

variable {capacity : Nat}

/-- `Process.step` for any configuration of librdkafka, to which only a report that is
served goes back. After a crash no thread has a step. -/
def Process.stepWith (conf : KafkaConf) (parse : Bytes → Option Event) (deployment : Deployment)
    (process : Process capacity) (label : ProcessLabel) : Option (Process capacity) :=
  if process.pipeline.kafka.crashed then none
  else
    match label with
    | .thread _ (.kafka (.serve thread)) =>
        if Process.allows deployment process.main (.kafka (.serve thread)) then
          (process.pipeline.kafka.step conf (.serve thread)).map fun kafka =>
            ⟨{ process.pipeline with kafka := kafka }, process.main⟩
        else none
    | label => process.step parse deployment label

section

variable {parse : Bytes → Option Event} {deployment : Deployment}

/-- The process of the other modules is the one whose constructor sets the opaque. -/
theorem stepWith_counting {process : Process capacity} {label : ProcessLabel}
    (alive : process.pipeline.kafka.crashed = false) :
    process.stepWith countingConf parse deployment label =
      process.step parse deployment label := by
  unfold Process.stepWith
  rw [alive, if_neg Bool.false_ne_true]
  split
  · simp only [Process.step, Pipeline.step, Option.map_map]
    rfl
  · rfl

variable {redis : CounterStore Bytes} {sessions workers : Nat} {labels : List ProcessLabel}
  {process : Process capacity}

end

end EventCollector
