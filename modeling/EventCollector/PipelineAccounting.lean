import EventCollector.Conservation
import EventCollector.Kafka
import EventCollector.Pipeline
import EventCollector.Storage

/-!
The calls that the workers make are the calls that the back ends get, so that what
the Kafka and Storage modules say of calls and records holds of the workers' events.
-/

namespace EventCollector

variable {capacity : Nat}

section

variable {parse : Bytes → Option Event} {deployment : Deployment} {clock : Int}

theorem kafkaMove_calls {conf : KafkaConf} {system next : KafkaSystem} {label : KafkaLabel}
    (moved : KafkaMove conf system label next)
    (later : ∀ worker key data, label ≠ .call worker key data) : next.calls = system.calls := by
  cases moved with
  | call _ => exact absurd rfl (later _ _ _)
  | serve _ =>
      unfold KafkaSystem.serve
      split
      · split <;> rfl
      · rfl
  | _ => rfl

theorem storageAdvance_saved {system next : StorageSystem} {thread : Nat} {outcome : Bool}
    (stepped : system.step (.advance thread outcome) = some next) : next.saved = system.saved := by
  obtain ⟨pc, found, advanced⟩ := Option.bind_eq_some_iff.mp stepped
  cases pc with
  | idle => simp [StorageSystem.advance] at advanced
  | exited => simp [StorageSystem.advance] at advanced
  | asleep =>
      simp only [StorageSystem.advance, Option.some.injEq] at advanced
      subst next
      unfold StorageSystem.takeAll
      split <;> rfl
  | _ =>
      simp only [StorageSystem.advance, Option.some.injEq] at advanced
      subst next
      rfl

theorem storageSave_saved {system next : StorageSystem} {thread : Nat} {record : Bytes}
    (stepped : system.step (.save thread record) = some next) :
    next.saved = system.saved ++ [record] := by
  simp only [StorageSystem.step, Option.ite_none_right_eq_some] at stepped
  obtain ⟨-, stepped⟩ := stepped
  split at stepped
  · simp only [Option.some.injEq] at stepped
    subst next
    rfl
  · simp only [Option.some.injEq] at stepped
    subst next
    rfl

/-- The back ends have got the calls that the workers recorded. -/
structure Connected (deployment : Deployment) (pipeline : Pipeline capacity) : Prop where
  kafka : deployment.kafka = true →
    pipeline.kafka.calls = pipeline.system.shared.produced.length
  storage : pipeline.storage.saved = pipeline.system.shared.saved.map Message.data

theorem callKafka_elsewhere {index : Nat} {pc : WorkerPc} {kafka next : KafkaSystem}
    (elsewhere : ∀ message evt, pc ≠ .allowed message evt)
    (called : Pipeline.callKafka deployment index pc kafka = some next) : next = kafka := by
  unfold Pipeline.callKafka at called
  split at called
  · exact absurd rfl (elsewhere _ _)
  · exact (Option.some.inj called).symm

theorem callStorage_elsewhere {index : Nat} {pc : WorkerPc} {storage next : StorageSystem}
    (elsewhere : ∀ message evt, pc ≠ .produced message evt)
    (called : Pipeline.callStorage deployment index pc storage = some next) : next = storage := by
  unfold Pipeline.callStorage at called
  split at called
  · exact absurd rfl (elsewhere _ _)
  · exact (Option.some.inj called).symm

theorem callKafka_allowed {index : Nat} {message : Message} {evt : Event}
    {kafka next : KafkaSystem} (enabled : deployment.kafka = true)
    (called : Pipeline.callKafka deployment index (.allowed message evt) kafka = some next) :
    next.calls = kafka.calls + 1 := by
  simp only [Pipeline.callKafka, enabled] at called
  obtain ⟨-, moved⟩ := kafkaStep_move called
  cases moved with
  | call _ => rfl

theorem callStorage_produced {index : Nat} {message : Message} {evt : Event}
    {storage next : StorageSystem}
    (called : Pipeline.callStorage deployment index (.produced message evt) storage = some next) :
    next.saved = storage.saved ++ if deployment.storage then [message.data] else [] := by
  cases enabled : deployment.storage with
  | false =>
      simp only [Pipeline.callStorage, enabled, Option.some.injEq] at called
      simp [called]
  | true =>
      simp only [Pipeline.callStorage, enabled] at called
      exact storageSave_saved called

theorem connected_worker {pipeline : Pipeline capacity} {index : Nat} {reply : RedisReply}
    {old new : WorkerPc} {shared : Shared capacity} {kafka : KafkaSystem} {storage : StorageSystem}
    (holds : Connected deployment pipeline)
    (moved : WorkerMove (deployment.config parse) index ⟨clock, reply⟩ pipeline.system.shared old
      shared new)
    (called : Pipeline.callKafka deployment index old pipeline.kafka = some kafka)
    (saved : Pipeline.callStorage deployment index old pipeline.storage = some storage) :
    (deployment.kafka = true → kafka.calls = shared.produced.length) ∧
    storage.saved = shared.saved.map Message.data := by
  cases moved with
  | @produce message evt =>
      obtain rfl := callStorage_elsewhere (by simp) saved
      refine ⟨?_, holds.storage⟩
      intro enabled
      rw [callKafka_allowed enabled called, holds.kafka enabled]
      simp [Shared.produceToKafka]
  | @save message evt =>
      obtain rfl := callKafka_elsewhere (by simp) called
      refine ⟨by simpa [save_eq] using holds.kafka, ?_⟩
      rw [callStorage_produced saved, holds.storage]
      cases enabled : deployment.storage <;> simp [save_eq, Deployment.config, enabled]
  | _ =>
      obtain rfl := callKafka_elsewhere (by simp) called
      obtain rfl := callStorage_elsewhere (by simp) saved
      exact ⟨holds.kafka, holds.storage⟩

theorem connected_sameWork {pipeline : Pipeline capacity} {system : System capacity}
    (holds : Connected deployment pipeline) (same : SameWork pipeline.system system) :
    Connected deployment { pipeline with system := system } := by
  constructor
  · rw [same.produced]
    exact holds.kafka
  · rw [same.saved]
    exact holds.storage

theorem connected_step {before after : Pipeline capacity} {label : PipelineLabel}
    (holds : Connected deployment before)
    (moved : PipelineMove parse deployment clock before label after) :
    Connected deployment after := by
  cases moved with
  | offer offered => exact connected_sameWork holds (offer_sameWork offered)
  | drop dropped => exact connected_sameWork holds (drop_sameWork dropped)
  | worker found ran called saved =>
      obtain ⟨calls, records⟩ := connected_worker holds (workerStep_move ran) called saved
      exact ⟨calls, records⟩
  | kafka later moved =>
      have kept := kafkaMove_calls (kafkaStep_move moved).2 later
      exact ⟨fun enabled => kept.trans (holds.kafka enabled), holds.storage⟩
  | storage moved => exact ⟨holds.kafka, (storageAdvance_saved moved).trans holds.storage⟩

variable {redis : CounterStore Bytes} {sessions workers : Nat} {pipeline : Pipeline capacity}

theorem clocked_kafkaLedgered (reachable : (clockedPipeline parse deployment redis
    capacity sessions workers).Reachable pipeline) :
    Ledgered pipeline.kafka ∧ pipeline.kafka.crashed = false :=
  clockedKafka.invariant (fun _ => Machine.reachable_invariant
    (fun kafka => Ledgered kafka ∧ kafka.crashed = false) ⟨ledgered_initial _ workers, rfl⟩
    (fun _ _ _ holds stepped => repaired_step holds stepped)) reachable

end

end EventCollector
