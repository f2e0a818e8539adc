import EventCollector.EventEncoding
import EventCollector.Lib.Scan
import EventCollector.MonitorCore
import EventCollector.PipelineAccounting

/-!
One call of `build_prometheus_text` beside the running pipeline: twelve loads, one
after another, while sessions, workers, delivery reports and the storage count on.
-/

namespace EventCollector

variable {capacity : Nat}

/-- A moment is what the pipeline was at one of the loads. -/
abbrev Loads (capacity : Nat) := Scan (Pipeline capacity)

/-- Which of the loads is the metric's own. -/
def Metric.place (metric : Metric) : Nat := Metric.all.idxOf metric

namespace Loads

/-- The value of `metric` while `moment` was loaded. -/
def valueAt (loads : Loads capacity) (metric moment : Metric) : Nat :=
  match loads.moments[moment.place]? with
  | some pipeline => metric.load pipeline.metrics
  | none => 0

def reported (loads : Loads capacity) (metric : Metric) : Nat :=
  loads.valueAt metric metric

/-- `sum` exceeds the reported value of `upper` by no more than `upper` grew between
its own load and that of `last`. -/
def UpTo (loads : Loads capacity) (sum : Nat) (upper last : Metric) : Prop :=
  loads.reported upper ≤ loads.valueAt upper last ∧
    sum ≤ loads.reported upper + (loads.valueAt upper last - loads.reported upper)

end Loads

def loadsMachine (parse : Bytes → Option Event) (deployment : Deployment)
    (redis : CounterStore Bytes) (capacity sessions workers : Nat) :
    Machine (Loads capacity) (ScanLabel (Int × PipelineLabel)) :=
  (clockedPipeline parse deployment redis capacity sessions workers).scan Metric.all.length

/-! The counters at every instant. -/

structure Ordered (metrics : Metrics) : Prop where
  received : metrics.totalParsed + metrics.totalParseFail ≤ metrics.totalReceived
  parsed : metrics.totalValid + metrics.totalInvalid ≤ metrics.totalParsed
  valid : metrics.totalKafkaOk + metrics.totalKafkaFail + metrics.totalRateLimited ≤
    metrics.totalValid

def Grows (before after : Metrics) : Prop :=
  ∀ metric : Metric, metric.load before ≤ metric.load after

theorem Grows.refl (metrics : Metrics) : Grows metrics metrics := fun _ => Nat.le_refl _

section

variable {parse : Bytes → Option Event} {deployment : Deployment} {clock : Int}

theorem ledgered_reports {system : KafkaSystem} (holds : Ledgered system) :
    system.metrics.totalKafkaOk + system.metrics.totalKafkaFail ≤ system.calls := by
  have bags := congrArg Multiset.card holds.calls
  have calls : (Ledger.bag (List.range system.calls)).card = system.calls := List.length_range
  have enqueued : (Ledger.bag system.enqueued).card = system.enqueued.length := rfl
  have failed : (Ledger.bag system.failed).card = system.failed.length := rfl
  have counted := holds.counted
  rw [Multiset.card_add, Multiset.card_add, calls, enqueued, failed] at bags
  omega

/-- Without Kafka no call is made, with it one for each event handed over. -/
theorem calls_step {before after : Pipeline capacity} {label : PipelineLabel}
    (holds : before.kafka.calls ≤ before.system.shared.produced.length)
    (moved : PipelineMove parse deployment clock before label after) :
    after.kafka.calls ≤ after.system.shared.produced.length := by
  cases moved with
  | offer offered =>
      rw [(offer_sameWork offered).produced]
      exact holds
  | drop dropped =>
      rw [(drop_sameWork dropped).produced]
      exact holds
  | worker found ran called _ =>
      cases workerStep_move ran with
      | produce =>
          simp only [Shared.produceToKafka, List.length_append, List.length_singleton]
          cases enabled : deployment.kafka with
          | true =>
              rw [callKafka_allowed enabled called]
              omega
          | false =>
              simp only [Pipeline.callKafka, enabled, Option.some.injEq] at called
              rw [← called]
              omega
      | save =>
          obtain rfl := callKafka_elsewhere (by simp) called
          simpa [save_eq] using holds
      | _ =>
          obtain rfl := callKafka_elsewhere (by simp) called
          exact holds
  | kafka later moved =>
      rw [kafkaMove_calls (kafkaStep_move moved).2 later]
      exact holds
  | storage _ => exact holds

variable {redis : CounterStore Bytes} {sessions workers : Nat} {pipeline : Pipeline capacity}

theorem clocked_ordered (reachable : (clockedPipeline parse deployment redis
    capacity sessions workers).Reachable pipeline) : Ordered pipeline.metrics := by
  have balance := systemMachine_conservation (clockedSystem.reachable reachable)
  have received := balance.received
  have parsed := balance.parsed
  have valid := balance.valid
  have reports := ledgered_reports (clocked_kafkaLedgered reachable).1
  have calls : pipeline.kafka.calls ≤ pipeline.system.shared.produced.length :=
    Machine.reachable_invariant
      (fun pipeline => pipeline.kafka.calls ≤ pipeline.system.shared.produced.length)
      (Nat.le_refl 0) (fun _ _ _ holds stepped => calls_step holds (pipelineStep_move stepped))
      reachable
  simp only [clockedSystem] at received parsed valid
  constructor <;> simp only [Pipeline.metrics] <;> omega

/-! No counter ever falls. -/

theorem workerMove_grows {config : Config} {index : Nat} {input : Input}
    {before after : Shared capacity} {old new : WorkerPc}
    (moved : WorkerMove config index input before old after new) :
    Grows before.metrics after.metrics := by
  intro metric
  cases moved with
  | receive => cases metric <;> simp [Metric.load]
  | parseFail _ => cases metric <;> simp [Metric.load]
  | parse _ => cases metric <;> simp [Metric.load]
  | reject _ => cases metric <;> simp [Metric.load]
  | validate _ => cases metric <;> simp [Metric.load]
  | rateLimited => cases metric <;> simp [Metric.load]
  | save => simp [save_eq]
  | _ => exact Nat.le_refl _

theorem drainMove_grows {config : Config} {message : Message} {before after : Shared capacity}
    (moved : DrainMove config clock message before after) : Grows before.metrics after.metrics := by
  intro metric
  cases moved with
  | parseFail _ => cases metric <;> simp [Metric.load]
  | reject _ _ => cases metric <;> simp [Metric.load]
  | pass _ _ => cases metric <;> simp [Metric.load, save_eq, Shared.produceToKafka]

theorem systemMove_grows {config : Config} {system next : System capacity}
    (moved : SystemMove config system next) :
    Grows system.shared.metrics next.shared.metrics := by
  cases moved with
  | drop _ =>
      intro metric
      cases metric <;> simp [Metric.load]
  | worker _ moved => exact workerMove_grows moved
  | drain _ _ moved =>
      have grown := drainMove_grows moved
      exact grown
  | _ => exact Grows.refl _

theorem kafkaStep_grows {system next : KafkaSystem} {label : KafkaLabel}
    (stepped : system.step countingConf label = some next) : Grows system.metrics next.metrics := by
  intro metric
  cases (kafkaStep_move stepped).2 with
  | @serve _ _ delivered _ _ =>
      cases delivered <;> cases metric <;>
        simp [KafkaSystem.serve, countingConf, processorConf, rdKafkaConfSetOpaque,
          rdKafkaConfSetDrMsgCb, drMsgCb, Metric.load]
  | countFail _ => cases metric <;> simp [KafkaSystem.place, Metric.load]
  | _ => exact Nat.le_refl _

theorem callKafka_grows {index : Nat} {pc : WorkerPc} {kafka next : KafkaSystem}
    (called : Pipeline.callKafka deployment index pc kafka = some next) :
    Grows kafka.metrics next.metrics := by
  unfold Pipeline.callKafka at called
  split at called
  · exact kafkaStep_grows called
  · rw [Option.some.inj called]
    exact Grows.refl _

theorem storageMove_grows {system next : StorageSystem} (moved : StorageMove system next) :
    Grows system.metrics next.metrics := by
  intro metric
  cases moved with
  | flush _ moved =>
      cases moved with
      | stored => cases metric <;> simp [Metric.load, StorageSystem.place]
      | logged => cases metric <;> simp [Metric.load, StorageSystem.place]
      | _ => exact Nat.le_refl _
  | _ => exact Nat.le_refl _

theorem callStorage_grows {index : Nat} {pc : WorkerPc} {storage next : StorageSystem}
    (called : Pipeline.callStorage deployment index pc storage = some next) :
    Grows storage.metrics next.metrics := by
  unfold Pipeline.callStorage at called
  split at called
  · exact storageMove_grows (storageStep_move called)
  · rw [Option.some.inj called]
    exact Grows.refl _

theorem metrics_grows {before after : Pipeline capacity}
    (system : Grows before.system.shared.metrics after.system.shared.metrics)
    (kafka : Grows before.kafka.metrics after.kafka.metrics)
    (storage : Grows before.storage.metrics after.storage.metrics) :
    Grows before.metrics after.metrics := by
  intro metric
  cases metric with
  | kafkaOk => exact kafka .kafkaOk
  | kafkaFail => exact kafka .kafkaFail
  | stored => exact storage .stored
  | storeFail => exact storage .storeFail
  | storeDead => exact storage .storeDead
  | received => exact system .received
  | parsed => exact system .parsed
  | valid => exact system .valid
  | invalid => exact system .invalid
  | parseFail => exact system .parseFail
  | rateLimited => exact system .rateLimited
  | queueDrop => exact system .queueDrop

theorem pipelineMove_grows {before after : Pipeline capacity} {label : PipelineLabel}
    (moved : PipelineMove parse deployment clock before label after) :
    Grows before.metrics after.metrics := by
  cases moved with
  | @offer session data system offered =>
      have stepped : before.system.step (deployment.config parse) (.offer session data) =
          some system := offered
      exact metrics_grows (systemMove_grows (systemStep_move stepped)) (Grows.refl _)
        (Grows.refl _)
  | @drop session system dropped =>
      have stepped : before.system.step (deployment.config parse) (.drop session) =
          some system := dropped
      exact metrics_grows (systemMove_grows (systemStep_move stepped)) (Grows.refl _)
        (Grows.refl _)
  | worker _ ran called saved =>
      exact metrics_grows (workerMove_grows (workerStep_move ran)) (callKafka_grows called)
        (callStorage_grows saved)
  | kafka _ moved => exact metrics_grows (Grows.refl _) (kafkaStep_grows moved) (Grows.refl _)
  | storage moved =>
      exact metrics_grows (Grows.refl _) (Grows.refl _) (storageMove_grows (storageStep_move moved))

theorem clocked_grows {first later : Pipeline capacity} (leads : (clockedPipeline parse deployment
      redis capacity sessions workers).Leads first later) : Grows first.metrics later.metrics := by
  intro metric
  refine Machine.Leads.grows (fun pipeline => metric.load pipeline.metrics) ?_ leads
  intro pipeline label next stepped
  exact pipelineMove_grows (pipelineStep_move stepped) metric

/-! What a complete call has read. -/

variable {loads : Loads capacity}

theorem place_lt (metric : Metric) : metric.place < Metric.all.length :=
  List.idxOf_lt_length_iff.mpr metric.mem_all

theorem moment_found (complete : loads.moments.length = Metric.all.length) (moment : Metric) :
    ∃ pipeline, loads.moments[moment.place]? = some pipeline ∧
      ∀ metric : Metric, loads.valueAt metric moment = metric.load pipeline.metrics := by
  have bound : moment.place < loads.moments.length := complete ▸ place_lt moment
  refine ⟨loads.moments[moment.place], List.getElem?_eq_getElem bound, ?_⟩
  intro metric
  simp only [Loads.valueAt, List.getElem?_eq_getElem bound]

theorem reported_le (reachable : (loadsMachine parse deployment redis
      capacity sessions workers).Reachable loads)
    (complete : loads.moments.length = Metric.all.length) {metric last : Metric}
    (order : metric.place ≤ last.place) :
    loads.reported metric ≤ loads.valueAt metric last := by
  obtain ⟨own, found, same⟩ := moment_found complete metric
  obtain ⟨later, found', same'⟩ := moment_found complete last
  rw [Loads.reported, same, same']
  exact clocked_grows ((Machine.scan_scanned reachable).leads order found found') metric

theorem upTo_of_le (reachable : (loadsMachine parse deployment redis
      capacity sessions workers).Reachable loads)
    (complete : loads.moments.length = Metric.all.length) {sum : Nat} {upper last : Metric}
    (order : upper.place ≤ last.place) (bounded : sum ≤ loads.valueAt upper last) :
    loads.UpTo sum upper last := by
  have grown := reported_le reachable complete order
  exact ⟨grown, by omega⟩

theorem moments_ordered (reachable : (loadsMachine parse deployment redis
      capacity sessions workers).Reachable loads) {pipeline : Pipeline capacity}
    (seen : pipeline ∈ loads.moments) : Ordered pipeline.metrics :=
  clocked_ordered ((Machine.scan_scanned reachable).seen pipeline seen).1

theorem valueAt_ordered (reachable : (loadsMachine parse deployment redis
      capacity sessions workers).Reachable loads)
    (complete : loads.moments.length = Metric.all.length) (moment : Metric) :
    loads.valueAt .parsed moment + loads.valueAt .parseFail moment ≤
        loads.valueAt .received moment ∧
      loads.valueAt .valid moment + loads.valueAt .invalid moment ≤
        loads.valueAt .parsed moment ∧
      loads.valueAt .kafkaOk moment + loads.valueAt .kafkaFail moment +
        loads.valueAt .rateLimited moment ≤ loads.valueAt .valid moment := by
  obtain ⟨pipeline, found, same⟩ := moment_found complete moment
  have ordered := moments_ordered reachable (List.mem_of_getElem? found)
  simp only [same]
  exact ⟨ordered.received, ordered.parsed, ordered.valid⟩

/-- The counters are consistent at every instant, those of the twelve loads included.
The loads are not one instant: what they report is consistent up to what came in
between the load of an upper counter and the last load of its sum. -/
theorem loads_consistentUpTo (parse : Bytes → Option Event) (deployment : Deployment)
    (redis : CounterStore Bytes) (capacity sessions workers : Nat) {loads : Loads capacity}
    (reachable : (loadsMachine parse deployment redis capacity sessions workers).Reachable loads)
    (complete : loads.moments.length = Metric.all.length) :
    (Ordered loads.state.metrics ∧ ∀ pipeline ∈ loads.moments, Ordered pipeline.metrics) ∧
    loads.UpTo (loads.reported .parsed + loads.reported .parseFail) .received .parseFail ∧
    loads.UpTo (loads.reported .valid + loads.reported .invalid) .parsed .invalid ∧
    loads.UpTo (loads.reported .kafkaOk + loads.reported .kafkaFail +
      loads.reported .rateLimited) .valid .kafkaFail := by
  have before {metric last : Metric} (order : metric.place ≤ last.place) :
      loads.reported metric ≤ loads.valueAt metric last := reported_le reachable complete order
  refine ⟨⟨?_, fun _ seen => moments_ordered reachable seen⟩, ?_, ?_, ?_⟩
  · exact clocked_ordered (Machine.scan_scanned reachable).reachable
  · have parsed : loads.reported .parsed ≤ loads.valueAt .parsed .parseFail := before (by decide)
    have failed : loads.reported .parseFail ≤ loads.valueAt .parseFail .parseFail :=
      before (by decide)
    have together := (valueAt_ordered reachable complete .parseFail).1
    exact upTo_of_le reachable complete (by decide) (by omega)
  · have valid : loads.reported .valid ≤ loads.valueAt .valid .invalid := before (by decide)
    have invalid : loads.reported .invalid ≤ loads.valueAt .invalid .invalid := before (by decide)
    have together := (valueAt_ordered reachable complete .invalid).2.1
    exact upTo_of_le reachable complete (by decide) (by omega)
  · have limited : loads.reported .rateLimited ≤ loads.valueAt .rateLimited .kafkaFail :=
      before (by decide)
    have ok : loads.reported .kafkaOk ≤ loads.valueAt .kafkaOk .kafkaFail := before (by decide)
    have fail : loads.reported .kafkaFail ≤ loads.valueAt .kafkaFail .kafkaFail :=
      before (by decide)
    have together := (valueAt_ordered reachable complete .kafkaFail).2.2
    exact upTo_of_le reachable complete (by decide) (by omega)

end

/-- Three events wait in the queue. The first is valid before `total_parsed` is loaded,
the second before `total_valid` is, and all three are delivered before `total_kafka_ok`. -/
def racingLoads : List (ScanLabel (Int × PipelineLabel)) :=
  let move (label : PipelineLabel) : ScanLabel (Int × PipelineLabel) := .move (1, label)
  let toValid : List (ScanLabel (Int × PipelineLabel)) :=
    List.replicate 5 (move (.worker 0 .fails))
  let deliver : List (ScanLabel (Int × PipelineLabel)) :=
    List.replicate 2 (move (.worker 0 .fails)) ++
      [move (.kafka (.produce 0 true)), move (.kafka (.outcome 0 true)),
        move (.kafka (.serve none)), move (.worker 0 .fails)]
  List.replicate 3 (move (.offer 0 (encodeEvent (eventOf [7])))) ++ [.look] ++
    toValid ++ [.look] ++ deliver ++ toValid ++ List.replicate 4 .look ++
    deliver ++ toValid ++ deliver ++ List.replicate 6 .look

def Loads.summary (loads : Loads capacity) : Nat × List Nat × Nat :=
  (loads.moments.length, Metric.all.map loads.reported, loads.valueAt .received .parseFail)

theorem racingLoads_summary :
    let machine := loadsMachine sampleParse ⟨none, true, false⟩ (fun _ => none) 3 1 1
    (machine.run machine.initial racingLoads).map Loads.summary =
      some (12, [0, 1, 2, 0, 0, 0, 3, 0, 0, 0, 0, 0], 2) := by
  decide +kernel

theorem racingLoads_run : ∃ loads : Loads 3,
    (loadsMachine sampleParse ⟨none, true, false⟩ (fun _ => none) 3 1 1).Reachable loads ∧
    loads.moments.length = Metric.all.length ∧
    Metric.all.map loads.reported = [0, 1, 2, 0, 0, 0, 3, 0, 0, 0, 0, 0] ∧
    loads.valueAt .received .parseFail = 2 := by
  obtain ⟨loads, reached, facts⟩ := Option.map_eq_some_iff.mp racingLoads_summary
  simp only [Loads.summary, Prod.mk.injEq] at facts
  exact ⟨loads, ⟨racingLoads, reached⟩, facts⟩

theorem loads_inconsistent : ∃ loads : Loads 3,
    (loadsMachine sampleParse ⟨none, true, false⟩ (fun _ => none) 3 1 1).Reachable loads ∧
    loads.moments.length = Metric.all.length ∧
    loads.reported .received < loads.reported .parsed + loads.reported .parseFail ∧
    loads.reported .parsed < loads.reported .valid + loads.reported .invalid ∧
    loads.reported .valid < loads.reported .kafkaOk + loads.reported .kafkaFail +
      loads.reported .rateLimited := by
  obtain ⟨loads, reachable, complete, values, -⟩ := racingLoads_run
  refine ⟨loads, reachable, complete, ?_⟩
  simp only [Metric.all, List.map_cons, List.map_nil, List.cons.injEq] at values
  omega

theorem loads_consistentUpTo_racing : ∃ loads : Loads 3,
    loads.reported .parsed + loads.reported .parseFail = 1 ∧ loads.reported .received = 0 ∧
    loads.UpTo (loads.reported .parsed + loads.reported .parseFail) .received .parseFail ∧
    loads.valueAt .received .parseFail = 2 := by
  obtain ⟨loads, reachable, complete, values, current⟩ := racingLoads_run
  have bounded := (loads_consistentUpTo sampleParse ⟨none, true, false⟩ (fun _ => none) 3 1 1
    reachable complete).2.1
  simp only [Metric.all, List.map_cons, List.map_nil, List.cons.injEq] at values
  exact ⟨loads, by omega, by omega, bounded, current⟩

end EventCollector
