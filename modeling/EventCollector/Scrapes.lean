import EventCollector.Monitor
import EventCollector.Process
import EventCollector.ScrapesCore

/-!
What successive scrapes of the whole process report. The loads of a scrape are twelve
moments and other scrapes may be under way, but no counter is ever reported lower than an
earlier answer had it, nor higher than it is.
-/

namespace EventCollector

open Ascii Split

variable {capacity : Nat}

section

variable {parse : Bytes → Option Event} {deployment : Deployment}

/-! No counter falls, in `stop()` and the destructors neither. -/

theorem storageStep_grows {system next : StorageSystem} {label : StorageLabel}
    (stepped : system.step label = some next) : Grows system.metrics next.metrics :=
  storageMove_grows (storageStep_move stepped)

theorem flushKafka_metrics (queued : List Nat) (kafka : KafkaSystem) :
    (flushKafka queued kafka).metrics = kafka.metrics := by
  unfold flushKafka
  split <;> rfl

theorem mainMove_grows {input : MainInput} {process : Process capacity}
    {pipeline : Pipeline capacity} {old new : MainPc}
    (moved : MainMove parse deployment input process old pipeline new) :
    Grows process.pipeline.metrics pipeline.metrics := by
  have system {label : SystemLabel} {after : System capacity}
      (stepped : process.pipeline.system.step (deployment.config parse) label = some after) :
      Grows process.pipeline.system.shared.metrics after.shared.metrics :=
    systemMove_grows (systemStep_move stepped)
  have idle (metrics : Metrics) : Grows metrics metrics := Grows.refl metrics
  cases moved with
  | callStop stepped => exact metrics_grows (system stepped) (idle _) (idle _)
  | join _ stepped => exact metrics_grows (system stepped) (idle _) (idle _)
  | drainEnds _ _ stepped => exact metrics_grows (system stepped) (idle _) (idle _)
  | drainStops _ _ _ stepped => exact metrics_grows (system stepped) (idle _) (idle _)
  | drainPasses _ _ _ stepped called =>
      exact metrics_grows (system stepped) (callKafka_grows called) (idle _)
  | save _ called => exact metrics_grows (idle _) (idle _) (callStorage_grows called)
  | flushReturns =>
      refine metrics_grows (idle _) ?_ (idle _)
      simp only [flushKafka_metrics]
      exact idle _
  | flushStorage _ _ stepped => exact metrics_grows (idle _) (idle _) (storageStep_grows stepped)
  | destroy _ stepped => exact metrics_grows (idle _) (idle _) (storageStep_grows stepped)
  | joinFlusher stepped => exact metrics_grows (idle _) (idle _) (storageStep_grows stepped)
  | lastFlush stepped => exact metrics_grows (idle _) (idle _) (storageStep_grows stepped)
  | finish stepped => exact metrics_grows (idle _) (idle _) (storageStep_grows stepped)
  | _ => exact idle _

theorem process_grows {before after : Process capacity} {label : ProcessLabel}
    (stepped : before.step parse deployment label = some after) :
    Grows before.pipeline.metrics after.pipeline.metrics := by
  cases processStep_move stepped with
  | thread _ moved => exact pipelineMove_grows moved
  | main moved => exact mainMove_grows moved

/-! One step. -/

inductive MonitoredMove (parse : Bytes → Option Event) (deployment : Deployment)
    (monitored : Monitored capacity) : Monitored capacity → Prop
  | process {label : ProcessLabel} {process : Process capacity} :
      monitored.process.step parse deployment label = some process →
      MonitoredMove parse deployment monitored { monitored with process := process }
  | connect : MonitoredMove parse deployment monitored
      { monitored with requests := monitored.requests ++ [.reading] }
  | fail {index : Nat} : monitored.requests[index]? = some .reading →
      MonitoredMove parse deployment monitored
        { monitored with requests := monitored.requests.set index .failed }
  | begin {index : Nat} : monitored.requests[index]? = some .reading →
      MonitoredMove parse deployment monitored
        { monitored with requests := monitored.requests.set index (.loading []) }
  | load {index : Nat} {old new : Request} : monitored.requests[index]? = some old →
      old.load monitored.process.pipeline.metrics = some new →
      MonitoredMove parse deployment monitored
        { monitored with requests := monitored.requests.set index new }

theorem monitoredStep_move {monitored next : Monitored capacity} {label : MonitoredLabel}
    (stepped : monitored.step parse deployment label = some next) :
    MonitoredMove parse deployment monitored next := by
  cases label with
  | process label =>
      simp only [Monitored.step, Option.ite_none_left_eq_some, Option.map_eq_some_iff] at stepped
      obtain ⟨-, process, moved, rfl⟩ := stepped
      exact .process moved
  | connect =>
      simp only [Monitored.step, Option.ite_none_right_eq_some, Option.some.injEq] at stepped
      obtain ⟨-, rfl⟩ := stepped
      exact .connect
  | read index failed =>
      simp only [Monitored.step, Monitored.request, Option.ite_none_right_eq_some,
        Option.bind_eq_some_iff, Option.map_eq_some_iff] at stepped
      obtain ⟨-, old, found, new, turned, rfl⟩ := stepped
      cases old with
      | reading =>
          cases failed with
          | true =>
              obtain rfl := Option.some.inj turned
              exact .fail found
          | false =>
              obtain rfl := Option.some.inj turned
              exact .begin found
      | _ => simp at turned
  | load index =>
      simp only [Monitored.step, Monitored.request, Option.ite_none_right_eq_some,
        Option.bind_eq_some_iff, Option.map_eq_some_iff] at stepped
      obtain ⟨-, old, found, new, loaded, rfl⟩ := stepped
      exact .load found loaded

/-! What a request has loaded, between a floor and what the counters are. -/

/-- `amount` is a value that `metric` had since the counters were at `floor`. -/
structure Since (floor metrics : Metrics) (metric : Metric) (amount : Nat) : Prop where
  above : metric.load floor ≤ amount
  below : amount ≤ metric.load metrics

def Loaded (floor metrics : Metrics) (values : List UInt64) : Prop :=
  ∀ metric : Metric, metric.place < values.length → ∃ amount,
    values[metric.place]? = some (UInt64.ofNat amount) ∧ Since floor metrics metric amount

def Answers (floor metrics : Metrics) (response : Bytes) : Prop :=
  ∃ amounts : Metric → Nat, (∀ metric, Since floor metrics metric (amounts metric)) ∧
    response = metricsResponse fun metric => UInt64.ofNat (amounts metric)

def Request.Fair (floor metrics : Metrics) : Request → Prop
  | .loading values => values.length < Metric.all.length ∧ Loaded floor metrics values
  | .answered response => Answers floor metrics response
  | .reading | .failed => True

theorem Since.grow {floor metrics later : Metrics} {metric : Metric} {amount : Nat}
    (since : Since floor metrics metric amount) (grows : Grows metrics later) :
    Since floor later metric amount :=
  ⟨since.above, Nat.le_trans since.below (grows metric)⟩

theorem Request.Fair.grow {floor metrics later : Metrics} {request : Request}
    (fair : request.Fair floor metrics) (grows : Grows metrics later) :
    request.Fair floor later := by
  cases request with
  | reading => trivial
  | failed => trivial
  | loading values =>
      refine ⟨fair.1, fun metric inside => ?_⟩
      obtain ⟨amount, found, since⟩ := fair.2 metric inside
      exact ⟨amount, found, since.grow grows⟩
  | answered response =>
      obtain ⟨amounts, since, same⟩ := fair
      exact ⟨amounts, fun metric => (since metric).grow grows, same⟩

theorem place_all (metric : Metric) : Metric.all[metric.place]? = some metric := by
  cases metric <;> rfl

theorem loaded_append {floor metrics : Metrics} {values : List UInt64} {metric : Metric}
    (loaded : Loaded floor metrics values) (grown : Grows floor metrics)
    (next : Metric.all[values.length]? = some metric) :
    Loaded floor metrics (values ++ [Metric.values metrics metric]) := by
  intro other inside
  rw [List.length_append, List.length_singleton] at inside
  rcases Nat.lt_or_eq_of_le (Nat.le_of_lt_succ inside) with earlier | last
  · obtain ⟨amount, found, since⟩ := loaded other earlier
    exact ⟨amount, by rw [List.getElem?_append_left earlier, found], since⟩
  · have own : other = metric := by
      have found := place_all other
      rw [last, next] at found
      exact (Option.some.inj found).symm
    refine ⟨other.load metrics, ?_, grown other, Nat.le_refl _⟩
    rw [last, List.getElem?_concat_length, own]
    rfl

theorem load_fair {floor metrics : Metrics} {old new : Request} (fair : old.Fair floor metrics)
    (grown : Grows floor metrics) (loaded : old.load metrics = some new) :
    new.Fair floor metrics := by
  cases old with
  | loading values =>
      obtain ⟨metric, next, rfl⟩ := Option.map_eq_some_iff.mp loaded
      have longer := loaded_append fair.2 grown next
      have length : (values ++ [Metric.values metrics metric]).length = values.length + 1 := by simp
      dsimp only
      split
      · rename_i complete
        have all (metric' : Metric) := longer metric' (complete ▸ place_lt metric')
        choose amounts found since using all
        refine ⟨amounts, since, ?_⟩
        simp only [found, Option.getD_some]
      · rename_i partly
        have room := fair.1
        exact ⟨by omega, longer⟩
  | _ => simp [Request.load] at loaded

/-! Since the middle of a run every request is fair that had not begun there. -/

structure FairSince (floor : Metrics) (watched : Nat → Prop) (monitored : Monitored capacity) :
    Prop where
  grown : Grows floor monitored.process.pipeline.metrics
  fair : ∀ (index : Nat) request, watched index → monitored.requests[index]? = some request →
    request.Fair floor monitored.process.pipeline.metrics

theorem fairSince_set {floor : Metrics} {watched : Nat → Prop} {monitored : Monitored capacity}
    {index : Nat} {old new : Request} (since : FairSince floor watched monitored)
    (found : monitored.requests[index]? = some old)
    (fair : old.Fair floor monitored.process.pipeline.metrics →
      new.Fair floor monitored.process.pipeline.metrics) :
    FairSince floor watched { monitored with requests := monitored.requests.set index new } := by
  refine ⟨since.grown, fun other request watching place => ?_⟩
  obtain ⟨bound, -⟩ := List.getElem?_eq_some_iff.mp found
  by_cases own : index = other
  · subst own
    rw [List.getElem?_set_self bound] at place
    exact Option.some.inj place ▸ fair (since.fair index old watching found)
  · rw [List.getElem?_set_ne own] at place
    exact since.fair other request watching place

theorem fairSince_step {floor : Metrics} {watched : Nat → Prop}
    {monitored next : Monitored capacity} (since : FairSince floor watched monitored)
    (moved : MonitoredMove parse deployment monitored next) : FairSince floor watched next := by
  cases moved with
  | process stepped =>
      have grows := process_grows stepped
      refine ⟨fun metric => Nat.le_trans (since.grown metric) (grows metric), ?_⟩
      exact fun index request watching found =>
        (since.fair index request watching found).grow grows
  | connect =>
      refine ⟨since.grown, fun index request watching found => ?_⟩
      by_cases earlier : index < monitored.requests.length
      · rw [List.getElem?_append_left earlier] at found
        exact since.fair index request watching found
      · rw [List.getElem?_append_right (by omega)] at found
        have new := List.mem_of_getElem? found
        rw [List.mem_singleton.mp new]
        trivial
  | fail found => exact fairSince_set since found fun _ => trivial
  | begin found =>
      refine fairSince_set since found fun _ => ⟨by decide, fun metric inside => ?_⟩
      simp at inside
  | load found loaded =>
      exact fairSince_set since found fun fair => load_fair fair since.grown loaded

variable {redis : CounterStore Bytes} {sessions workers : Nat}

theorem fairSince_run {floor : Metrics} {watched : Nat → Prop} {labels : List MonitoredLabel}
    {monitored final : Monitored capacity} (since : FairSince floor watched monitored)
    (ran : (monitoredMachine parse deployment redis capacity sessions workers).run monitored
      labels = some final) : FairSince floor watched final :=
  Machine.run_invariant (FairSince floor watched)
    (fun _ _ _ since stepped => fairSince_step since (monitoredStep_move stepped)) since ran

/-- The status is 200 and a client reads `amounts`, each under its own name. -/
def Reads (response : Bytes) (amounts : Metric → Nat) : Prop :=
  ascii "HTTP/1.1 200 OK\r\n" <+: response ∧
  ∃ head body, splitFirst blankLine response = some (head, body) ∧
    contentLength head = some body.length ∧
    readSamples body = some (Metric.all.map fun metric => (metric.name, amounts metric))

theorem answers_reads {floor metrics : Metrics} {response : Bytes}
    (answers : Answers floor metrics response)
    (bounded : ∀ metric : Metric, metric.load metrics < 2 ^ 64) :
    ∃ amounts, Reads response amounts ∧ ∀ metric, Since floor metrics metric (amounts metric) := by
  obtain ⟨amounts, since, rfl⟩ := answers
  have unwrapped (metric : Metric) : (UInt64.ofNat (amounts metric)).toNat = amounts metric :=
    Nat.mod_eq_of_lt (Nat.lt_of_le_of_lt (since metric).below (bounded metric))
  refine ⟨amounts, ⟨?_, _, _, metricsResponse_split _, contentLength_head _, ?_⟩, since⟩
  · simp only [metricsResponse, List.append_assoc]
    exact List.prefix_append _ _
  · rw [readSamples_text]
    simp only [unwrapped]

/-- Of two scrapes one of which was answered before the other began, whatever else goes on,
the later one reports no counter lower: the first reports what each counter was at some
time up to `middle`, the second what it was at some time from then on. -/
theorem scrapes_grow (parse : Bytes → Option Event) (deployment : Deployment)
    (redis : CounterStore Bytes) (sessions workers : Nat) {before after : List MonitoredLabel}
    {middle final : Monitored capacity} {first second : Nat} {earlier later : Bytes}
    (reached : (monitoredMachine parse deployment redis capacity sessions workers).run
      (monitoredMachine parse deployment redis capacity sessions workers).initial before =
        some middle)
    (ran : (monitoredMachine parse deployment redis capacity sessions workers).run middle after =
      some final)
    (answered : middle.requests[first]? = some (.answered earlier))
    (begun : ∀ request, middle.requests[second]? = some request → request = .reading)
    (answeredLater : final.requests[second]? = some (.answered later))
    (bounded : ∀ metric : Metric, metric.load final.process.pipeline.metrics < 2 ^ 64) :
    ∃ amounts amounts', Reads earlier amounts ∧ Reads later amounts' ∧ ∀ metric : Metric,
      amounts metric ≤ metric.load middle.process.pipeline.metrics ∧
      metric.load middle.process.pipeline.metrics ≤ amounts' metric ∧
      amounts' metric ≤ metric.load final.process.pipeline.metrics := by
  have start : FairSince {} (fun _ => True)
      (monitoredMachine parse deployment redis capacity sessions workers).initial :=
    ⟨Grows.refl _, by simp [monitoredMachine]⟩
  have upTo := fairSince_run start reached
  have cut : FairSince middle.process.pipeline.metrics (· = second) middle := by
    refine ⟨Grows.refl _, ?_⟩
    rintro index request rfl found
    rw [begun request found]
    trivial
  have onward := fairSince_run cut ran
  obtain ⟨amounts, reads, since⟩ := answers_reads (upTo.fair first _ trivial answered)
    fun metric => Nat.lt_of_le_of_lt (onward.grown metric) (bounded metric)
  obtain ⟨amounts', reads', since'⟩ :=
    answers_reads (onward.fair second _ rfl answeredLater) bounded
  exact ⟨amounts, amounts', reads, reads', fun metric =>
    ⟨(since metric).below, (since' metric).above, (since' metric).below⟩⟩

end

/-- Two clients connect and the first is answered; then an event comes in and is passed on. -/
def firstScrape : List MonitoredLabel :=
  [.connect, .connect, .read 0 false] ++ List.replicate 12 (.load 0) ++
    [.process (.thread 1 (.offer 0 (encodeEvent (eventOf [7]))))] ++
    List.replicate 8 (.process (.thread 1 (.worker 0 .fails)))

def secondScrape : List MonitoredLabel := .read 1 false :: List.replicate 12 (.load 1)

def Request.response? : Request → Option Bytes
  | .answered response => some response
  | _ => none

/-- What the two requests have been answered, if anything, and the counters. -/
def Monitored.summary (monitored : Monitored capacity) : List Bool × List Nat :=
  (monitored.requests.map fun request => request.response?.isSome,
    Metric.all.map fun metric => metric.load monitored.process.pipeline.metrics)

theorem scrapes_run :
    let machine := monitoredMachine sampleParse ⟨none, false, false⟩ (fun _ => none) 1 1 1
    ((machine.run machine.initial firstScrape).bind fun middle : Monitored 1 =>
      (machine.run middle secondScrape).map fun final =>
        (middle.summary, middle.requests[1]?, final.summary)) =
      some (([true, false], [1, 1, 1, 0, 0, 0, 0, 0, 0, 0, 0, 0]), some .reading,
        [true, true], [1, 1, 1, 0, 0, 0, 0, 0, 0, 0, 0, 0]) := by
  decide +kernel

theorem answered_of_summary {monitored : Monitored capacity} {index : Nat}
    (answered : monitored.summary.1[index]? = some true) :
    ∃ response, monitored.requests[index]? = some (.answered response) := by
  simp only [Monitored.summary, List.getElem?_map, Option.map_eq_some_iff] at answered
  obtain ⟨request, found, some⟩ := answered
  cases request with
  | answered response => exact ⟨response, found⟩
  | _ => simp [Request.response?] at some

/-- While nothing is counted a scrape is exact. -/
theorem scrapes_grow_exact : ∃ earlier later amounts amounts',
    Reads earlier amounts ∧ Reads later amounts' ∧ amounts .received ≤ 1 ∧
    amounts' .received = 1 ∧ amounts' .valid = 1 ∧ amounts' .parseFail = 0 := by
  obtain ⟨middle, reached, went⟩ := Option.bind_eq_some_iff.mp scrapes_run
  obtain ⟨final, ran, facts⟩ := Option.map_eq_some_iff.mp went
  obtain ⟨atMiddle, facts⟩ := Prod.mk.inj facts
  obtain ⟨reading, atFinal⟩ := Prod.mk.inj facts
  obtain ⟨earlier, answered⟩ : ∃ response, middle.requests[0]? = some (.answered response) :=
    answered_of_summary (by rw [atMiddle]; rfl)
  obtain ⟨later, answeredLater⟩ : ∃ response, final.requests[1]? = some (.answered response) :=
    answered_of_summary (by rw [atFinal]; rfl)
  have counted := congrArg Prod.snd atMiddle
  have countedLater := congrArg Prod.snd atFinal
  have bounded (metric : Metric) : metric.load final.process.pipeline.metrics < 2 ^ 64 := by
    have member : metric.load final.process.pipeline.metrics ∈ final.summary.2 :=
      List.mem_map_of_mem metric.mem_all
    rw [countedLater] at member
    simp only [List.mem_cons, List.not_mem_nil, or_false] at member
    omega
  obtain ⟨amounts, amounts', reads, reads', between⟩ :=
    scrapes_grow sampleParse ⟨none, false, false⟩ (fun _ => none) 1 1 reached ran answered
      (fun request found => Option.some.inj (found.symm.trans reading)) answeredLater bounded
  simp only [Monitored.summary, Metric.all, List.map_cons, List.map_nil, List.cons.injEq]
    at counted countedLater
  have received := between .received
  have failed := between .parseFail
  have valid := between .valid
  exact ⟨earlier, later, amounts, amounts', reads, reads', by omega, by omega, by omega, by omega⟩

end EventCollector
