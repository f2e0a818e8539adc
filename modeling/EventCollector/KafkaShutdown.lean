import EventCollector.Kafka
import Mathlib.Data.List.Perm.Basic

/-!
What `Processor::stop` does about Kafka, with every served report counted: the threads
are joined, the drain loop produces what is left, `rd_kafka_flush` serves reports until
none is outstanding or its ten seconds are over, and the rest is purged. As in
`KafkaCore`, `producer_` and `kafka_topic_` both exist.
-/

namespace EventCollector

open Ledger

/-- `draining` begins when the workers and the poll thread have been joined;
`produce_to_kafka` is then called by the drain loop. -/
inductive FlushPhase
  | running
  | draining
  | flushing
  | returned
  deriving DecidableEq

def FlushPhase.allows : FlushPhase → KafkaLabel → Bool
  | .running, _ => true
  | .draining, .serve none => false
  | .draining, _ => true
  -- the broker goes on answering, and the flush serves what has been answered
  | .flushing, .outcome _ _ => true
  | .flushing, .serve none => true
  | _, _ => false

inductive FlushError
  | noError
  | timedOut
  deriving DecidableEq

/-- `served` records the calls whose report has been given to `dr_msg_cb`. -/
structure KafkaShutdown where
  kafka : KafkaSystem
  served : List Nat
  phase : FlushPhase
  deriving DecidableEq

/-- `queued` are the calls whose messages a purge of the queue still finds there. -/
inductive KafkaShutdownLabel
  | kafka (label : KafkaLabel)
  | join
  | callFlush
  | flushReturns (queued : List Nat)
  deriving DecidableEq

def rdKafkaOutqLen (kafka : KafkaSystem) : Nat := kafka.inFlight.length + kafka.reports.length

def rdKafkaFlush (kafka : KafkaSystem) : FlushError :=
  if rdKafkaOutqLen kafka = 0 then .noError else .timedOut

/-- The purged messages get failed reports, which wait for a poll. -/
def rdKafkaPurge (queued : List Nat) (kafka : KafkaSystem) : KafkaSystem :=
  { kafka with
    inFlight := kafka.inFlight.filter fun message => message.call ∉ queued
    reports := kafka.reports ++
      (kafka.inFlight.filter fun message => message.call ∈ queued).map (·, false) }

namespace KafkaShutdown

def servedBy (kafka : KafkaSystem) : KafkaLabel → List Nat
  | .serve _ => (kafka.reports.take 1).map (·.1.call)
  | _ => []

def afterFlush (state : KafkaShutdown) (queued : List Nat) : KafkaShutdown :=
  match rdKafkaFlush state.kafka with
  | .noError => { state with phase := .returned }
  | .timedOut => { state with kafka := rdKafkaPurge queued state.kafka, phase := .returned }

def step (state : KafkaShutdown) : KafkaShutdownLabel → Option KafkaShutdown
  | .kafka label =>
      if state.phase.allows label then
        (state.kafka.step countingConf label).map fun kafka =>
          { state with kafka := kafka, served := state.served ++ servedBy state.kafka label }
      else none
  | .join =>
      if state.phase = .running ∧ ∀ pc ∈ state.kafka.workers, pc = .idle then
        some { state with phase := .draining }
      else none
  | .callFlush =>
      if state.phase = .draining ∧ ∀ pc ∈ state.kafka.workers, pc = .idle then
        some { state with phase := .flushing }
      else none
  | .flushReturns queued =>
      if state.phase = .flushing then some (state.afterFlush queued) else none

end KafkaShutdown

def kafkaShutdownMachine (workers : Nat) : Machine KafkaShutdown KafkaShutdownLabel where
  initial := ⟨(kafkaMachine countingConf workers).initial, [], .running⟩
  step := KafkaShutdown.step

/-- Every call was given up or had its report served, and the two counters say so. -/
structure CountedOnce (state : KafkaShutdown) : Prop where
  once : bag (List.range state.kafka.calls) = bag (state.kafka.failed ++ state.served)
  counted : state.kafka.metrics.totalKafkaOk + state.kafka.metrics.totalKafkaFail =
    state.kafka.calls

def Settled (state : KafkaShutdown) : Prop := state.phase = .returned → CountedOnce state

/-- `rd_kafka_flush` returns with nothing outstanding. -/
def FlushCompletes (state : KafkaShutdown) : KafkaShutdownLabel → Prop
  | .flushReturns _ => rdKafkaFlush state.kafka = .noError
  | _ => True

instance (state : KafkaShutdown) : (label : KafkaShutdownLabel) →
    Decidable (FlushCompletes state label)
  | .flushReturns _ => inferInstanceAs (Decidable (_ = _))
  | .kafka _ | .join | .callFlush => isTrue trivial

/-! Where the reports are. -/

def Traced (kafka : KafkaSystem) (served : List Nat) : Prop :=
  bag kafka.enqueued = bag served + bag (kafka.inFlight.map KafkaMessage.call) +
    bag (kafka.reports.map fun report => report.1.call)

theorem traced_outcome {kafka : KafkaSystem} {served : List Nat} {place : Nat}
    {message : KafkaMessage} {delivered : Bool} (holds : Traced kafka served)
    (found : kafka.inFlight[place]? = some message) :
    Traced { kafka with
      inFlight := kafka.inFlight.eraseIdx place
      reports := kafka.reports ++ [(message, delivered)] } served := by
  obtain ⟨bound, rfl⟩ := List.getElem?_eq_some_iff.mp found
  have moved : bag (kafka.inFlight.map KafkaMessage.call) =
      bag [kafka.inFlight[place].call] +
        bag ((kafka.inFlight.eraseIdx place).map KafkaMessage.call) := by
    rw [← bag_append, bag_eq_bag]
    exact ((List.getElem_cons_eraseIdx_perm bound).map KafkaMessage.call).symm
  unfold Traced at holds ⊢
  simp only [holds, moved, List.map_append, List.map_singleton, bag_append]
  ac_rfl

theorem traced_serve {kafka : KafkaSystem} {served : List Nat} {message : KafkaMessage}
    {delivered : Bool} {rest : List (KafkaMessage × Bool)} (holds : Traced kafka served)
    (front : kafka.reports = (message, delivered) :: rest) :
    Traced (kafka.serve countingConf delivered rest) (served ++ [message.call]) := by
  have split : bag (kafka.reports.map fun report => report.1.call) =
      bag [message.call] + bag (rest.map fun report => report.1.call) := by
    rw [front, ← bag_append]
    rfl
  have frame : (kafka.serve countingConf delivered rest).enqueued = kafka.enqueued ∧
      (kafka.serve countingConf delivered rest).inFlight = kafka.inFlight ∧
      (kafka.serve countingConf delivered rest).reports = rest := by
    cases delivered <;> exact ⟨rfl, rfl, rfl⟩
  unfold Traced at holds ⊢
  rw [frame.1, frame.2.1, frame.2.2, holds, split, bag_append]
  ac_rfl

theorem traced_step {kafka next : KafkaSystem} {label : KafkaLabel} {served : List Nat}
    (holds : Traced kafka served) (moved : KafkaMove countingConf kafka label next) :
    Traced next (served ++ KafkaShutdown.servedBy kafka label) := by
  cases moved with
  | outcome found =>
      simp only [KafkaShutdown.servedBy, List.append_nil]
      exact traced_outcome holds found
  | serve front =>
      simp only [KafkaShutdown.servedBy, front]
      exact traced_serve holds front
  | enqueue found has =>
      unfold Traced at holds ⊢
      simp only [KafkaShutdown.servedBy, KafkaSystem.enqueue, KafkaSystem.place, bag_append,
        List.append_nil, List.map_append, holds, List.map_singleton]
      ac_rfl
  | call idle => simpa [Traced, KafkaShutdown.servedBy, KafkaSystem.place] using holds
  | refuseFirst found => simpa [Traced, KafkaShutdown.servedBy, KafkaSystem.place] using holds
  | refuseSecond found => simpa [Traced, KafkaShutdown.servedBy, KafkaSystem.place] using holds
  | pollReturns found => simpa [Traced, KafkaShutdown.servedBy, KafkaSystem.place] using holds
  | countFail found => simpa [Traced, KafkaShutdown.servedBy, KafkaSystem.place] using holds

/-! What holds all along, and what it gives once the threads are idle. -/

structure Stopping (state : KafkaShutdown) : Prop where
  ledgered : Ledgered state.kafka
  alive : state.kafka.crashed = false
  traced : Traced state.kafka state.served
  idle : state.phase = .flushing ∨ state.phase = .returned →
    ∀ pc ∈ state.kafka.workers, pc = .idle
  returned : state.phase = .returned → rdKafkaOutqLen state.kafka = 0

/-- Every call is counted, or librdkafka still owes its report. -/
theorem calls_balance {state : KafkaShutdown} (stopping : Stopping state)
    (idle : ∀ pc ∈ state.kafka.workers, pc = .idle) : state.kafka.calls =
      state.kafka.metrics.totalKafkaOk + state.kafka.metrics.totalKafkaFail +
        rdKafkaOutqLen state.kafka :=
  (accounted_of_ledgered stopping.ledgered stopping.alive).balance idle

theorem calls_settled {state : KafkaShutdown} (stopping : Stopping state)
    (idle : ∀ pc ∈ state.kafka.workers, pc = .idle) (flushed : rdKafkaOutqLen state.kafka = 0) :
    CountedOnce state := by
  have balance := calls_balance stopping idle
  have nobody : tally ProducePc.holding state.kafka.workers = 0 :=
    tally_eq_zero fun pc member => by rw [idle pc member]; rfl
  have noneFlying : state.kafka.inFlight = [] := by
    apply List.length_eq_zero_iff.mp
    unfold rdKafkaOutqLen at flushed
    omega
  have noReports : state.kafka.reports = [] := by
    apply List.length_eq_zero_iff.mp
    unfold rdKafkaOutqLen at flushed
    omega
  have traced := stopping.traced
  simp only [Traced, noneFlying, noReports, List.map_nil, bag_nil, add_zero] at traced
  refine ⟨?_, by omega⟩
  rw [stopping.ledgered.calls, nobody, add_zero, traced, bag_append, add_comm]

theorem stopping_kafka {state : KafkaShutdown} {label : KafkaLabel} {next : KafkaSystem}
    (stopping : Stopping state) (allowed : state.phase.allows label = true)
    (stepped : state.kafka.step countingConf label = some next) :
    Stopping { state with
      kafka := next, served := state.served ++ KafkaShutdown.servedBy state.kafka label } := by
  obtain ⟨ledgered, alive⟩ := repaired_step ⟨stopping.ledgered, stopping.alive⟩ stepped
  obtain ⟨-, moved⟩ := kafkaStep_move stepped
  refine ⟨ledgered, alive, traced_step stopping.traced moved, ?_, ?_⟩
  · rintro (flushing | returned)
    · change state.phase = .flushing at flushing
      rw [flushing] at allowed
      have same : next.workers = state.kafka.workers := by
        cases moved with
        | outcome _ => rfl
        | @serve _ _ delivered _ _ => cases delivered <;> rfl
        | _ => exact absurd allowed Bool.false_ne_true
      exact same ▸ stopping.idle (Or.inl flushing)
    · change state.phase = .returned at returned
      rw [returned] at allowed
      exact absurd allowed Bool.false_ne_true
  · intro returned
    change state.phase = .returned at returned
    rw [returned] at allowed
    exact absurd allowed Bool.false_ne_true

theorem rdKafkaFlush_noError (kafka : KafkaSystem) :
    rdKafkaFlush kafka = .noError ↔ rdKafkaOutqLen kafka = 0 := by
  unfold rdKafkaFlush
  by_cases empty : rdKafkaOutqLen kafka = 0
  · simp [empty]
  · simp [empty]

theorem stopping_step {state next : KafkaShutdown} {label : KafkaShutdownLabel} {workers : Nat}
    (stopping : Stopping state) (completes : FlushCompletes state label)
    (stepped : (kafkaShutdownMachine workers).step state label = some next) : Stopping next := by
  cases label with
  | kafka label =>
      simp only [kafkaShutdownMachine, KafkaShutdown.step, Option.ite_none_right_eq_some,
        Option.map_eq_some_iff] at stepped
      obtain ⟨allowed, kafka, moved, rfl⟩ := stepped
      exact stopping_kafka stopping allowed moved
  | join =>
      simp only [kafkaShutdownMachine, KafkaShutdown.step, Option.ite_none_right_eq_some,
        Option.some.injEq] at stepped
      obtain ⟨-, rfl⟩ := stepped
      exact ⟨stopping.ledgered, stopping.alive, stopping.traced, by simp, by simp⟩
  | callFlush =>
      simp only [kafkaShutdownMachine, KafkaShutdown.step, Option.ite_none_right_eq_some,
        Option.some.injEq] at stepped
      obtain ⟨⟨-, idle⟩, rfl⟩ := stepped
      exact ⟨stopping.ledgered, stopping.alive, stopping.traced, fun _ => idle, by simp⟩
  | flushReturns queued =>
      simp only [kafkaShutdownMachine, KafkaShutdown.step, Option.ite_none_right_eq_some,
        Option.some.injEq] at stepped
      obtain ⟨flushing, rfl⟩ := stepped
      have flushed : rdKafkaFlush state.kafka = .noError := completes
      simp only [KafkaShutdown.afterFlush, flushed]
      exact ⟨stopping.ledgered, stopping.alive, stopping.traced,
        fun _ => stopping.idle (Or.inl flushing), fun _ => (rdKafkaFlush_noError _).mp flushed⟩

theorem settled_of_stopping {state : KafkaShutdown} (stopping : Stopping state) :
    Settled state := fun returned =>
  calls_settled stopping (stopping.idle (Or.inr returned)) (stopping.returned returned)

/-- The purge only moves messages to the reports, which nobody serves any more. -/
theorem timeout_unsettled {state : KafkaShutdown} {queued : List Nat}
    (stopping : Stopping state) (flushing : state.phase = .flushing)
    (timedOut : rdKafkaFlush state.kafka ≠ .noError) : ¬ Settled (state.afterFlush queued) := by
  intro settled
  have balance := calls_balance stopping (stopping.idle (Or.inl flushing))
  have outstanding := (rdKafkaFlush_noError state.kafka).not.mp timedOut
  have result : rdKafkaFlush state.kafka = .timedOut := if_neg outstanding
  simp only [KafkaShutdown.afterFlush, result] at settled
  have counted := (settled rfl).counted
  simp only [rdKafkaPurge] at counted
  omega

theorem stopping_initial (workers : Nat) : Stopping (kafkaShutdownMachine workers).initial :=
  ⟨ledgered_initial countingConf workers, rfl, rfl, by simp [kafkaShutdownMachine],
    by simp [kafkaShutdownMachine]⟩

/-- Along a run every call is counted once when `stop()` has returned exactly when
`rd_kafka_flush` returns with nothing outstanding. -/
theorem kafkaShutdown_settles (workers : Nat) (labels : List KafkaShutdownLabel) :
    (kafkaShutdownMachine workers).Always Settled (kafkaShutdownMachine workers).initial labels ↔
      (kafkaShutdownMachine workers).Steps FlushCompletes
        (kafkaShutdownMachine workers).initial labels := by
  refine Machine.always_iff_steps Stopping (fun _ => settled_of_stopping)
    (fun state label next => stopping_step) ?_ (stopping_initial workers)
  intro state label next stopping fails stepped
  cases label with
  | flushReturns queued =>
      simp only [kafkaShutdownMachine, KafkaShutdown.step, Option.ite_none_right_eq_some,
        Option.some.injEq] at stepped
      obtain ⟨flushing, rfl⟩ := stepped
      exact timeout_unsettled stopping flushing fails
  | _ => exact absurd trivial fails

/-- Two messages in flight when the ten seconds are over, one of them still queued:
the purge fails it, and no poll tells. -/
theorem purge_uncounted : ∃ state,
    (kafkaShutdownMachine 1).run (kafkaShutdownMachine 1).initial
      [.kafka (.call 0 [117] [1]), .kafka (.produce 0 true), .kafka (.call 0 [117] [2]),
        .kafka (.produce 0 true), .join, .callFlush, .flushReturns [1]] = some state ∧
    state.phase = .returned ∧ state.kafka.calls = 2 ∧ state.kafka.metrics.totalKafkaOk = 0 ∧
    state.kafka.metrics.totalKafkaFail = 0 ∧ ¬ Settled state := by
  refine ⟨_, rfl, rfl, rfl, rfl, rfl, fun settled => ?_⟩
  have counted := (settled rfl).counted
  revert counted
  decide

end EventCollector
