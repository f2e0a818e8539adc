import EventCollector.KafkaCore
import EventCollector.Lib.Ledger

/-!
Accounting of `produce_to_kafka`. Every call is with its worker, was given up, or
has exactly one message in librdkafka; every message there waits, or its report
waits, or the callback has counted it, if the callback can count at all.
-/

namespace EventCollector

open Ledger

inductive KafkaMove (conf : KafkaConf) (system : KafkaSystem) :
    KafkaLabel → KafkaSystem → Prop
  | call {worker : Nat} {key data : Bytes} : system.workers[worker]? = some .idle →
      KafkaMove conf system (.call worker key data)
        ({ system with calls := system.calls + 1 }.place worker
          (.first ⟨system.calls, key, data, .metrics⟩))
  | enqueue {worker : Nat} {old : ProducePc} {message : KafkaMessage} :
      system.workers[worker]? = some old → old = .first message ∨ old = .second message →
      KafkaMove conf system (.produce worker true) (system.enqueue worker message)
  | refuseFirst {worker : Nat} {message : KafkaMessage} :
      system.workers[worker]? = some (.first message) →
      KafkaMove conf system (.produce worker false) (system.place worker (.polling message))
  | refuseSecond {worker : Nat} {message : KafkaMessage} :
      system.workers[worker]? = some (.second message) →
      KafkaMove conf system (.produce worker false) (system.place worker (.failing message))
  | outcome {place : Nat} {message : KafkaMessage} {delivered : Bool} :
      system.inFlight[place]? = some message →
      KafkaMove conf system (.outcome place delivered)
        { system with
          inFlight := system.inFlight.eraseIdx place
          reports := system.reports ++ [(message, delivered)] }
  | serve {thread : Option Nat} {message : KafkaMessage} {delivered : Bool}
      {rest : List (KafkaMessage × Bool)} : system.reports = (message, delivered) :: rest →
      KafkaMove conf system (.serve thread) (system.serve conf delivered rest)
  | pollReturns {worker : Nat} {message : KafkaMessage} :
      system.workers[worker]? = some (.polling message) →
      KafkaMove conf system (.pollReturns worker) (system.place worker (.second message))
  | countFail {worker : Nat} {message : KafkaMessage} :
      system.workers[worker]? = some (.failing message) →
      KafkaMove conf system (.countFail worker)
        ({ system with
          metrics.totalKafkaFail := system.metrics.totalKafkaFail + 1
          failed := system.failed ++ [message.call] }.place worker .idle)

theorem produce_move {conf : KafkaConf} {system next : KafkaSystem} {worker : Nat}
    {accepted : Bool} (acted : system.act conf (.produce worker accepted) = some next) :
    KafkaMove conf system (.produce worker accepted) next := by
  simp only [KafkaSystem.act] at acted
  split at acted
  · rename_i message found
    simp only [Option.some.injEq] at acted
    subst next
    cases accepted with
    | true => exact .enqueue found (Or.inl rfl)
    | false => exact .refuseFirst found
  · rename_i message found
    simp only [Option.some.injEq] at acted
    subst next
    cases accepted with
    | true => exact .enqueue found (Or.inr rfl)
    | false => exact .refuseSecond found
  · simp at acted

theorem act_move {conf : KafkaConf} {system next : KafkaSystem} {label : KafkaLabel}
    (acted : system.act conf label = some next) : KafkaMove conf system label next := by
  cases label with
  | produce worker accepted => exact produce_move acted
  | call worker key data =>
      simp only [KafkaSystem.act, Option.ite_none_right_eq_some, Option.some.injEq] at acted
      obtain ⟨idle, rfl⟩ := acted
      exact .call idle
  | outcome place delivered =>
      obtain ⟨message, found, rfl⟩ := Option.map_eq_some_iff.mp acted
      exact .outcome found
  | serve thread =>
      simp only [KafkaSystem.act] at acted
      split at acted
      · simp at acted
      · rename_i message delivered rest shape
        simp only [Option.ite_none_right_eq_some, Option.some.injEq] at acted
        obtain ⟨_, rfl⟩ := acted
        exact .serve shape
  | pollReturns worker =>
      simp only [KafkaSystem.act] at acted
      split at acted
      · rename_i message found
        simp only [Option.some.injEq] at acted
        subst next
        exact .pollReturns found
      · simp at acted
  | countFail worker =>
      simp only [KafkaSystem.act] at acted
      split at acted
      · rename_i message found
        simp only [Option.some.injEq] at acted
        subst next
        exact .countFail found
      · simp at acted

theorem kafkaStep_move {conf : KafkaConf} {system next : KafkaSystem} {label : KafkaLabel}
    (stepped : system.step conf label = some next) :
    system.crashed = false ∧ KafkaMove conf system label next := by
  simp only [KafkaSystem.step] at stepped
  split at stepped
  · simp at stepped
  · rename_i running
    exact ⟨by simpa using running, act_move stepped⟩

/-! Where each call is. -/

def ProducePc.holding : ProducePc → Multiset Nat
  | .idle => 0
  | .first message | .polling message | .second message | .failing message => {message.call}

structure Ledgered (system : KafkaSystem) : Prop where
  calls : bag (List.range system.calls) =
    bag system.enqueued + bag system.failed + tally ProducePc.holding system.workers
  counted : system.enqueued.length + system.failed.length =
    system.metrics.totalKafkaOk + system.metrics.totalKafkaFail + system.inFlight.length +
      system.reports.length

theorem ledgered_enqueue {system : KafkaSystem} {worker : Nat} {old : ProducePc}
    {message : KafkaMessage} (holds : Ledgered system)
    (found : system.workers[worker]? = some old)
    (has : old = .first message ∨ old = .second message) :
    Ledgered (system.enqueue worker message) := by
  have held : old.holding = {message.call} := by
    rcases has with rfl | rfl <;> rfl
  have counted := holds.counted
  constructor
  · refine account_set holds.calls found ?_
    rw [held]
    simp only [KafkaSystem.enqueue, KafkaSystem.place, bag_append, bag_singleton,
      ProducePc.holding, add_zero]
    ac_rfl
  · simp only [KafkaSystem.enqueue, KafkaSystem.place, List.length_append, List.length_singleton]
    omega

theorem ledgered_place {system : KafkaSystem} {worker : Nat} {old new : ProducePc}
    (holds : Ledgered system) (found : system.workers[worker]? = some old)
    (same : new.holding = old.holding) : Ledgered (system.place worker new) :=
  ⟨account_set holds.calls found (by rw [same]; rfl), holds.counted⟩

theorem ledgered_serve {system : KafkaSystem} {conf : KafkaConf} {message : KafkaMessage}
    {delivered : Bool} {rest : List (KafkaMessage × Bool)} (holds : Ledgered system)
    (front : system.reports = (message, delivered) :: rest)
    (alive : (system.serve conf delivered rest).crashed = false) (called : conf.drMsgCb = true) :
    Ledgered (system.serve conf delivered rest) := by
  have counted := holds.counted
  rw [front, List.length_cons] at counted
  cases target : conf.confOpaque with
  | null => simp [KafkaSystem.serve, called, target, drMsgCb] at alive
  | metrics =>
      cases delivered with
      | true =>
          simp only [KafkaSystem.serve, called, target, drMsgCb, if_true]
          exact ⟨holds.calls, by simp only; omega⟩
      | false =>
          simp only [KafkaSystem.serve, called, target, drMsgCb, if_true, Bool.false_eq_true,
            if_false]
          exact ⟨holds.calls, by simp only; omega⟩

theorem ledgered_step {conf : KafkaConf} {system next : KafkaSystem} {label : KafkaLabel}
    (holds : Ledgered system) (called : conf.drMsgCb = true)
    (alive : next.crashed = false) (moved : KafkaMove conf system label next) :
    Ledgered next := by
  have counted := holds.counted
  cases moved with
  | call idle =>
      refine ⟨account_set holds.calls idle ?_, counted⟩
      simp only [KafkaSystem.place, ProducePc.holding, List.range_succ, bag_append, bag_singleton,
        add_zero]
      ac_rfl
  | enqueue found has => exact ledgered_enqueue holds found has
  | refuseFirst found => exact ledgered_place holds found rfl
  | refuseSecond found => exact ledgered_place holds found rfl
  | pollReturns found => exact ledgered_place holds found rfl
  | outcome found =>
      obtain ⟨bound, -⟩ := List.getElem?_eq_some_iff.mp found
      refine ⟨holds.calls, ?_⟩
      simp only [List.length_eraseIdx_of_lt bound, List.length_append, List.length_singleton]
      omega
  | serve front => exact ledgered_serve holds front alive called
  | countFail found =>
      refine ⟨account_set holds.calls found ?_, ?_⟩
      · simp only [KafkaSystem.place, ProducePc.holding, bag_append, bag_singleton, add_zero]
        ac_rfl
      · simp only [KafkaSystem.place, List.length_append, List.length_singleton]
        omega

theorem ledgered_initial (conf : KafkaConf) (workers : Nat) :
    Ledgered (kafkaMachine conf workers).initial := by
  have nobody := tally_replicate_zero ProducePc.holding .idle rfl workers
  refine ⟨?_, rfl⟩
  simp [kafkaMachine, nobody]

/-! The accounting that the counters promise. -/

structure Accounted (system : KafkaSystem) : Prop where
  alive : system.crashed = false
  balance : (∀ pc ∈ system.workers, pc = .idle) → system.calls =
    system.metrics.totalKafkaOk + system.metrics.totalKafkaFail +
      (system.inFlight.length + system.reports.length)
  once : system.enqueued.Nodup

theorem accounted_of_ledgered {system : KafkaSystem} (holds : Ledgered system)
    (alive : system.crashed = false) : Accounted system := by
  refine ⟨alive, ?_, ?_⟩
  · intro idle
    have nobody : tally ProducePc.holding system.workers = 0 :=
      tally_eq_zero fun pc member => by rw [idle pc member]; rfl
    have settled := holds.calls
    rw [nobody, add_zero, ← bag_append] at settled
    have sizes := (bag_eq_bag.mp settled).length_eq
    have counted := holds.counted
    simp only [List.length_range, List.length_append] at sizes
    omega
  · have distinct : (bag (List.range system.calls)).Nodup := List.nodup_range
    rw [holds.calls, add_assoc] at distinct
    exact (Multiset.nodup_add.mp distinct).1

def KafkaLabel.serves : KafkaLabel → Bool
  | .serve _ => true
  | _ => false

theorem quiet_alive {conf : KafkaConf} {system next : KafkaSystem} {label : KafkaLabel}
    (running : system.crashed = false) (quiet : label.serves = false)
    (moved : KafkaMove conf system label next) : next.crashed = false := by
  cases moved with
  | serve _ => simp [KafkaLabel.serves] at quiet
  | _ => exact running

theorem serve_crashes {system next : KafkaSystem} {label : KafkaLabel}
    (serves : label.serves = true) (moved : KafkaMove processorConf system label next) :
    next.crashed = true := by
  cases moved with
  | serve _ => rfl
  | _ => simp [KafkaLabel.serves] at serves

theorem repaired_alive {system next : KafkaSystem} {label : KafkaLabel}
    (running : system.crashed = false)
    (moved : KafkaMove (rdKafkaConfSetOpaque processorConf .metrics) system label next) :
    next.crashed = false := by
  cases moved with
  | @serve _ _ delivered _ _ => cases delivered <;> exact running
  | _ => exact running

theorem repaired_step {system next : KafkaSystem} {label : KafkaLabel}
    (holds : Ledgered system ∧ system.crashed = false)
    (stepped : system.step (rdKafkaConfSetOpaque processorConf .metrics) label = some next) :
    Ledgered next ∧ next.crashed = false := by
  obtain ⟨ledgered, running⟩ := holds
  obtain ⟨-, moved⟩ := kafkaStep_move stepped
  have alive := repaired_alive running moved
  exact ⟨ledgered_step ledgered rfl alive moved, alive⟩

/-- With the configuration of the constructor the accounting holds along a run
exactly as long as no delivery report is served; with `rd_kafka_conf_set_opaque` it
holds along every run. -/
theorem kafka_accounted_unserved (workers : Nat) (labels : List KafkaLabel) :
    ((kafkaMachine processorConf workers).Always Accounted
        (kafkaMachine processorConf workers).initial labels ↔
      (kafkaMachine processorConf workers).Steps (fun _ label => label.serves = false)
        (kafkaMachine processorConf workers).initial labels) ∧
    (kafkaMachine (rdKafkaConfSetOpaque processorConf .metrics) workers).Always Accounted
      (kafkaMachine (rdKafkaConfSetOpaque processorConf .metrics) workers).initial labels := by
  constructor
  · refine Machine.always_iff_steps (fun system => Ledgered system ∧ system.crashed = false)
      (fun _ holds => accounted_of_ledgered holds.1 holds.2) ?_ ?_
      ⟨ledgered_initial processorConf workers, rfl⟩
    · rintro system label next ⟨holds, running⟩ quiet stepped
      obtain ⟨-, moved⟩ := kafkaStep_move stepped
      have alive := quiet_alive running quiet moved
      exact ⟨ledgered_step holds rfl alive moved, alive⟩
    · rintro system label next - served stepped accounted
      obtain ⟨-, moved⟩ := kafkaStep_move stepped
      have crashes := serve_crashes (by simpa using served) moved
      simp [accounted.alive] at crashes
  · exact Machine.always_of_invariant (fun system => Ledgered system ∧ system.crashed = false)
      (fun _ holds => accounted_of_ledgered holds.1 holds.2)
      (fun _ _ _ holds stepped => repaired_step holds stepped) ⟨ledgered_initial _ workers, rfl⟩

theorem kafka_accounted_unserved_retry : (kafkaMachine processorConf 1).Always Accounted
    (kafkaMachine processorConf 1).initial
    [.call 0 [117] [1], .produce 0 false, .pollReturns 0, .produce 0 true, .outcome 0 true,
      .call 0 [117] [2], .produce 0 false, .pollReturns 0, .produce 0 false, .countFail 0] :=
  (kafka_accounted_unserved 1 _).1.mpr (by decide)

/-- The first delivery report that a poll serves goes through a null pointer. -/
theorem kafka_report_crashes : ∃ system,
    (kafkaMachine processorConf 1).run (kafkaMachine processorConf 1).initial
      [.call 0 [117] [1], .produce 0 true, .outcome 0 true, .serve none] = some system ∧
    system.crashed = true ∧ system.calls = 1 ∧ system.metrics.totalKafkaOk = 0 ∧
    system.metrics.totalKafkaFail = 0 ∧ system.inFlight = [] ∧ system.reports = [] ∧
    ¬ Accounted system := by
  refine ⟨_, rfl, rfl, rfl, rfl, rfl, rfl, rfl, fun accounted => ?_⟩
  have alive := accounted.alive
  simp [kafkaMachine, KafkaSystem.serve, drMsgCb, processorConf, rdKafkaConfSetDrMsgCb,
    rdKafkaConfNew] at alive

end EventCollector
