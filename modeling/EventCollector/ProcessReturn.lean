import EventCollector.ExactlyOnce
import EventCollector.Lib.Progress
import EventCollector.Process

/-!
`stop()` and the destructors come to an end. Every place in the code is given the effort
that the way from there costs at most, the events still queued and the records still
buffered included; once `stop()` is called every step is paid for, except the rounds of
the flush thread that find nothing to flush.
-/

namespace EventCollector

open Ledger

variable {capacity : Nat}

/-! The storage. -/

def StorageRole.effort : StorageRole → Nat
  | .caller => 0
  | .flusher => 1

def StoragePc.effort : StoragePc → Nat
  | .idle | .exited => 0
  | .check | .asleep => 1
  | .swapped role _ => 8 + role.effort
  | .trying role _ retry => 3 + 2 * (2 - retry) + role.effort
  | .inserting role _ retry => 2 + 2 * (2 - retry) + role.effort
  | .inserted role _ | .deadLetter role _ => 1 + role.effort

/-- A buffered record may still be the one that fills a batch. -/
def StorageSystem.effort (system : StorageSystem) : Nat :=
  9 * system.buffer.length + tally StoragePc.effort system.threads

/-- The flush thread between two flushes, with nothing to flush when it wakes up. -/
def StorageSystem.rests (system : StorageSystem) : StoragePc → Bool
  | .check => true
  | .asleep => system.buffer.isEmpty
  | _ => false

section

variable (role : StorageRole) (batch : List Bytes) (retry : Nat)

@[simp] theorem effort_idle : StoragePc.idle.effort = 0 := rfl
@[simp] theorem effort_exited : StoragePc.exited.effort = 0 := rfl
@[simp] theorem effort_check : StoragePc.check.effort = 1 := rfl
@[simp] theorem effort_asleep : StoragePc.asleep.effort = 1 := rfl
@[simp] theorem effort_swapped : (StoragePc.swapped role batch).effort = 8 + role.effort := rfl
@[simp] theorem effort_trying :
    (StoragePc.trying role batch retry).effort = 3 + 2 * (2 - retry) + role.effort := rfl
@[simp] theorem effort_inserting :
    (StoragePc.inserting role batch retry).effort = 2 + 2 * (2 - retry) + role.effort := rfl
@[simp] theorem effort_inserted : (StoragePc.inserted role batch).effort = 1 + role.effort := rfl
@[simp] theorem effort_deadLetter :
    (StoragePc.deadLetter role batch).effort = 1 + role.effort := rfl

end

@[simp] theorem resume_effort (role : StorageRole) : role.resume.effort = role.effort := by
  cases role <;> rfl

theorem place_effort {system : StorageSystem} {thread : Nat} {old : StoragePc} (new : StoragePc)
    (found : system.threads[thread]? = some old) :
    (system.place thread new).effort + old.effort = system.effort + new.effort := by
  have exchanged := tally_set StoragePc.effort new found
  simp only [StorageSystem.effort, StorageSystem.place]
  omega

theorem swap_effort {system : StorageSystem} {thread : Nat} {old : StoragePc} {role : StorageRole}
    (found : system.threads[thread]? = some old) (same : old.effort = role.effort) :
    (system.swap thread role).effort + 9 * system.buffer.length = system.effort + 8 := by
  have exchanged := tally_set StoragePc.effort (.swapped role system.buffer) found
  rw [effort_swapped] at exchanged
  simp only [StorageSystem.effort, StorageSystem.swap, StorageSystem.place, List.length_nil]
  omega

theorem takeAll_effort {system : StorageSystem} {thread : Nat} {old : StoragePc}
    {role : StorageRole} (found : system.threads[thread]? = some old)
    (same : old.effort = role.effort) :
    (system.takeAll thread role).effort ≤ system.effort ∧
      (system.buffer ≠ [] → (system.takeAll thread role).effort < system.effort) := by
  unfold StorageSystem.takeAll
  split
  · rename_i empty
    have placed := place_effort role.resume found
    rw [resume_effort] at placed
    exact ⟨by omega, fun filled => absurd (List.isEmpty_iff.mp empty) filled⟩
  · rename_i filled
    have swapped := swap_effort found same
    have positive : 0 < system.buffer.length := by
      refine List.length_pos_of_ne_nil fun empty => ?_
      simp [empty] at filled
    exact ⟨by omega, fun _ => by omega⟩

theorem advance_effort {system next : StorageSystem} {thread : Nat} {outcome : Bool}
    {pc : StoragePc} (found : system.threads[thread]? = some pc)
    (stepped : system.step (.advance thread outcome) = some next) :
    next.effort + (if system.rests pc then 0 else 1) ≤ system.effort := by
  obtain ⟨old, place, advanced⟩ := Option.bind_eq_some_iff.mp stepped
  obtain rfl : pc = old := Option.some.inj (found.symm.trans place)
  have placed (new : StoragePc) := place_effort new found
  cases pc with
  | idle => simp [StorageSystem.advance] at advanced
  | exited => simp [StorageSystem.advance] at advanced
  | check =>
      obtain rfl := Option.some.inj advanced
      simp only [StorageSystem.rests, if_true, Nat.add_zero]
      split
      · have bound := placed .asleep
        simp only [effort_check, effort_asleep] at bound
        omega
      · have bound := placed .exited
        simp only [effort_check, effort_exited] at bound
        omega
  | asleep =>
      obtain rfl := Option.some.inj advanced
      obtain ⟨kept, lower⟩ : (system.takeAll thread .flusher).effort ≤ system.effort ∧
          (system.buffer ≠ [] → (system.takeAll thread .flusher).effort < system.effort) :=
        takeAll_effort found rfl
      by_cases empty : system.buffer = []
      · simpa [StorageSystem.rests, empty] using kept
      · simpa [StorageSystem.rests, empty] using Nat.succ_le_of_lt (lower empty)
  | swapped role batch =>
      obtain rfl := Option.some.inj advanced
      change (system.place thread _).effort + 1 ≤ system.effort
      split
      · have bound := placed role.resume
        simp only [effort_swapped, resume_effort] at bound
        omega
      · have bound := placed (.trying role batch 0)
        simp only [effort_swapped, effort_trying] at bound
        omega
  | trying role batch retry =>
      obtain rfl := Option.some.inj advanced
      have bound := placed (.inserting role batch retry)
      simp only [effort_trying, effort_inserting] at bound
      change (system.place thread _).effort + 1 ≤ system.effort
      omega
  | inserting role batch retry =>
      obtain rfl := Option.some.inj advanced
      change (system.place thread _).effort + 1 ≤ system.effort
      split
      · have bound := placed (.inserted role batch)
        simp only [effort_inserting, effort_inserted] at bound
        omega
      · split
        · have bound := placed (.trying role batch (retry + 1))
          simp only [effort_inserting, effort_trying] at bound
          omega
        · have bound := placed (.deadLetter role batch)
          simp only [effort_inserting, effort_deadLetter] at bound
          omega
  | inserted role batch =>
      obtain rfl := Option.some.inj advanced
      have bound := placed role.resume
      simp only [effort_inserted, resume_effort] at bound
      change (system.place thread _).effort + 1 ≤ system.effort
      omega
  | deadLetter role batch =>
      obtain rfl := Option.some.inj advanced
      have bound := placed role.resume
      simp only [effort_deadLetter, resume_effort] at bound
      change (system.place thread _).effort + 1 ≤ system.effort
      omega

theorem save_effort {system next : StorageSystem} {thread : Nat} {record : Bytes}
    (stepped : system.step (.save thread record) = some next) :
    next.effort ≤ system.effort + 9 := by
  simp only [StorageSystem.step, Option.ite_none_right_eq_some] at stepped
  obtain ⟨⟨-, found⟩, stepped⟩ := stepped
  have grown : (system.push record).effort = system.effort + 9 := by
    simp only [StorageSystem.effort, StorageSystem.push, List.length_append,
      List.length_singleton]
    omega
  split at stepped
  · obtain rfl := Option.some.inj stepped
    omega
  · obtain rfl := Option.some.inj stepped
    have pushed : (system.push record).threads[thread]? = some .idle := found
    have swapped : ((system.push record).swap thread .caller).effort +
        9 * (system.push record).buffer.length = (system.push record).effort + 8 :=
      swap_effort pushed rfl
    have filled : (system.push record).buffer.length = system.buffer.length + 1 := by
      rw [push_buffer, List.length_append, List.length_singleton]
    omega

/-! Kafka: a message still has to be answered and its report to be served. -/

def ProducePc.effort : ProducePc → Nat
  | .idle => 0
  | .first _ => 5
  | .polling _ => 4
  | .second _ => 3
  | .failing _ => 1

def KafkaSystem.effort (kafka : KafkaSystem) : Nat :=
  tally ProducePc.effort kafka.workers + 2 * kafka.inFlight.length + kafka.reports.length

theorem kafkaPlace_effort {kafka : KafkaSystem} {worker : Nat} {old : ProducePc} (new : ProducePc)
    (found : kafka.workers[worker]? = some old) :
    (kafka.place worker new).effort + old.effort = kafka.effort + new.effort := by
  have exchanged := tally_set ProducePc.effort new found
  simp only [KafkaSystem.effort, KafkaSystem.place]
  omega

theorem kafkaMove_effort {conf : KafkaConf} {kafka next : KafkaSystem} {label : KafkaLabel}
    (silent : ∀ worker key data, label ≠ .call worker key data)
    (moved : KafkaMove conf kafka label next) : next.effort < kafka.effort := by
  cases moved with
  | call _ => exact absurd rfl (silent _ _ _)
  | @enqueue worker old message found has =>
      have placed := kafkaPlace_effort .idle found
      have grown : (kafka.enqueue worker message).effort =
          (kafka.place worker .idle).effort + 2 := by
        simp only [KafkaSystem.effort, KafkaSystem.enqueue, KafkaSystem.place, List.length_append,
          List.length_singleton]
        omega
      have paid : 3 ≤ old.effort := by
        rcases has with rfl | rfl <;> simp [ProducePc.effort]
      rw [show ProducePc.idle.effort = 0 from rfl] at placed
      omega
  | @refuseFirst worker message found =>
      have placed := kafkaPlace_effort (.polling message) found
      simp only [ProducePc.effort] at placed
      omega
  | @refuseSecond worker message found =>
      have placed := kafkaPlace_effort (.failing message) found
      simp only [ProducePc.effort] at placed
      omega
  | @pollReturns worker message found =>
      have placed := kafkaPlace_effort (.second message) found
      simp only [ProducePc.effort] at placed
      omega
  | @countFail worker message found =>
      have placed := kafkaPlace_effort .idle found
      simp only [ProducePc.effort] at placed
      change (kafka.place worker .idle).effort < kafka.effort
      omega
  | outcome found =>
      obtain ⟨bound, -⟩ := List.getElem?_eq_some_iff.mp found
      simp only [KafkaSystem.effort, List.length_eraseIdx_of_lt bound, List.length_append,
        List.length_singleton]
      omega
  | @serve _ message delivered rest front =>
      have same : (kafka.serve conf delivered rest).effort =
          tally ProducePc.effort kafka.workers + 2 * kafka.inFlight.length + rest.length := by
        unfold KafkaSystem.serve
        split
        · split <;> rfl
        · rfl
      have shrunk := congrArg List.length front
      rw [List.length_cons] at shrunk
      rw [same]
      simp only [KafkaSystem.effort]
      omega

theorem kafkaCall_effort {conf : KafkaConf} {kafka next : KafkaSystem} {worker : Nat}
    {key data : Bytes} (moved : KafkaMove conf kafka (.call worker key data) next) :
    next.effort = kafka.effort + 5 := by
  cases moved with
  | call idle =>
      have placed := kafkaPlace_effort (.first ⟨kafka.calls, key, data, .metrics⟩) idle
      simp only [ProducePc.effort] at placed
      change (kafka.place worker _).effort = kafka.effort + 5
      omega

theorem flushKafka_effort (queued : List Nat) (kafka : KafkaSystem) :
    (flushKafka queued kafka).effort ≤ kafka.effort := by
  have outstanding := flushKafka_outqLen queued kafka
  have fewer : (flushKafka queued kafka).inFlight.length ≤ kafka.inFlight.length := by
    unfold flushKafka
    split
    · exact Nat.le_refl _
    · exact List.length_filter_le ..
  have same := flushKafka_workers queued kafka
  simp only [rdKafkaOutqLen] at outstanding
  simp only [KafkaSystem.effort, same]
  omega

/-! The workers and the queue. -/

def WorkerPc.effort : WorkerPc → Nat
  | .exited => 0
  | .check => 1
  | .popping | .limited _ _ => 2
  | .produced _ _ => 11
  | .allowed _ _ => 17
  | .valid _ _ => 18
  | .parsed _ _ => 19
  | .received _ => 20
  | .popped _ => 21

/-- What a back end may have to do after this step. -/
def WorkerPc.handsOn : WorkerPc → Nat
  | .allowed _ _ => 5
  | .produced _ _ => 9
  | _ => 0

def System.effort (system : System capacity) : Nat :=
  20 * system.shared.queue.items.length + tally WorkerPc.effort system.workers +
    system.sessions.countP SessionPc.isDropping

theorem callKafka_effort {deployment : Deployment} {index : Nat} {pc : WorkerPc}
    {kafka next : KafkaSystem}
    (called : Pipeline.callKafka deployment index pc kafka = some next) :
    next.effort ≤ kafka.effort + pc.handsOn := by
  unfold Pipeline.callKafka at called
  split at called
  · exact Nat.le_of_eq (kafkaCall_effort (kafkaStep_move called).2)
  · exact Option.some.inj called ▸ Nat.le_add_right _ _

theorem callStorage_effort {deployment : Deployment} {index : Nat} {pc : WorkerPc}
    {storage next : StorageSystem}
    (called : Pipeline.callStorage deployment index pc storage = some next) :
    next.effort ≤ storage.effort + pc.handsOn := by
  unfold Pipeline.callStorage at called
  split at called
  · exact save_effort called
  · exact Option.some.inj called ▸ Nat.le_add_right _ _

/-- A worker hands on to one back end at a time. -/
theorem called_effort {deployment : Deployment} {index : Nat} {pc : WorkerPc}
    {kafka kafka' : KafkaSystem} {storage storage' : StorageSystem}
    (called : Pipeline.callKafka deployment index pc kafka = some kafka')
    (saved : Pipeline.callStorage deployment index pc storage = some storage') :
    kafka'.effort + storage'.effort ≤ kafka.effort + storage.effort + pc.handsOn := by
  have kafkaBound := callKafka_effort called
  have storageBound := callStorage_effort saved
  cases pc with
  | allowed message evt =>
      obtain rfl := callStorage_elsewhere (by simp) saved
      omega
  | produced message evt =>
      obtain rfl := callKafka_elsewhere (by simp) called
      omega
  | _ =>
      simp only [WorkerPc.handsOn, Nat.add_zero] at kafkaBound storageBound ⊢
      omega

/-! The whole process. -/

def MainPc.effort : MainPc → Nat
  | .serving => 10
  | .joining => 9
  | .draining => 8
  | .saving _ _ => 18
  | .drained => 7
  | .storageFlush => 6
  | .kafkaFlush => 5
  | .stopped => 4
  | .joiningFlusher => 3
  | .flusherJoined => 2
  | .lastFlush => 1
  | .exited => 0

def Pipeline.effort (pipeline : Pipeline capacity) : Nat :=
  pipeline.system.effort + pipeline.kafka.effort + pipeline.storage.effort

def Process.effort (process : Process capacity) : Nat :=
  process.main.effort + process.pipeline.effort

/-- The flush thread looks at `running_`, or wakes up to an empty buffer. -/
def Process.rests (process : Process capacity) : ProcessLabel → Bool
  | .thread _ (.storage thread _) =>
      (process.pipeline.storage.threads[thread]?).any process.pipeline.storage.rests
  | _ => false

/-- A step counts unless the flush thread rests. -/
def Process.works (process : Process capacity) (label : ProcessLabel) : Nat :=
  if process.rests label then 0 else 1

section

variable {parse : Bytes → Option Event} {deployment : Deployment}

theorem drop_effort {system next : System capacity} {session : Nat}
    (dropped : system.drop session = some next) : next.effort < system.effort := by
  simp only [System.drop, Option.ite_none_right_eq_some, Option.some.injEq] at dropped
  obtain ⟨dropping, rfl⟩ := dropped
  have fewer := countP_set SessionPc.isDropping .reading dropping
  simp only [indicator, SessionPc.isDropping, if_true, Bool.false_eq_true, if_false] at fewer
  simp only [System.effort]
  omega

theorem drain_effort {config : Config} {clock : Int} {system next : System capacity}
    (stepped : system.step config (.drain clock) = some next) :
    next.effort ≤ system.effort ∧
      (system.shared.queue.items ≠ [] → next.effort + 20 ≤ system.effort) := by
  obtain ⟨-, ⟨empty, rfl⟩ | ⟨message, shared, queue, front, rfl, moved⟩⟩ := drain_cases stepped
  · exact ⟨Nat.le_refl _, fun filled => absurd empty filled⟩
  · have left : shared.queue = queue := congrArg AtomicQueue.queue (drainMove_view moved)
    have shrunk := congrArg List.length front
    rw [List.length_cons] at shrunk
    simp only [System.effort, left]
    exact ⟨by omega, fun _ => by omega⟩

theorem mainStorage_effort {process : Process capacity} {label : StorageLabel}
    {storage : StorageSystem} (notSave : ∀ thread record, label ≠ .save thread record)
    (notAdvance : ∀ thread outcome, label ≠ .advance thread outcome)
    (stepped : process.pipeline.storage.step label = some storage) :
    storage.effort ≤ process.pipeline.storage.effort := by
  cases label with
  | save thread record => exact absurd rfl (notSave thread record)
  | advance thread outcome => exact absurd rfl (notAdvance thread outcome)
  | flushAndStop thread =>
      simp only [StorageSystem.step, Option.ite_none_right_eq_some, Option.some.injEq] at stepped
      obtain ⟨⟨-, found⟩, rfl⟩ := stepped
      exact (takeAll_effort found rfl).1
  | lastFlush thread =>
      simp only [StorageSystem.step, Option.ite_none_right_eq_some, Option.some.injEq] at stepped
      obtain ⟨⟨-, found⟩, rfl⟩ := stepped
      have lower : (process.pipeline.storage.takeAll thread .caller).effort ≤
          process.pipeline.storage.effort := (takeAll_effort found rfl).1
      exact lower
  | _ =>
      simp only [StorageSystem.step, Option.ite_none_right_eq_some, Option.some.injEq] at stepped
      obtain ⟨-, rfl⟩ := stepped
      exact Nat.le_refl _

theorem mainMove_effort {input : MainInput} {process : Process capacity}
    {pipeline : Pipeline capacity} {old new : MainPc}
    (moved : MainMove parse deployment input process old pipeline new) :
    new.effort + pipeline.effort < old.effort + process.pipeline.effort := by
  simp only [Pipeline.effort]
  cases moved with
  | callStop stepped =>
      simp only [System.step, Option.ite_none_right_eq_some, Option.some.injEq] at stepped
      obtain ⟨-, rfl⟩ := stepped
      simp only [MainPc.effort, System.effort]
      omega
  | join _ stepped =>
      simp only [System.step, Option.ite_none_right_eq_some, Option.some.injEq] at stepped
      obtain ⟨-, rfl⟩ := stepped
      simp only [MainPc.effort, System.effort]
      omega
  | drainEnds _ _ stepped =>
      have lower := (drain_effort stepped).1
      simp only [MainPc.effort]
      omega
  | drainStops _ front _ stepped =>
      have lower := (drain_effort stepped).2 (by simp [front])
      simp only [MainPc.effort]
      omega
  | drainPasses _ front _ stepped called =>
      have lower := (drain_effort stepped).2 (by simp [front])
      have bound := callKafka_effort called
      simp only [MainPc.effort, WorkerPc.handsOn] at bound ⊢
      omega
  | save _ called =>
      have bound := callStorage_effort called
      simp only [MainPc.effort, WorkerPc.handsOn] at bound ⊢
      omega
  | flushReturns =>
      have bound := flushKafka_effort input.queued process.pipeline.kafka
      simp only [MainPc.effort]
      omega
  | flushStorage _ _ stepped =>
      have bound := mainStorage_effort (by simp) (by simp) stepped
      simp only [MainPc.effort]
      omega
  | destroy _ stepped =>
      have bound := mainStorage_effort (by simp) (by simp) stepped
      simp only [MainPc.effort]
      omega
  | joinFlusher stepped =>
      have bound := mainStorage_effort (by simp) (by simp) stepped
      simp only [MainPc.effort]
      omega
  | lastFlush stepped =>
      have bound := mainStorage_effort (by simp) (by simp) stepped
      simp only [MainPc.effort]
      omega
  | finish stepped =>
      have bound := mainStorage_effort (by simp) (by simp) stepped
      simp only [MainPc.effort]
      omega
  | noStorage _ _ | callFlush _ _ | noKafka _ _ | leave _ =>
      simp only [MainPc.effort]
      omega

variable {redis : CounterStore Bytes} {sessions workers : Nat} {process : Process capacity}

def StoragePc.role : StoragePc → StorageRole
  | .idle => .caller
  | .check | .asleep | .exited => .flusher
  | .swapped role _ | .trying role _ _ | .inserting role _ _ | .inserted role _
  | .deadLetter role _ => role

def roleAt : Nat → StorageRole
  | 0 => .flusher
  | _ + 1 => .caller

structure Cast (system : StorageSystem) : Prop where
  places : ∀ (thread : Nat) pc, system.threads[thread]? = some pc → pc.role = roleAt thread
  running : system.destruction ≠ .alive → system.running = false

@[simp] theorem resume_role (role : StorageRole) : role.resume.role = role := by
  cases role <;> rfl

theorem flushMove_role {system : StorageSystem} {old new : StoragePc} {given : List (List Bytes)}
    {metrics : Metrics} (moved : FlushMove system old given metrics new) : new.role = old.role := by
  cases moved with
  | callEmpty => exact resume_role _
  | stored => exact resume_role _
  | logged => exact resume_role _
  | lost => exact resume_role _
  | _ => rfl

theorem taker_role {system : StorageSystem} {old : StoragePc} {role : StorageRole}
    {phase : Destruction} (taker : Taker system old role phase) : old.role = role := by
  cases taker <;> rfl

theorem taker_running {system : StorageSystem} {old : StoragePc} {role : StorageRole}
    {phase : Destruction} (running : system.destruction ≠ .alive → system.running = false)
    (taker : Taker system old role phase) : phase ≠ .alive → system.running = false := by
  cases taker with
  | flushAndStop _ => exact fun dead => absurd rfl dead
  | periodic => exact running
  | last joined => exact fun _ => running (by simp [joined])

theorem set_role {threads : List StoragePc} {thread : Nat} {old new : StoragePc}
    (places : ∀ (thread : Nat) pc, threads[thread]? = some pc → pc.role = roleAt thread)
    (found : threads[thread]? = some old) (same : new.role = old.role) :
    ∀ (other : Nat) pc, (threads.set thread new)[other]? = some pc → pc.role = roleAt other := by
  intro other pc place
  obtain ⟨bound, -⟩ := List.getElem?_eq_some_iff.mp found
  by_cases own : thread = other
  · subst own
    rw [List.getElem?_set_self bound, Option.some.injEq] at place
    rw [← place, same]
    exact places thread old found
  · rw [List.getElem?_set_ne own] at place
    exact places other pc place

theorem cast_step {system next : StorageSystem} (cast : Cast system)
    (moved : StorageMove system next) : Cast next := by
  obtain ⟨places, running⟩ := cast
  cases moved with
  | push _ _ _ => exact ⟨places, running⟩
  | fill _ found _ => exact ⟨set_role places found rfl, running⟩
  | skip found taker _ =>
      have halted := taker_running running taker
      exact ⟨set_role places found (by rw [resume_role, taker_role taker]), halted⟩
  | take found taker _ =>
      have halted := taker_running running taker
      exact ⟨set_role places found (taker_role taker).symm, halted⟩
  | flush found moved => exact ⟨set_role places found (flushMove_role moved), running⟩
  | destroy _ _ => exact ⟨places, fun _ => rfl⟩
  | join joining _ => exact ⟨places, fun _ => running (by simp [joining])⟩
  | finish flushing _ => exact ⟨places, fun _ => running (by simp [flushing])⟩

theorem cast_initial (callers : Nat) : Cast (storageMachine callers).initial := by
  refine ⟨?_, by simp [storageMachine]⟩
  intro thread pc found
  cases thread with
  | zero =>
      obtain rfl := Option.some.inj found
      rfl
  | succ thread =>
      have caller : pc = .idle := List.eq_of_mem_replicate (List.mem_of_getElem? found)
      rw [caller]
      rfl

theorem process_cast (reachable : (processMachine parse deployment redis
    capacity sessions workers).Reachable process) : Cast process.pipeline.storage :=
  processStorage.invariant (fun _ => Machine.reachable_invariant Cast (cast_initial (workers + 1))
    (fun _ _ _ cast stepped => cast_step cast (storageStep_move stepped))) reachable

/-! Somebody can always go on. -/

theorem pipelineMove_noStorage {clock : Int} {before after : Pipeline capacity}
    {label : PipelineLabel} (disabled : deployment.storage = false)
    (own : ∀ thread outcome, label ≠ .storage thread outcome)
    (moved : PipelineMove parse deployment clock before label after) :
    after.storage = before.storage := by
  cases moved with
  | worker _ _ _ saved =>
      simp only [Pipeline.callStorage, disabled, Option.some.injEq] at saved
      exact saved.symm
  | storage _ => exact absurd rfl (own _ _)
  | _ => rfl

theorem mainMove_noStorage {input : MainInput} {pipeline : Pipeline capacity} {old new : MainPc}
    (disabled : deployment.storage = false)
    (owned : old.inDestructor = true → deployment.storage = true)
    (moved : MainMove parse deployment input process old pipeline new) :
    pipeline.storage = process.pipeline.storage := by
  have alive : old.inDestructor = true → False := by simpa [disabled] using owned
  cases moved with
  | save _ called =>
      simp only [Pipeline.callStorage, disabled, Option.some.injEq] at called
      exact called.symm
  | flushStorage _ enabled _ => simp [disabled] at enabled
  | destroy enabled _ => simp [disabled] at enabled
  | joinFlusher _ => exact (alive rfl).elim
  | lastFlush _ => exact (alive rfl).elim
  | finish _ => exact (alive rfl).elim
  | _ => rfl

/-- Without a storage nothing ever happens to it. -/
theorem process_noStorage (disabled : deployment.storage = false)
    (reachable : (processMachine parse deployment redis capacity sessions workers).Reachable
      process) : process.pipeline.storage = (storageMachine (workers + 1)).initial := by
  let machine := processMachine parse deployment redis capacity sessions workers
  have holds : machine.Reachable process ∧
      process.pipeline.storage = (storageMachine (workers + 1)).initial := by
    refine Machine.reachable_invariant (fun process : Process capacity =>
      machine.Reachable process ∧
      process.pipeline.storage = (storageMachine (workers + 1)).initial) ?_ ?_ reachable
    · exact ⟨Machine.Reachable.start machine, rfl⟩
    · rintro before label after ⟨reached, same⟩ stepped
      refine ⟨reached.step stepped, ?_⟩
      cases processStep_move stepped with
      | thread allowed moved =>
          refine (pipelineMove_noStorage disabled ?_ moved).trans same
          rintro thread outcome rfl
          simp [Process.allows, disabled] at allowed
      | main moved =>
          exact (mainMove_noStorage disabled (process_staged reached).owned moved).trans same
  exact holds.2

theorem kafka_moves {kafka : KafkaSystem} {index : Nat} {pc : ProducePc}
    (alive : kafka.crashed = false) (found : kafka.workers[index]? = some pc)
    (busy : pc ≠ .idle) : ∃ label next, kafka.step countingConf label = some next ∧
      (∀ worker key data, label ≠ .call worker key data) ∧ label.serves = false ∧
      FlushPhase.running.allows label = true ∧ FlushPhase.draining.allows label = true := by
  cases pc with
  | idle => exact absurd rfl busy
  | first message =>
      exact ⟨.produce index true, kafka.enqueue index message,
        by simp [KafkaSystem.step, alive, KafkaSystem.act, found], by simp, rfl, rfl, rfl⟩
  | polling message =>
      exact ⟨.pollReturns index, kafka.place index (.second message),
        by simp [KafkaSystem.step, alive, KafkaSystem.act, found], by simp, rfl, rfl, rfl⟩
  | second message =>
      exact ⟨.produce index true, kafka.enqueue index message,
        by simp [KafkaSystem.step, alive, KafkaSystem.act, found], by simp, rfl, rfl, rfl⟩
  | failing message =>
      exact ⟨.countFail index, _,
        by simp only [KafkaSystem.step, alive, KafkaSystem.act, found]; rfl, by simp, rfl, rfl, rfl⟩

theorem storage_moves {storage : StorageSystem} {thread : Nat} {pc : StoragePc}
    (found : storage.threads[thread]? = some pc) (idle : pc ≠ .idle) (exited : pc ≠ .exited) :
    ∃ next, storage.step (.advance thread true) = some next := by
  cases pc with
  | idle => exact absurd rfl idle
  | exited => exact absurd rfl exited
  | _ => exact ⟨_, by simp only [StorageSystem.step, found, Option.bind_some]; rfl⟩

def PipelineLabel.inCall : PipelineLabel → Bool
  | .kafka _ | .storage _ _ => true
  | _ => false

/-- A report is given to `dr_msg_cb`. -/
def ProcessLabel.serves : ProcessLabel → Bool
  | .thread _ (.kafka label) => label.serves
  | _ => false

/-- The same of a thread that is inside a call of a back end. -/
def CanReturn (parse : Bytes → Option Event) (deployment : Deployment)
    (process : Process capacity) : Prop :=
  ∃ label next, label.inCall = true ∧ (ProcessLabel.thread 0 label).serves = false ∧
    process.step parse deployment (.thread 0 label) = some next ∧
    process.works (.thread 0 label) = 1

theorem thread_steps {label : PipelineLabel} {pipeline : Pipeline capacity}
    (allowed : Process.allows deployment process.main label = true)
    (moved : process.pipeline.step parse deployment 0 label = some pipeline) :
    process.step parse deployment (.thread 0 label) =
      some { process with pipeline := pipeline } := by
  simp only [Process.step, allowed, if_true, moved, Option.map_some]

theorem kafkaThread_steps {label : KafkaLabel} {kafka : KafkaSystem}
    (allowed : process.main.phase.allows label = true)
    (silent : ∀ worker key data, label ≠ .call worker key data)
    (stepped : process.pipeline.kafka.step countingConf label = some kafka) :
    process.step parse deployment (.thread 0 (.kafka label)) =
      some { process with pipeline := { process.pipeline with kafka := kafka } } := by
  have permitted : Process.allows deployment process.main (.kafka label) = true := allowed
  refine thread_steps permitted ?_
  cases label with
  | call worker key data => exact absurd rfl (silent worker key data)
  | _ => simp only [Pipeline.step, stepped, Option.map_some]

theorem canReturn_kafka {index : Nat} {pc : ProducePc} (booked : Booked process.pipeline.kafka)
    (phase : process.main.phase = .running ∨ process.main.phase = .draining)
    (found : process.pipeline.kafka.workers[index]? = some pc) (busy : pc ≠ .idle) :
    CanReturn parse deployment process := by
  obtain ⟨label, kafka, stepped, silent, unserved, running, draining⟩ :=
    kafka_moves booked.alive found busy
  have allowed : process.main.phase.allows label = true := by
    rcases phase with same | same
    · rw [same]
      exact running
    · rw [same]
      exact draining
  exact ⟨.kafka label, _, rfl, unserved, kafkaThread_steps allowed silent stepped, rfl⟩

theorem storageThread_steps {thread : Nat} {outcome : Bool} {storage : StorageSystem}
    (enabled : deployment.storage = true)
    (stepped : process.pipeline.storage.step (.advance thread outcome) = some storage) :
    process.step parse deployment (.thread 0 (.storage thread outcome)) =
      some { process with pipeline := { process.pipeline with storage := storage } } := by
  simp only [Process.step, Process.allows, enabled, if_true, Pipeline.step, stepped,
    Option.map_some]

theorem canReturn_storage {thread : Nat} {pc : StoragePc} (enabled : deployment.storage = true)
    (found : process.pipeline.storage.threads[thread]? = some pc) (idle : pc ≠ .idle)
    (exited : pc ≠ .exited) (working : process.pipeline.storage.rests pc = false) :
    CanReturn parse deployment process := by
  obtain ⟨storage, stepped⟩ := storage_moves found idle exited
  refine ⟨.storage thread true, _, rfl, rfl, storageThread_steps enabled stepped, ?_⟩
  simp [Process.works, Process.rests, found, working]

theorem caller_idle {storage : StorageSystem} {index : Nat} {pc : StoragePc} (cast : Cast storage)
    (found : storage.threads[Pipeline.storageThread index]? = some pc) :
    storage.rests pc = false ∧ pc ≠ .exited := by
  have role : pc.role = .caller := cast.places _ pc found
  cases pc <;> simp [StoragePc.role, StorageSystem.rests] at role ⊢

/-- A thread that is inside a call can go on with it. -/
theorem canReturn_unreturned {index : Nat} (reachable : (processMachine parse deployment redis
      capacity sessions workers).Reachable process) (below : index ≤ process.slot)
    (phase : process.main.phase = .running ∨ process.main.phase = .draining)
    (inside : process.pipeline.returned index = false) :
    CanReturn parse deployment process := by
  have manned := process_manned reachable
  have slot := manned.slot
  obtain ⟨pc, found⟩ : ∃ pc, process.pipeline.kafka.workers[index]? = some pc :=
    ⟨_, List.getElem?_eq_getElem (by rw [manned.kafka]; omega)⟩
  obtain ⟨at_, place⟩ : ∃ pc,
      process.pipeline.storage.threads[Pipeline.storageThread index]? = some pc :=
    ⟨_, List.getElem?_eq_getElem (by rw [manned.storage, Pipeline.storageThread]; omega)⟩
  by_cases busy : pc = .idle
  · have storing : at_ ≠ .idle := by
      rintro rfl
      simp [Pipeline.returned, found, busy, place] at inside
    obtain ⟨working, exited⟩ := caller_idle (process_cast reachable) place
    cases enabled : deployment.storage with
    | true => exact canReturn_storage enabled place storing exited working
    | false =>
        rw [process_noStorage enabled reachable] at place
        exact absurd (List.eq_of_mem_replicate (List.mem_of_getElem? place)) storing
  · exact canReturn_kafka (process_booked reachable) phase found busy

theorem workerStep_goes (config : Config) (index : Nat) (input : Input) (shared : Shared capacity)
    {pc : WorkerPc} (running : pc ≠ .exited) :
    ∃ result, workerStep config index input shared pc = some result := by
  cases pc with
  | exited => exact absurd rfl running
  | popping =>
      simp only [workerStep]
      split
      · exact ⟨_, rfl⟩
      · exact ⟨_, rfl⟩
  | received message =>
      simp only [workerStep]
      split
      · exact ⟨_, rfl⟩
      · exact ⟨_, rfl⟩
  | parsed message evt =>
      simp only [workerStep]
      split
      · exact ⟨_, rfl⟩
      · exact ⟨_, rfl⟩
  | valid message evt =>
      simp only [workerStep]
      split
      · exact ⟨_, rfl⟩
      · exact ⟨_, rfl⟩
  | _ => exact ⟨_, rfl⟩

theorem callKafka_goes (deployment : Deployment) {kafka : KafkaSystem} {index : Nat} (pc : WorkerPc)
    (alive : kafka.crashed = false) (idle : kafka.workers[index]? = some .idle) :
    ∃ next, Pipeline.callKafka deployment index pc kafka = some next := by
  unfold Pipeline.callKafka
  split
  · simp [KafkaSystem.step, alive, KafkaSystem.act, idle]
  · exact ⟨kafka, rfl⟩

theorem callStorage_goes (deployment : Deployment) {storage : StorageSystem} {index : Nat}
    (pc : WorkerPc)
    (alive : storage.destruction = .alive)
    (idle : storage.threads[Pipeline.storageThread index]? = some .idle) :
    ∃ next, Pipeline.callStorage deployment index pc storage = some next := by
  unfold Pipeline.callStorage
  split
  · simp only [StorageSystem.step, alive, idle, true_and, if_true]
    split
    · exact ⟨_, rfl⟩
    · exact ⟨_, rfl⟩
  · exact ⟨storage, rfl⟩

/-- A worker that is in its own code can go on with it. -/
theorem worker_goes {index : Nat} {pc : WorkerPc} (reachable : (processMachine parse deployment
      redis capacity sessions workers).Reachable process)
    (at_ : process.main = .serving ∨ process.main = .joining)
    (found : process.pipeline.system.workers[index]? = some pc) (running : pc ≠ .exited)
    (outside : process.pipeline.returned index = true) :
    ∃ next, process.step parse deployment (.thread 0 (.worker index .fails)) = some next := by
  have alive : process.pipeline.storage.destruction = .alive := by
    rw [(process_staged reachable).destruction]
    rcases at_ with at_ | at_ <;> rw [at_] <;> rfl
  obtain ⟨idleKafka, idleStorage⟩ := returned_idle outside
  obtain ⟨kafka, called⟩ :=
    callKafka_goes deployment pc (process_booked reachable).alive idleKafka
  obtain ⟨storage, saved⟩ := callStorage_goes deployment pc alive idleStorage
  obtain ⟨⟨shared, new⟩, ran⟩ := workerStep_goes (deployment.config parse) index
    ⟨0, (Pipeline.consult deployment pc .fails process.pipeline.redis).1⟩
    process.pipeline.system.shared running
  have moved : process.pipeline.step parse deployment 0 (.worker index .fails) =
      some ⟨{ process.pipeline.system with
        shared := shared, workers := process.pipeline.system.workers.set index new },
        kafka, storage, (Pipeline.consult deployment pc .fails process.pipeline.redis).2⟩ := by
    simp only [Pipeline.step, Pipeline.worker, outside, if_true, found, Option.bind_some,
      System.step, ran, Option.map_some, called, saved]
  refine ⟨_, thread_steps ?_ moved⟩
  rcases at_ with at_ | at_ <;> rw [at_] <;> rfl

/-- Asleep it takes what is buffered. -/
theorem flusher_takes (enabled : deployment.storage = true)
    (found : process.pipeline.storage.threads[0]? = some .asleep)
    (filled : process.pipeline.storage.buffer ≠ []) :
    ∃ storage, process.step parse deployment (.thread 0 (.storage 0 true)) =
        some { process with pipeline := { process.pipeline with storage := storage } } ∧
      storage.effort < process.pipeline.storage.effort := by
  have stepped : process.pipeline.storage.step (.advance 0 true) =
      some (process.pipeline.storage.takeAll 0 .flusher) := by
    simp only [StorageSystem.step, found, Option.bind_some, StorageSystem.advance]
  have lower : process.pipeline.storage.buffer ≠ [] →
      (process.pipeline.storage.takeAll 0 .flusher).effort < process.pipeline.storage.effort :=
    (takeAll_effort found rfl).2
  exact ⟨_, storageThread_steps enabled stepped, lower filled⟩

end

/-- The worker passes the first of two events on to both back ends. -/
def passingRun : List ProcessLabel :=
  let worker : ProcessLabel := .thread 1 (.worker 0 .fails)
  [.thread 1 (.offer 0 (encodeEvent (eventOf [7]))),
    .thread 1 (.offer 0 (encodeEvent (eventOf [8])))] ++ List.replicate 7 worker ++
    [.thread 1 (.kafka (.produce 0 true)), worker]

end EventCollector
