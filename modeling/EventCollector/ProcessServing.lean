import EventCollector.ProcessExit
import EventCollector.ProcessReturn

/-!
The process while it serves. Apart from the rounds in which a worker or the flush thread
finds nothing to do, every step is paid for by an event that was queued; and whatever has
happened, the threads can work off all that was accepted without another event coming in.
-/

namespace EventCollector

open Ledger

variable {capacity : Nat}

/-! The rounds of an idle worker are free. -/

def WorkerPc.labor : WorkerPc → Nat
  | .check | .popping => 0
  | pc => pc.effort - 1

def System.labor (system : System capacity) : Nat :=
  21 * system.shared.queue.items.length + tally WorkerPc.labor system.workers +
    system.sessions.countP SessionPc.isDropping

def Process.labor (process : Process capacity) : Nat :=
  process.main.effort + process.pipeline.system.labor + process.pipeline.kafka.effort +
    process.pipeline.storage.effort

/-- A worker looks at `running_` or finds the queue empty, or the flush thread finds nothing
to flush. -/
def Process.idles (process : Process capacity) : ProcessLabel → Bool
  | .thread _ (.worker index _) =>
      match process.pipeline.system.workers[index]? with
      | some .check => true
      | some .popping => process.pipeline.system.shared.queue.items.isEmpty
      | _ => false
  | label => process.rests label

def Process.toils (process : Process capacity) (label : ProcessLabel) : Nat :=
  if process.idles label then 0 else 1

/-- What a body that a session offers may cost, the offer included. -/
def ProcessLabel.income : ProcessLabel → Nat
  | .thread _ (.offer _ _) => 22
  | _ => 0

/-- A step of a thread that brings in no body. -/
def ProcessLabel.inner : ProcessLabel → Bool
  | .thread _ (.offer _ _) | .main _ => false
  | .thread _ _ => true

section

variable {parse : Bytes → Option Event} {deployment : Deployment}

theorem workerMove_labor {config : Config} {index : Nat} {input : Input}
    {before after : Shared capacity} {old new : WorkerPc}
    (moved : WorkerMove config index input before old after new) :
    21 * after.queue.items.length + new.labor + old.handsOn ≤
      21 * before.queue.items.length + old.labor ∧
    (old ≠ .check → (old = .popping → before.queue.items ≠ []) →
      21 * after.queue.items.length + new.labor + old.handsOn <
        21 * before.queue.items.length + old.labor) := by
  cases moved with
  | enter running => exact ⟨Nat.le_refl _, fun busy => absurd rfl busy⟩
  | leave halted => exact ⟨Nat.le_refl _, fun busy => absurd rfl busy⟩
  | gaveUp empty => exact ⟨Nat.le_refl _, fun _ filled => absurd empty (filled rfl)⟩
  | pop front =>
      have shrunk := congrArg List.length front
      rw [List.length_cons] at shrunk
      simp only [WorkerPc.labor, WorkerPc.effort, WorkerPc.handsOn]
      omega
  | save => simp [save_eq, WorkerPc.labor, WorkerPc.effort, WorkerPc.handsOn]
  | _ =>
      simp [WorkerPc.labor, WorkerPc.effort, WorkerPc.handsOn, Shared.finish,
        Shared.produceToKafka]

theorem worker_labor {config : Config} {index : Nat} {input : Input} {system : System capacity}
    {shared : Shared capacity} {old new : WorkerPc} (found : system.workers[index]? = some old)
    (moved : WorkerMove config index input system.shared old shared new) :
    System.labor { system with shared := shared, workers := system.workers.set index new } +
        old.handsOn ≤ system.labor ∧
    (old ≠ .check → (old = .popping → system.shared.queue.items ≠ []) →
      System.labor { system with shared := shared, workers := system.workers.set index new } +
        old.handsOn < system.labor) := by
  have exchanged := tally_set WorkerPc.labor new found
  obtain ⟨kept, lower⟩ := workerMove_labor moved
  simp only [System.labor]
  refine ⟨by omega, fun busy filled => ?_⟩
  have strictly := lower busy filled
  omega

theorem offer_labor {system next : System capacity} {session : Nat} {data : Bytes}
    (offered : system.offer session data = some next) : next.labor ≤ system.labor + 21 := by
  obtain ⟨⟨-, reading⟩, ⟨-, rfl⟩ | ⟨queue, pushed, rfl⟩⟩ := offer_cases offered
  · have more := countP_set SessionPc.isDropping .dropping reading
    simp only [indicator, SessionPc.isDropping, if_true, Bool.false_eq_true, if_false] at more
    simp only [System.labor]
    omega
  · have longer := congrArg List.length pushed
    rw [List.length_append, List.length_singleton] at longer
    simp only [System.labor]
    omega

theorem drop_labor {system next : System capacity} {session : Nat}
    (dropped : system.drop session = some next) : next.labor < system.labor := by
  have lower := drop_effort dropped
  simp only [System.drop, Option.ite_none_right_eq_some, Option.some.injEq] at dropped
  obtain ⟨-, rfl⟩ := dropped
  simp only [System.effort] at lower
  simp only [System.labor]
  omega

/-- Without the two idle places `idles` is about the flush thread alone. -/
theorem toils_worker {process : Process capacity} {clock : Int} {index : Nat} {pc : WorkerPc}
    {outcome : RedisOutcome} (found : process.pipeline.system.workers[index]? = some pc) :
    process.toils (.thread clock (.worker index outcome)) = 1 ↔
      pc ≠ .check ∧ (pc = .popping → process.pipeline.system.shared.queue.items ≠ []) := by
  cases pc <;> simp [Process.toils, Process.idles, found]

theorem toils_le (process : Process capacity) (label : ProcessLabel) : process.toils label ≤ 1 := by
  unfold Process.toils
  split <;> omega

theorem threadMove_labor {clock : Int} {process : Process capacity}
    {after : Pipeline capacity} {label : PipelineLabel}
    (moved : PipelineMove parse deployment clock process.pipeline label after) :
    Process.labor ⟨after, process.main⟩ + process.toils (.thread clock label) ≤
      process.labor + ProcessLabel.income (.thread clock label) := by
  have atMost := toils_le process (.thread clock label)
  cases moved with
  | offer offered =>
      have bound := offer_labor offered
      simp only [Process.labor, ProcessLabel.income]
      omega
  | drop dropped =>
      have lower := drop_labor dropped
      simp only [Process.labor]
      omega
  | @worker index outcome _ _ _ _ _ found ran called saved =>
      have others := called_effort called saved
      obtain ⟨kept, lower⟩ := worker_labor found (workerStep_move ran)
      simp only [Process.labor]
      by_cases toiled : process.toils (.thread clock (.worker index outcome)) = 1
      · obtain ⟨busy, filled⟩ := (toils_worker found).mp toiled
        have strictly := lower busy filled
        omega
      · omega
  | kafka silent stepped =>
      have lower := kafkaMove_effort silent (kafkaStep_move stepped).2
      simp only [Process.labor]
      omega
  | storage stepped =>
      obtain ⟨pc, found, -⟩ := Option.bind_eq_some_iff.mp stepped
      have lower := advance_effort found stepped
      simp only [Process.toils, Process.idles, Process.rests, found, Option.any_some]
      simp only [Process.labor]
      omega

theorem mainMove_queue {input : MainInput} {process : Process capacity}
    {pipeline : Pipeline capacity} {old new : MainPc}
    (moved : MainMove parse deployment input process old pipeline new) :
    pipeline.system.shared.queue.items.length ≤
      process.pipeline.system.shared.queue.items.length := by
  have drained {system : System capacity}
      (stepped : process.pipeline.system.step (deployment.config parse) (.drain input.clock) =
        some system) :
      system.shared.queue.items.length ≤ process.pipeline.system.shared.queue.items.length := by
    obtain ⟨-, ⟨-, rfl⟩ | ⟨message, shared, queue, front, rfl, turned⟩⟩ := drain_cases stepped
    · exact Nat.le_refl _
    · have left : shared.queue = queue := congrArg AtomicQueue.queue (drainMove_view turned)
      simp only [left, front, List.length_cons]
      omega
  cases moved with
  | callStop stepped =>
      simp only [System.step, Option.ite_none_right_eq_some, Option.some.injEq] at stepped
      obtain ⟨-, rfl⟩ := stepped
      exact Nat.le_refl _
  | join _ stepped =>
      simp only [System.step, Option.ite_none_right_eq_some, Option.some.injEq] at stepped
      obtain ⟨-, rfl⟩ := stepped
      exact Nat.le_refl _
  | drainEnds _ _ stepped => exact drained stepped
  | drainStops _ _ _ stepped => exact drained stepped
  | drainPasses _ _ _ stepped _ => exact drained stepped
  | _ => exact Nat.le_refl _

theorem mainMove_labor {input : MainInput} {process : Process capacity}
    {pipeline : Pipeline capacity} {new : MainPc}
    (moved : MainMove parse deployment input process process.main pipeline new) :
    Process.labor ⟨pipeline, new⟩ < process.labor := by
  have lower := mainMove_effort moved
  have shorter := mainMove_queue moved
  have same := (mainMove_manned moved).1
  simp only [Pipeline.effort, System.effort, same] at lower
  simp only [Process.labor, System.labor, same]
  omega

/-- No step costs more than what it brings in and what it leaves. -/
theorem process_pays {process next : Process capacity} {label : ProcessLabel}
    (stepped : process.step parse deployment label = some next) :
    next.labor + process.toils label ≤ process.labor + label.income := by
  cases processStep_move stepped with
  | thread _ moved => exact threadMove_labor moved
  | @main input _ _ moved =>
      have lower := mainMove_labor moved
      have atMost := toils_le process (.main input)
      omega

/-! Nobody has left while `main` serves. -/

variable {redis : CounterStore Bytes} {sessions workers : Nat} {process : Process capacity}

structure System.Awake (system : System capacity) : Prop where
  running : system.shared.running = true
  present : .exited ∉ system.workers

theorem systemMove_awake {config : Config} {system next : System capacity}
    (awake : system.stop = .notCalled → system.Awake) (moved : SystemMove config system next) :
    next.stop = .notCalled → next.Awake := by
  cases moved with
  | accept notCalled _ _ => exact fun _ => ⟨(awake notCalled).running, (awake notCalled).present⟩
  | refuse notCalled _ _ => exact fun _ => ⟨(awake notCalled).running, (awake notCalled).present⟩
  | drop _ => exact fun serving => ⟨(awake serving).running, (awake serving).present⟩
  | callStop _ _ => simp
  | join _ _ => simp
  | drain draining _ _ => simp [draining]
  | finish _ _ => simp
  | @worker index input shared old new _ moved =>
      intro serving
      obtain ⟨running, present⟩ := awake serving
      have kept : shared.running = true ∧ new ≠ .exited := by
        cases moved with
        | leave halted => simp [running] at halted
        | save => exact ⟨by simpa [save_eq] using running, by simp⟩
        | _ => exact ⟨running, by simp⟩
      refine ⟨kept.1, fun member => ?_⟩
      rcases List.mem_or_eq_of_mem_set member with earlier | same
      · exact present earlier
      · exact kept.2 same.symm

theorem serving_awake (reachable : (processMachine parse deployment redis
      capacity sessions workers).Reachable process) (serving : process.main = .serving) :
    process.pipeline.system.Awake := by
  have awake (system : System capacity)
      (reached : (systemMachine (deployment.config parse) capacity sessions workers).Reachable
        system) : system.stop = .notCalled → system.Awake :=
    systemMachine_invariant _ (fun _ => ⟨rfl, by simp [systemMachine]⟩)
      (fun _ _ awake moved => systemMove_awake awake moved) reached
  refine awake _ (processSystem.reachable reachable) ?_
  rw [(process_staged reachable).stop, serving]
  rfl

structure StorageSystem.Awake (system : StorageSystem) : Prop where
  running : system.running = true
  present : .exited ∉ system.threads

theorem awake_place {system : StorageSystem} {thread : Nat} {new : StoragePc}
    (awake : system.Awake) (stays : new ≠ .exited) : (system.place thread new).Awake := by
  refine ⟨awake.running, fun member => ?_⟩
  rcases List.mem_or_eq_of_mem_set member with earlier | same
  · exact awake.present earlier
  · exact stays same.symm

theorem resume_stays (role : StorageRole) : role.resume ≠ .exited := by
  cases role <;> simp [StorageRole.resume]

theorem awake_takeAll {system : StorageSystem} (thread : Nat) (role : StorageRole)
    (awake : system.Awake) : (system.takeAll thread role).Awake := by
  unfold StorageSystem.takeAll
  split
  · exact awake_place awake (resume_stays role)
  · have swapped : (system.place thread (.swapped role system.buffer)).Awake :=
      awake_place awake (by simp)
    exact ⟨swapped.running, swapped.present⟩

theorem advance_awake {system next : StorageSystem} {thread : Nat} {outcome : Bool}
    {pc : StoragePc} (awake : system.Awake)
    (advanced : system.advance thread outcome pc = some next) : next.Awake := by
  have placed {new : StoragePc} (stays : new ≠ .exited) : (system.place thread new).Awake :=
    awake_place awake stays
  cases pc with
  | idle => simp [StorageSystem.advance] at advanced
  | exited => simp [StorageSystem.advance] at advanced
  | check =>
      obtain rfl := Option.some.inj advanced
      exact placed (by simp [awake.running])
  | asleep =>
      obtain rfl := Option.some.inj advanced
      exact awake_takeAll thread .flusher awake
  | swapped role batch =>
      obtain rfl := Option.some.inj advanced
      have moved : (system.place thread
          (if batch.isEmpty then role.resume else .trying role batch 0)).Awake := by
        refine placed ?_
        split
        · exact resume_stays role
        · simp
      exact ⟨moved.running, moved.present⟩
  | trying role batch retry =>
      obtain rfl := Option.some.inj advanced
      exact placed (by simp)
  | inserting role batch retry =>
      obtain rfl := Option.some.inj advanced
      refine placed ?_
      split
      · simp
      · split <;> simp
  | inserted role batch =>
      obtain rfl := Option.some.inj advanced
      have moved := placed (resume_stays role)
      exact ⟨moved.running, moved.present⟩
  | deadLetter role batch =>
      obtain rfl := Option.some.inj advanced
      have moved := placed (resume_stays role)
      exact ⟨moved.running, moved.present⟩

theorem storageStep_awake {system next : StorageSystem} {label : StorageLabel}
    (awake : system.destruction = .alive → system.Awake) (stepped : system.step label = some next) :
    next.destruction = .alive → next.Awake := by
  intro alive
  cases label with
  | advance thread outcome =>
      obtain ⟨pc, -, advanced⟩ := Option.bind_eq_some_iff.mp stepped
      exact advance_awake (awake ((advance_destruction stepped) ▸ alive)) advanced
  | save thread record =>
      simp only [StorageSystem.step, Option.ite_none_right_eq_some] at stepped
      obtain ⟨⟨before, -⟩, stepped⟩ := stepped
      have pushed : (system.push record).Awake := ⟨(awake before).running, (awake before).present⟩
      split at stepped
      · exact Option.some.inj stepped ▸ pushed
      · have placed : ((system.push record).place thread
            (.swapped .caller (system.push record).buffer)).Awake := awake_place pushed (by simp)
        obtain rfl := Option.some.inj stepped
        exact ⟨placed.running, placed.present⟩
  | flushAndStop thread =>
      simp only [StorageSystem.step, Option.ite_none_right_eq_some, Option.some.injEq] at stepped
      obtain ⟨⟨before, -⟩, rfl⟩ := stepped
      exact awake_takeAll thread .caller (awake before)
  | _ =>
      simp only [StorageSystem.step, Option.ite_none_right_eq_some, Option.some.injEq] at stepped
      obtain ⟨-, rfl⟩ := stepped
      simp at alive

theorem serving_flusher (reachable : (processMachine parse deployment redis
      capacity sessions workers).Reachable process) (serving : process.main = .serving) :
    process.pipeline.storage.Awake := by
  have awake (storage : StorageSystem)
      (reached : (storageMachine (workers + 1)).Reachable storage) :
      storage.destruction = .alive → storage.Awake :=
    Machine.reachable_invariant (fun storage => storage.destruction = .alive → storage.Awake)
      (fun _ => ⟨rfl, by simp [storageMachine]⟩)
      (fun _ _ _ awake stepped => storageStep_awake awake stepped) reached
  refine awake _ (processStorage.reachable reachable) ?_
  rw [(process_staged reachable).destruction, serving]
  rfl

/-! Somebody can always work as long as there is work. -/

/-- Everything accepted has been passed on, and the back ends have dealt with it. -/
structure CaughtUp (deployment : Deployment) (process : Process capacity) : Prop where
  resting : Resting deployment process
  reported : rdKafkaOutqLen process.pipeline.kafka = 0

theorem caughtUp_buffer (reachable : (processMachine parse deployment redis
      capacity sessions workers).Reachable process) (caughtUp : CaughtUp deployment process) :
    process.pipeline.storage.buffer = [] := by
  cases enabled : deployment.storage with
  | true => exact (caughtUp.resting.storage enabled).buffer
  | false =>
      rw [process_noStorage enabled reachable]
      rfl

/-- Some inner step that counts is possible. -/
def CanToil (parse : Bytes → Option Event) (deployment : Deployment)
    (process : Process capacity) : Prop :=
  ∃ label next, label.inner = true ∧ process.step parse deployment label = some next ∧
    process.toils label = 1

theorem CanReturn.canToil (returning : CanReturn parse deployment process) :
    CanToil parse deployment process := by
  obtain ⟨label, next, inside, -, stepped, works⟩ := returning
  cases label with
  | kafka label => exact ⟨_, next, rfl, stepped, works⟩
  | storage thread outcome => exact ⟨_, next, rfl, stepped, works⟩
  | _ => simp [PipelineLabel.inCall] at inside

theorem canToil_drop (serving : process.main = .serving)
    (dropping : .dropping ∈ process.pipeline.system.sessions) :
    CanToil parse deployment process := by
  obtain ⟨session, bound, same⟩ := List.getElem_of_mem dropping
  have found : process.pipeline.system.sessions[session]? = some .dropping := by
    rw [List.getElem?_eq_getElem bound, same]
  obtain ⟨system, dropped⟩ : ∃ system, process.pipeline.system.drop session = some system :=
    ⟨_, if_pos found⟩
  have allowed : Process.allows deployment process.main (.drop session) = true := by
    rw [serving]
    rfl
  have moved : process.pipeline.step parse deployment 0 (.drop session) =
      some { process.pipeline with system := system } := by
    simp only [Pipeline.step, System.step, dropped, Option.map_some]
  exact ⟨.thread 0 (.drop session), _, rfl, thread_steps allowed moved, rfl⟩

/-- The broker answers, or the poll thread serves the next report. -/
theorem canToil_outstanding (reachable : (processMachine parse deployment redis
      capacity sessions workers).Reachable process) (serving : process.main = .serving)
    (outstanding : rdKafkaOutqLen process.pipeline.kafka ≠ 0) :
    CanToil parse deployment process := by
  have alive := (process_booked reachable).alive
  have allowed (label : KafkaLabel) : process.main.phase.allows label = true := by
    rw [serving]
    rfl
  have toils {label : KafkaLabel} (silent : ∀ worker key data, label ≠ .call worker key data)
      (moves : ∃ kafka, process.pipeline.kafka.step countingConf label = some kafka) :
      CanToil parse deployment process := by
    obtain ⟨kafka, stepped⟩ := moves
    exact ⟨_, _, rfl, kafkaThread_steps (allowed label) silent stepped, rfl⟩
  by_cases sent : process.pipeline.kafka.inFlight = []
  · have waiting : process.pipeline.kafka.reports ≠ [] := by
      rintro none
      simp [rdKafkaOutqLen, sent, none] at outstanding
    obtain ⟨⟨message, delivered⟩, rest, front⟩ := List.exists_cons_of_ne_nil waiting
    have served : ∃ kafka, process.pipeline.kafka.step countingConf (.serve none) = some kafka := by
      simp [KafkaSystem.step, alive, KafkaSystem.act, front, KafkaSystem.mayServe]
    exact toils (by simp) served
  · obtain ⟨message, rest, front⟩ := List.exists_cons_of_ne_nil sent
    have answered : ∃ kafka,
        process.pipeline.kafka.step countingConf (.outcome 0 true) = some kafka := by
      simp [KafkaSystem.step, alive, KafkaSystem.act, front]
    exact toils (by simp) answered

theorem canToil_worker {index : Nat} {pc : WorkerPc} (reachable : (processMachine parse deployment
      redis capacity sessions workers).Reachable process) (serving : process.main = .serving)
    (found : process.pipeline.system.workers[index]? = some pc) (running : pc ≠ .exited)
    (outside : process.pipeline.returned index = true) (busy : pc ≠ .check)
    (filled : pc = .popping → process.pipeline.system.shared.queue.items ≠ []) :
    CanToil parse deployment process := by
  obtain ⟨next, stepped⟩ := worker_goes reachable (Or.inl serving) found running outside
  exact ⟨_, next, rfl, stepped, (toils_worker found).mpr ⟨busy, filled⟩⟩

theorem inner_income {label : ProcessLabel} (inner : label.inner = true) : label.income = 0 := by
  cases label with
  | thread clock label => cases label <;> first | rfl | simp [ProcessLabel.inner] at inner
  | main input => simp [ProcessLabel.inner] at inner

/-- By inner steps the process can get to where there is less left to do. -/
def Lowers (machine : Machine (Process capacity) ProcessLabel) (process : Process capacity) :
    Prop :=
  ∃ labels next, (∀ label ∈ labels, label.inner = true) ∧
    machine.run process labels = some next ∧ next.labor < process.labor

theorem lowers_of_canToil (toils : CanToil parse deployment process) :
    Lowers (processMachine parse deployment redis capacity sessions workers) process := by
  obtain ⟨label, next, inner, stepped, counted⟩ := toils
  have paid := process_pays stepped
  rw [inner_income inner, counted] at paid
  refine ⟨[label], next, by simpa using inner, ?_, by omega⟩
  exact Machine.run_cons_some.mpr ⟨next, stepped, rfl⟩

/-- `while (running_)` goes on to the queue. -/
theorem worker_enters {index : Nat} (reachable : (processMachine parse deployment redis
      capacity sessions workers).Reachable process) (serving : process.main = .serving)
    (found : process.pipeline.system.workers[index]? = some .check)
    (outside : process.pipeline.returned index = true) :
    ∃ next, process.step parse deployment (.thread 0 (.worker index .fails)) = some next ∧
      next.main = .serving ∧ next.pipeline.system.workers[index]? = some .popping ∧
      next.pipeline.returned index = true ∧
      next.pipeline.system.shared = process.pipeline.system.shared := by
  have running := (serving_awake reachable serving).running
  have allowed : Process.allows deployment process.main (.worker index .fails) = true := by
    rw [serving]
    rfl
  obtain ⟨kafka, called⟩ := callKafka_goes deployment .check (process_booked reachable).alive
    (returned_idle outside).1
  obtain ⟨storage, saved⟩ : ∃ storage, Pipeline.callStorage deployment index .check
      process.pipeline.storage = some storage := by
    refine callStorage_goes deployment .check ?_ (returned_idle outside).2
    rw [(process_staged reachable).destruction, serving]
    rfl
  obtain rfl := callKafka_elsewhere (by simp) called
  obtain rfl := callStorage_elsewhere (by simp) saved
  have moved : process.pipeline.step parse deployment 0 (.worker index .fails) =
      some { process.pipeline with
        system := { process.pipeline.system with
          workers := process.pipeline.system.workers.set index .popping }
        redis := (Pipeline.consult deployment .check .fails process.pipeline.redis).2 } := by
    simp only [Pipeline.step, Pipeline.worker, outside, if_true, found, Option.bind_some,
      System.step, workerStep, running, Option.map_some, called, saved]
  obtain ⟨bound, -⟩ := List.getElem?_eq_some_iff.mp found
  exact ⟨_, thread_steps allowed moved, serving, List.getElem?_set_self bound, outside, rfl⟩

/-- `while (running_)` goes on to sleep. -/
theorem flusher_sleeps (enabled : deployment.storage = true)
    (running : process.pipeline.storage.running = true)
    (found : process.pipeline.storage.threads[0]? = some .check) :
    ∃ next, process.step parse deployment (.thread 0 (.storage 0 true)) = some next ∧
      next.pipeline.storage.threads[0]? = some .asleep ∧
      next.pipeline.storage.buffer = process.pipeline.storage.buffer := by
  have stepped : process.pipeline.storage.step (.advance 0 true) =
      some (process.pipeline.storage.place 0 .asleep) := by
    simp only [StorageSystem.step, found, Option.bind_some, StorageSystem.advance, running, if_true]
  obtain ⟨bound, -⟩ := List.getElem?_eq_some_iff.mp found
  exact ⟨_, storageThread_steps enabled stepped, List.getElem?_set_self bound, rfl⟩

/-- An inner step that raises nothing may come first. -/
theorem lowers_after {middle : Process capacity} {label : ProcessLabel}
    (inner : label.inner = true) (stepped : process.step parse deployment label = some middle)
    (lowers : Lowers (processMachine parse deployment redis capacity sessions workers) middle) :
    Lowers (processMachine parse deployment redis capacity sessions workers) process := by
  obtain ⟨labels, next, later, ran, lower⟩ := lowers
  have paid := process_pays stepped
  rw [inner_income inner] at paid
  refine ⟨label :: labels, next, ?_, Machine.run_cons_some.mpr ⟨middle, stepped, ran⟩, by omega⟩
  intro other member
  rcases List.mem_cons.mp member with rfl | after
  · exact inner
  · exact later other after

/-- The first worker takes an event out of the queue, however often it has looked before. -/
theorem lowers_queue (reachable : (processMachine parse deployment redis
      capacity sessions workers).Reachable process) (serving : process.main = .serving)
    (manned : 0 < workers) (idle : ∀ pc ∈ process.pipeline.system.workers, pc.betweenEvents = true)
    (outside : process.pipeline.returned 0 = true)
    (filled : process.pipeline.system.shared.queue.items ≠ []) :
    Lowers (processMachine parse deployment redis capacity sessions workers) process := by
  have pops {process : Process capacity} (reachable : (processMachine parse deployment redis
      capacity sessions workers).Reachable process) (serving : process.main = .serving)
      (found : process.pipeline.system.workers[0]? = some .popping)
      (outside : process.pipeline.returned 0 = true)
      (filled : process.pipeline.system.shared.queue.items ≠ []) :
      Lowers (processMachine parse deployment redis capacity sessions workers) process :=
    lowers_of_canToil (canToil_worker reachable serving found (by simp) outside (by simp)
      (fun _ => filled))
  have bound : 0 < process.pipeline.system.workers.length := by
    rw [← Process.slot, (process_manned reachable).slot]
    exact manned
  have found := List.getElem?_eq_getElem bound
  rcases betweenEvents_cases (idle _ (List.getElem_mem bound)) with check | popping | exited
  · rw [check] at found
    obtain ⟨middle, entered, still, place, free, same⟩ :=
      worker_enters reachable serving found outside
    have stepped : (processMachine parse deployment redis capacity sessions workers).step process
        (.thread 0 (.worker 0 .fails)) = some middle := entered
    exact lowers_after rfl entered
      (pops (reachable.step stepped) still place free (same ▸ filled))
  · exact pops reachable serving (popping ▸ found) outside filled
  · exact absurd (exited ▸ List.getElem_mem bound) (serving_awake reachable serving).present

/-- The flush thread takes what is buffered. -/
theorem lowers_buffer (reachable : (processMachine parse deployment redis
      capacity sessions workers).Reachable process) (serving : process.main = .serving)
    (enabled : deployment.storage = true)
    (free : ∀ pc ∈ process.pipeline.storage.threads, pc.handsFree = true)
    (filled : process.pipeline.storage.buffer ≠ []) :
    Lowers (processMachine parse deployment redis capacity sessions workers) process := by
  have takes {process : Process capacity}
      (found : process.pipeline.storage.threads[0]? = some .asleep)
      (filled : process.pipeline.storage.buffer ≠ []) :
      Lowers (processMachine parse deployment redis capacity sessions workers) process := by
    obtain ⟨storage, taken, lower⟩ : ∃ storage, process.step parse deployment
        (.thread 0 (.storage 0 true)) = some { process with
          pipeline := { process.pipeline with storage := storage } } ∧
        storage.effort < process.pipeline.storage.effort := flusher_takes enabled found filled
    refine ⟨[.thread 0 (.storage 0 true)], _, by simp [ProcessLabel.inner],
      Machine.run_cons_some.mpr ⟨_, taken, rfl⟩, ?_⟩
    simp only [Process.labor]
    omega
  have awake := serving_flusher reachable serving
  have bound : 0 < process.pipeline.storage.threads.length := by
    rw [(process_manned reachable).storage]
    omega
  have found := List.getElem?_eq_getElem bound
  have member := List.getElem_mem bound
  have role : process.pipeline.storage.threads[0].role = .flusher :=
    (process_cast reachable).places 0 _ found
  have outside := free _ member
  cases at_ : process.pipeline.storage.threads[0] with
  | check =>
      obtain ⟨middle, slept, place, same⟩ : ∃ next, process.step parse deployment
          (.thread 0 (.storage 0 true)) = some next ∧
          next.pipeline.storage.threads[0]? = some .asleep ∧
          next.pipeline.storage.buffer = process.pipeline.storage.buffer :=
        flusher_sleeps enabled awake.running (at_ ▸ found)
      exact lowers_after rfl slept (takes place (same ▸ filled))
  | asleep => exact takes (at_ ▸ found) filled
  | exited => exact absurd (at_ ▸ member) awake.present
  | idle => simp [at_, StoragePc.role] at role
  | _ => simp [at_, StoragePc.handsFree] at outside

theorem serving_progress (reachable : (processMachine parse deployment redis
      capacity sessions workers).Reachable process) (serving : process.main = .serving)
    (manned : 0 < workers) (behind : ¬ CaughtUp deployment process) :
    Lowers (processMachine parse deployment redis capacity sessions workers) process := by
  have places := process_manned reachable
  have phase : process.main.phase = .running := by
    rw [serving]
    rfl
  by_cases dropping : .dropping ∈ process.pipeline.system.sessions
  · exact lowers_of_canToil (canToil_drop serving dropping)
  by_cases outside : ∀ index ≤ process.slot, process.pipeline.returned index = true
  case neg =>
    simp only [not_forall] at outside
    obtain ⟨index, below, inside⟩ := outside
    exact lowers_of_canToil
      (canReturn_unreturned reachable below (Or.inl phase) (by simpa using inside)).canToil
  by_cases reported : rdKafkaOutqLen process.pipeline.kafka = 0
  case neg => exact lowers_of_canToil (canToil_outstanding reachable serving reported)
  by_cases idle : ∀ pc ∈ process.pipeline.system.workers, pc.betweenEvents = true
  case neg =>
    simp only [not_forall] at idle
    obtain ⟨pc, member, busy⟩ := idle
    obtain ⟨index, bound, rfl⟩ := List.getElem_of_mem member
    refine lowers_of_canToil (canToil_worker reachable serving (List.getElem?_eq_getElem bound)
      ?_ (outside index (Nat.le_of_lt bound)) ?_ ?_)
    · exact fun same => busy (by rw [same]; rfl)
    · exact fun same => busy (by rw [same]; rfl)
    · exact fun same => absurd (by rw [same]; rfl) busy
  by_cases empty : process.pipeline.system.shared.queue.items = []
  case neg => exact lowers_queue reachable serving manned idle (outside 0 (Nat.zero_le _)) empty
  by_cases flushed : deployment.storage = true → Flushed process.pipeline.storage
  · refine absurd ⟨⟨⟨empty, idle, dropping⟩, by rw [serving]; rfl, fun pc member => ?_, flushed⟩,
      reported⟩ behind
    obtain ⟨index, bound, rfl⟩ := List.getElem_of_mem member
    have below : index ≤ process.slot := by
      rw [places.kafka] at bound
      rw [places.slot]
      omega
    exact (List.getElem?_eq_some_iff.mp (returned_idle (outside index below)).1).2
  · simp only [Classical.not_imp] at flushed
    obtain ⟨enabled, unflushed⟩ := flushed
    by_cases free : ∀ pc ∈ process.pipeline.storage.threads, pc.handsFree = true
    · exact lowers_buffer reachable serving enabled free fun none => unflushed ⟨none, free⟩
    · simp only [not_forall] at free
      obtain ⟨pc, member, holding⟩ := free
      obtain ⟨thread, bound, rfl⟩ := List.getElem_of_mem member
      refine lowers_of_canToil (canReturn_storage enabled (List.getElem?_eq_getElem bound)
        ?_ ?_ ?_).canToil
      · exact fun same => holding (by rw [same]; rfl)
      · exact fun same => holding (by rw [same]; rfl)
      · cases at_ : process.pipeline.storage.threads[thread] with
        | check => simp [at_, StoragePc.handsFree] at holding
        | asleep => simp [at_, StoragePc.handsFree] at holding
        | _ => rfl

/-! What inner steps leave as it is. -/

theorem inner_keeps {next : Process capacity} {label : ProcessLabel}
    (inner : label.inner = true) (stepped : process.step parse deployment label = some next) :
    next.main = process.main ∧
      next.pipeline.system.shared.accepted = process.pipeline.system.shared.accepted := by
  cases processStep_move stepped with
  | main _ => simp [ProcessLabel.inner] at inner
  | thread _ moved =>
      refine ⟨rfl, ?_⟩
      cases moved with
      | offer _ => simp [ProcessLabel.inner] at inner
      | drop dropped =>
          simp only [System.drop, Option.ite_none_right_eq_some, Option.some.injEq] at dropped
          obtain ⟨-, rfl⟩ := dropped
          rfl
      | worker _ ran _ _ =>
          cases workerStep_move ran with
          | save => rw [save_eq]; rfl
          | _ => rfl
      | _ => rfl

theorem inner_run {labels : List ProcessLabel} {next : Process capacity}
    (inner : ∀ label ∈ labels, label.inner = true)
    (ran : (processMachine parse deployment redis capacity sessions workers).run process labels =
      some next) :
    next.main = process.main ∧
      next.pipeline.system.shared.accepted = process.pipeline.system.shared.accepted := by
  induction labels generalizing process with
  | nil =>
      obtain rfl := Option.some.inj ran
      exact ⟨rfl, rfl⟩
  | cons label rest ih =>
      obtain ⟨middle, stepped, tail⟩ := Machine.run_cons_some.mp ran
      obtain ⟨main, accepted⟩ := inner_keeps (inner label List.mem_cons_self) stepped
      obtain ⟨main', accepted'⟩ := ih (fun other member =>
        inner other (List.mem_cons_of_mem label member)) tail
      exact ⟨main'.trans main, accepted'.trans accepted⟩

/-- While `main` serves, the inner steps can settle everything accepted. -/
theorem serving_catchesUp {before : List ProcessLabel} {process : Process capacity}
    (reached : (processMachine parse deployment redis capacity sessions workers).run
      (processMachine parse deployment redis capacity sessions workers).initial before =
        some process) (serving : process.main = .serving) (manned : 0 < workers) :
    ∃ labels final, (∀ label ∈ labels, label.inner = true) ∧
      (processMachine parse deployment redis capacity sessions workers).run process labels =
        some final ∧
      final.main = .serving ∧
      final.pipeline.system.shared.accepted = process.pipeline.system.shared.accepted ∧
      rdKafkaOutqLen final.pipeline.kafka = 0 ∧ final.pipeline.storage.buffer = [] ∧
      Settlement parse deployment final
        ((processMachine parse deployment redis capacity sessions workers).total Process.loses
          (processMachine parse deployment redis capacity sessions workers).initial
          (before ++ labels)) := by
  let machine := processMachine parse deployment redis capacity sessions workers
  have reachable : machine.Reachable process := ⟨before, reached⟩
  let accepted := process.pipeline.system.shared.accepted
  obtain ⟨labels, final, inner, ran, ⟨onward, still, same⟩, caughtUp⟩ :=
    Machine.reaches_of_progress
      (fun process => machine.Reachable process ∧ process.main = .serving ∧
        process.pipeline.system.shared.accepted = accepted)
      (CaughtUp deployment) (fun label : ProcessLabel => label.inner = true) Process.labor (by
        rintro process ⟨reachable, serving, same⟩ behind
        obtain ⟨labels, next, inner, ran, lower⟩ :=
          serving_progress reachable serving manned behind
        have kept := inner_run inner ran
        exact ⟨labels, next, inner, ran, ⟨reachable.run ran, kept.1.trans serving,
          kept.2.trans same⟩, lower⟩) ⟨reachable, serving, rfl⟩
  have whole : machine.run machine.initial (before ++ labels) = some final := by
    rw [Machine.run_append reached, ran]
  exact ⟨labels, final, inner, ran, still, same, caughtUp.reported,
    caughtUp_buffer onward caughtUp, settlement_of_resting whole caughtUp.resting⟩

/-- Every step of every run is paid for, but for the rounds of idle threads: by the bodies
that the sessions offer, and by what was left to do at the start. And while `main` serves,
the threads can settle everything that has been accepted, up to the last report of Kafka
and the last row, without another body and without `stop()`. -/
theorem process_catchesUp (parse : Bytes → Option Event) (deployment : Deployment)
    (redis : CounterStore Bytes) (sessions workers : Nat) {before : List ProcessLabel}
    {process : Process capacity}
    (reached : (processMachine parse deployment redis capacity sessions workers).run
      (processMachine parse deployment redis capacity sessions workers).initial before =
        some process) :
    (∀ labels final,
      (processMachine parse deployment redis capacity sessions workers).run process labels =
        some final →
      final.labor + (processMachine parse deployment redis capacity sessions workers).total
        Process.toils process labels ≤
      process.labor + (processMachine parse deployment redis capacity sessions workers).total
        (fun _ label => label.income) process labels) ∧
    (process.main = .serving → 0 < workers → ∃ labels final,
      (∀ label ∈ labels, label.inner = true) ∧
      (processMachine parse deployment redis capacity sessions workers).run process labels =
        some final ∧
      final.main = .serving ∧
      final.pipeline.system.shared.accepted = process.pipeline.system.shared.accepted ∧
      rdKafkaOutqLen final.pipeline.kafka = 0 ∧ final.pipeline.storage.buffer = [] ∧
      Settlement parse deployment final
        ((processMachine parse deployment redis capacity sessions workers).total Process.loses
          (processMachine parse deployment redis capacity sessions workers).initial
          (before ++ labels))) := by
  constructor
  · intro labels final ran
    exact Machine.total_le_of_pays (fun _ => True) Process.labor Process.toils
      (fun _ label => label.income) (fun _ _ _ _ _ => trivial)
      (fun _ _ _ _ stepped => process_pays stepped) trivial ran
  · exact serving_catchesUp reached

end

/-- One event has been passed on, two more are queued and a fourth has been refused. -/
def fullRun : List ProcessLabel :=
  passingRun ++ [.thread 1 (.offer 0 (encodeEvent (eventOf [7]))),
    .thread 1 (.offer 0 (encodeEvent (eventOf [8])))]

theorem process_catchesUp_queued : ∃ process : Process 2,
    (processMachine sampleParse ⟨none, true, true⟩ (fun _ => none) 2 1 1).run
      (processMachine sampleParse ⟨none, true, true⟩ (fun _ => none) 2 1 1).initial fullRun =
        some process ∧
    (passedOn process.pipeline.system.shared.finished).length = 1 ∧
    (∃ labels final, (processMachine sampleParse ⟨none, true, true⟩ (fun _ => none) 2 1 1).run
      process labels = some final ∧ final.main = .serving ∧
      final.pipeline.storage.buffer = [] ∧
      final.pipeline.metrics.totalParseFail + final.pipeline.metrics.totalInvalid +
        final.pipeline.metrics.totalRateLimited +
        (passedOn final.pipeline.system.shared.finished).length = 3) ∧
    ∀ labels final, (processMachine sampleParse ⟨none, true, true⟩ (fun _ => none) 2 1 1).run
      process labels = some final →
      (processMachine sampleParse ⟨none, true, true⟩ (fun _ => none) 2 1 1).total
        Process.toils process labels ≤ 65 +
      (processMachine sampleParse ⟨none, true, true⟩ (fun _ => none) 2 1 1).total
        (fun _ label => label.income) process labels := by
  have queues : ((processMachine sampleParse ⟨none, true, true⟩ (fun _ => none) 2 1 1).run
      (processMachine sampleParse ⟨none, true, true⟩ (fun _ => none) 2 1 1).initial fullRun).map
        (fun process : Process 2 => (process.main, process.labor,
          process.pipeline.system.shared.accepted.length,
          (passedOn process.pipeline.system.shared.finished).length)) =
      some (.serving, 65, 3, 1) := by
    decide
  obtain ⟨process, reached, summary⟩ := Option.map_eq_some_iff.mp queues
  simp only [Prod.mk.injEq] at summary
  obtain ⟨serving, labor, accepted, passed⟩ := summary
  obtain ⟨bounded, catchesUp⟩ :=
    process_catchesUp sampleParse ⟨none, true, true⟩ (fun _ => none) 1 1 reached
  obtain ⟨labels, final, -, ran, still, same, -, empty, settled⟩ := catchesUp serving (by decide)
  refine ⟨process, reached, passed, ⟨labels, final, ran, still, empty, ?_⟩, ?_⟩
  · rw [← settled.fates, same, accepted]
  · intro labels final ran
    have paid := bounded labels final ran
    omega

end EventCollector
