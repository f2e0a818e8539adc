import EventCollector.EventEncoding
import EventCollector.Processor

/-!
Counter accounting of the running pipeline. Each thread between two increments
is one unit of a correction term; a worker step moves the unit between the
counters and the thread, so the sums never change.
-/

namespace EventCollector

open Ledger

variable {capacity : Nat}

namespace WorkerPc

@[simp] def isPopped : WorkerPc → Bool
  | .popped _ => true
  | _ => false

@[simp] def isReceived : WorkerPc → Bool
  | .received _ => true
  | _ => false

@[simp] def isParsed : WorkerPc → Bool
  | .parsed _ _ => true
  | _ => false

@[simp] def isUndecided : WorkerPc → Bool
  | .valid _ _ | .limited _ _ | .allowed _ _ => true
  | _ => false

@[simp] def betweenEvents : WorkerPc → Bool
  | .check | .popping | .exited => true
  | _ => false

end WorkerPc

@[simp] def SessionPc.isDropping : SessionPc → Bool
  | .dropping => true
  | .reading => false

structure Conservation (system : System capacity) : Prop where
  bodies : system.completed = system.shared.metrics.totalQueueDrop +
    system.shared.queue.items.length + system.shared.metrics.totalReceived +
    system.sessions.countP SessionPc.isDropping + system.workers.countP WorkerPc.isPopped
  received : system.shared.metrics.totalReceived = system.shared.metrics.totalParsed +
    system.shared.metrics.totalParseFail + system.workers.countP WorkerPc.isReceived
  parsed : system.shared.metrics.totalParsed = system.shared.metrics.totalValid +
    system.shared.metrics.totalInvalid + system.workers.countP WorkerPc.isParsed
  valid : system.shared.metrics.totalValid = system.shared.metrics.totalRateLimited +
    system.shared.produced.length + system.workers.countP WorkerPc.isUndecided

/-- The same sums for one thread: what a step adds to the counters on one side
it takes from the thread or adds to the counters on the other side. -/
structure Moves (before after : Shared capacity) (old new : WorkerPc) : Prop where
  dropped : after.metrics.totalQueueDrop = before.metrics.totalQueueDrop
  bodies : after.queue.items.length + after.metrics.totalReceived +
      indicator WorkerPc.isPopped new =
    before.queue.items.length + before.metrics.totalReceived + indicator WorkerPc.isPopped old
  received : after.metrics.totalParsed + after.metrics.totalParseFail +
      indicator WorkerPc.isReceived new + before.metrics.totalReceived =
    before.metrics.totalParsed + before.metrics.totalParseFail +
      indicator WorkerPc.isReceived old + after.metrics.totalReceived
  parsed : after.metrics.totalValid + after.metrics.totalInvalid +
      indicator WorkerPc.isParsed new + before.metrics.totalParsed =
    before.metrics.totalValid + before.metrics.totalInvalid +
      indicator WorkerPc.isParsed old + after.metrics.totalParsed
  valid : after.metrics.totalRateLimited + after.produced.length +
      indicator WorkerPc.isUndecided new + before.metrics.totalValid =
    before.metrics.totalRateLimited + before.produced.length +
      indicator WorkerPc.isUndecided old + after.metrics.totalValid

theorem workerMove_moves {config : Config} {index : Nat} {input : Input}
    {before after : Shared capacity} {old new : WorkerPc}
    (moved : WorkerMove config index input before old after new) : Moves before after old new := by
  cases moved with
  | enter _ => constructor <;> simp [indicator]
  | leave _ => constructor <;> simp [indicator]
  | gaveUp _ => constructor <;> simp [indicator]
  | pop front =>
      have shrunk := congrArg List.length front
      rw [List.length_cons] at shrunk
      constructor <;> simp [indicator]
      omega
  | receive => constructor <;> simp [indicator] <;> omega
  | parseFail _ =>
      constructor <;> simp [indicator]
      omega
  | parse _ => constructor <;> simp [indicator] <;> omega
  | reject _ =>
      constructor <;> simp [indicator]
      omega
  | validate _ => constructor <;> simp [indicator] <;> omega
  | unlimited _ => constructor <;> simp [indicator]
  | allow _ _ => constructor <;> simp [indicator]
  | limit _ _ => constructor <;> simp [indicator]
  | rateLimited =>
      constructor <;> simp [indicator]
      omega
  | produce =>
      constructor <;> simp [indicator, Shared.produceToKafka]
      omega
  | save => constructor <;> simp [indicator, save_eq]

theorem conservation_worker {system : System capacity} {index : Nat}
    {after : Shared capacity} {old new : WorkerPc} (holds : Conservation system)
    (found : system.workers[index]? = some old) (moved : Moves system.shared after old new) :
    Conservation { system with shared := after, workers := system.workers.set index new } := by
  have popped := countP_set WorkerPc.isPopped new found
  have received := countP_set WorkerPc.isReceived new found
  have parsed := countP_set WorkerPc.isParsed new found
  have undecided := countP_set WorkerPc.isUndecided new found
  have bodies := moved.bodies
  have parsing := moved.received
  have validating := moved.parsed
  have deciding := moved.valid
  have dropped := moved.dropped
  obtain ⟨one, two, three, four⟩ := holds
  constructor <;> simp only <;> omega

theorem conservation_drain {config : Config} {clock : Int} {message : Message}
    {system : System capacity} {queue : ThreadSafeQueue Message capacity}
    {after : Shared capacity} (holds : Conservation system)
    (front : system.shared.queue.items = message :: queue.items)
    (moved : DrainMove config clock message
      { system.shared with queue := queue, taken := system.shared.taken ++ [message] } after) :
    Conservation { system with shared := after } := by
  have shrunk := congrArg List.length front
  rw [List.length_cons] at shrunk
  obtain ⟨bodies, received, parsed, valid⟩ := holds
  cases moved with
  | parseFail _ => constructor <;> simp <;> omega
  | reject _ _ => constructor <;> simp <;> omega
  | pass _ _ => constructor <;> simp [save_eq, Shared.produceToKafka] <;> omega

theorem conservation_step {config : Config} {system next : System capacity}
    (holds : Conservation system) (moved : SystemMove config system next) :
    Conservation next := by
  cases moved with
  | accept _ _ grown =>
      obtain ⟨bodies, received, parsed, valid⟩ := holds
      constructor <;> simp [grown] <;> omega
  | refuse _ reading _ =>
      have dropping := countP_set SessionPc.isDropping .dropping reading
      simp only [indicator, SessionPc.isDropping, if_true, Bool.false_eq_true, if_false] at dropping
      obtain ⟨bodies, received, parsed, valid⟩ := holds
      constructor <;> simp only <;> omega
  | drop dropping =>
      have reading := countP_set SessionPc.isDropping .reading dropping
      simp only [indicator, SessionPc.isDropping, if_true, Bool.false_eq_true, if_false] at reading
      obtain ⟨bodies, received, parsed, valid⟩ := holds
      constructor <;> simp only <;> omega
  | worker found moved => exact conservation_worker holds found (workerMove_moves moved)
  | callStop _ _ => exact ⟨holds.bodies, holds.received, holds.parsed, holds.valid⟩
  | join _ _ => exact ⟨holds.bodies, holds.received, holds.parsed, holds.valid⟩
  | drain _ front moved => exact conservation_drain holds front moved
  | finish _ _ => exact ⟨holds.bodies, holds.received, holds.parsed, holds.valid⟩

theorem conservation_initial (config : Config) (sessions workers : Nat) :
    Conservation (systemMachine config capacity sessions workers).initial := by
  constructor <;>
    simp [systemMachine, Shared.initial, ThreadSafeQueue.empty, List.countP_replicate]

theorem betweenEvents_cases {pc : WorkerPc} (between : pc.betweenEvents = true) :
    pc = .check ∨ pc = .popping ∨ pc = .exited := by
  cases pc with
  | check => exact Or.inl rfl
  | popping => exact Or.inr (Or.inl rfl)
  | exited => exact Or.inr (Or.inr rfl)
  | _ => simp at between

theorem tally_between {Amount : Type} [AddCommMonoid Amount] {workers : List WorkerPc}
    (weight : WorkerPc → Amount) (check : weight .check = 0) (popping : weight .popping = 0)
    (exited : weight .exited = 0) (between : ∀ pc ∈ workers, pc.betweenEvents = true) :
    tally weight workers = 0 := by
  apply tally_eq_zero
  intro pc member
  rcases betweenEvents_cases (between pc member) with rfl | rfl | rfl
  · exact check
  · exact popping
  · exact exited

theorem countP_between {workers : List WorkerPc} (place : WorkerPc → Bool)
    (check : indicator place .check = 0) (popping : indicator place .popping = 0)
    (exited : indicator place .exited = 0)
    (between : ∀ pc ∈ workers, pc.betweenEvents = true) : workers.countP place = 0 := by
  rw [countP_eq_tally]
  exact tally_between (indicator place) check popping exited between

theorem systemMachine_conservation {config : Config} {sessions workers : Nat}
    {system : System capacity}
    (reachable : (systemMachine config capacity sessions workers).Reachable system) :
    Conservation system :=
  systemMachine_invariant Conservation (conservation_initial config sessions workers)
    (fun _ _ holds moved => conservation_step holds moved) reachable

/-- The four balances hold in every reachable state of any number of sessions
and workers, and need no correction once every thread is between events. -/
theorem systemMachine_conserves (config : Config) (sessions workers : Nat)
    {system : System capacity}
    (reachable : (systemMachine config capacity sessions workers).Reachable system) :
    Conservation system ∧
    ((∀ session ∈ system.sessions, session = .reading) →
      (∀ pc ∈ system.workers, pc.betweenEvents = true) →
      system.completed = system.shared.metrics.totalQueueDrop +
        system.shared.queue.items.length + system.shared.metrics.totalReceived ∧
      system.shared.metrics.totalReceived =
        system.shared.metrics.totalParsed + system.shared.metrics.totalParseFail ∧
      system.shared.metrics.totalParsed =
        system.shared.metrics.totalValid + system.shared.metrics.totalInvalid ∧
      system.shared.metrics.totalValid =
        system.shared.metrics.totalRateLimited + system.shared.produced.length) := by
  have holds := systemMachine_conservation reachable
  refine ⟨holds, ?_⟩
  intro reading between
  have idle : system.sessions.countP SessionPc.isDropping = 0 := by
    rw [List.countP_eq_zero]
    intro session member
    simp [reading session member]
  have popped := countP_between WorkerPc.isPopped rfl rfl rfl between
  have received := countP_between WorkerPc.isReceived rfl rfl rfl between
  have parsed := countP_between WorkerPc.isParsed rfl rfl rfl between
  have undecided := countP_between WorkerPc.isUndecided rfl rfl rfl between
  obtain ⟨bodies, parsing, validating, deciding⟩ := holds
  refine ⟨?_, ?_, ?_, ?_⟩ <;> omega

/-- The worker has called `produce_to_kafka` for the first event, the second is queued, and
the third has been refused but not counted yet. -/
def midwayRun : List SystemLabel :=
  .offer 0 (encodeEvent (eventOf [7])) :: List.replicate 7 (.worker 0 ⟨1, .error⟩) ++
    [.offer 0 (encodeEvent (eventOf [8])), .offer 0 (encodeEvent (eventOf [7]))]

theorem systemMachine_conserves_midway : ∃ system : System 1,
    (systemMachine ⟨sampleParse, none, false⟩ 1 1 1).run
      (systemMachine ⟨sampleParse, none, false⟩ 1 1 1).initial midwayRun = some system ∧
    system.sessions = [.dropping] ∧ system.shared.metrics.totalValid = 1 ∧
    system.shared.produced.length = 1 ∧ system.completed = 3 ∧ Conservation system := by
  have runs : ((systemMachine ⟨sampleParse, none, false⟩ 1 1 1).run
      (systemMachine ⟨sampleParse, none, false⟩ 1 1 1).initial midwayRun).map
        (fun system : System 1 => (system.sessions, system.shared.metrics.totalValid,
          system.shared.produced.length, system.completed)) = some ([.dropping], 1, 1, 3) := by
    decide
  obtain ⟨system, reached, summary⟩ := Option.map_eq_some_iff.mp runs
  simp only [Prod.mk.injEq] at summary
  obtain ⟨dropping, valid, produced, completed⟩ := summary
  exact ⟨system, reached, dropping, valid, produced, completed,
    (systemMachine_conserves _ 1 1 ⟨midwayRun, reached⟩).1⟩

end EventCollector
