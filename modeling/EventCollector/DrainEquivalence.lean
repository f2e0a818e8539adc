import EventCollector.EventEncoding
import EventCollector.Processor

/-!
The two copies of the pipeline side by side. `worker()` running alone until it
would wait on an empty queue, and the drain loop of `stop()`, are compared on
the same queue with the same clock. Redis gives the answer `answers n` to the
call of `allow` that follows `n` earlier ones.
-/

namespace EventCollector

open ThreadSafeQueue

variable {capacity : Nat}

def workerLoop (config : Config) (clock : Int) (answers : Nat → RedisReply) :
    Nat → Shared capacity → WorkerPc → Option (Shared capacity)
  | 0, _, _ => none
  | fuel + 1, shared, pc =>
      if pc = .popping ∧ shared.queue.items = [] then some shared
      else
        (workerStep config 0 ⟨clock, answers shared.asked.length⟩ shared pc).bind fun (next, pc) =>
          workerLoop config clock answers fuel next pc

def drainLoop (config : Config) (clock : Int) :
    Nat → Shared capacity → Option (Shared capacity)
  | 0, _ => none
  | fuel + 1, shared =>
      match drainStep config clock shared with
      | none => some shared
      | some next => drainLoop config clock fuel next

def WorksOff (config : Config) (clock : Int) (answers : Nat → RedisReply)
    (before after : Shared capacity) : Prop :=
  ∃ fuel, workerLoop config clock answers fuel before .check = some after

def DrainsOff (config : Config) (clock : Int) (before after : Shared capacity) : Prop :=
  ∃ fuel, drainLoop config clock fuel before = some after

/-- What the two loops have in common for an observer: all counters and the
calls of `produce_to_kafka` and `Storage::save`, in order. -/
structure Agrees (worked drained : Shared capacity) : Prop where
  metrics : worked.metrics = drained.metrics
  produced : worked.produced = drained.produced
  saved : worked.saved = drained.saved

def Message.valid (config : Config) (clock : Int) (message : Message) : Bool :=
  match config.parse message.data with
  | none => false
  | some evt => validateEvent clock evt

/-- `!rate_limiter_ || rate_limiter_->allow(...)`. -/
def Config.lets (config : Config) (reply : RedisReply) : Bool :=
  match config.rateLimit with
  | none => true
  | some limit => allow limit reply

inductive WorkerPath (config : Config) (clock : Int) (reply : RedisReply) (message : Message)
    (shared : Shared capacity) : Shared capacity → Prop
  | parseFail : config.parse message.data = none →
      WorkerPath config clock reply message shared
        ({ shared with
          metrics.totalReceived := shared.metrics.totalReceived + 1
          metrics.totalParseFail := shared.metrics.totalParseFail + 1 }.finish
            message .parseFail (.worker 0))
  | reject {evt : Event} : config.parse message.data = some evt →
      validateEvent clock evt = false →
      WorkerPath config clock reply message shared
        ({ shared with
          metrics.totalReceived := shared.metrics.totalReceived + 1
          metrics.totalParsed := shared.metrics.totalParsed + 1
          metrics.totalInvalid := shared.metrics.totalInvalid + 1 }.finish
            message .invalid (.worker 0))
  | limit {evt : Event} : config.parse message.data = some evt →
      validateEvent clock evt = true → config.rateLimit.isSome = true →
      config.lets reply = false →
      WorkerPath config clock reply message shared
        ({ shared with
          metrics.totalReceived := shared.metrics.totalReceived + 1
          metrics.totalParsed := shared.metrics.totalParsed + 1
          metrics.totalValid := shared.metrics.totalValid + 1
          metrics.totalRateLimited := shared.metrics.totalRateLimited + 1
          asked := shared.asked ++ [evt.userId] }.finish
            message .rateLimited (.worker 0))
  | pass {evt : Event} : config.parse message.data = some evt →
      validateEvent clock evt = true → config.lets reply = true →
      WorkerPath config clock reply message shared
        (((({ shared with
          metrics.totalReceived := shared.metrics.totalReceived + 1
          metrics.totalParsed := shared.metrics.totalParsed + 1
          metrics.totalValid := shared.metrics.totalValid + 1
          asked := if config.rateLimit.isSome then shared.asked ++ [evt.userId]
            else shared.asked } :
            Shared capacity).produceToKafka evt.userId message).save config message).finish
              message .passed (.worker 0))

theorem front_of_items {queue : ThreadSafeQueue Message capacity} {message : Message}
    {items : List Message} (filled : queue.items = message :: items) :
    ∃ next : ThreadSafeQueue Message capacity,
      queue.tryPop = some (message, next) ∧ next.items = items := by
  cases popped : queue.tryPop with
  | none => simp [tryPop_none.mp popped] at filled
  | some pair =>
      obtain ⟨front, next⟩ := pair
      have split := tryPop_some.mp popped
      simp only [filled, List.cons.injEq] at split
      obtain ⟨rfl, rfl⟩ := split
      exact ⟨next, rfl, rfl⟩

def Shared.next (shared : Shared capacity) (message : Message)
    (queue : ThreadSafeQueue Message capacity) : Shared capacity :=
  { shared with queue := queue, taken := shared.taken ++ [message] }

@[simp] theorem next_asked (shared : Shared capacity) (message : Message)
    (queue : ThreadSafeQueue Message capacity) :
    (shared.next message queue).asked = shared.asked := rfl

@[simp] theorem next_metrics (shared : Shared capacity) (message : Message)
    (queue : ThreadSafeQueue Message capacity) :
    (shared.next message queue).metrics = shared.metrics := rfl

theorem next_agrees {worked drained : Shared capacity} (agree : Agrees worked drained)
    (message : Message) (queue : ThreadSafeQueue Message capacity) :
    Agrees (worked.next message queue) (drained.next message queue) :=
  ⟨agree.metrics, agree.produced, agree.saved⟩

theorem workerLoop_more {config : Config} {clock : Int} {answers : Nat → RedisReply}
    {fuel : Nat} {before after : Shared capacity} {pc : WorkerPc} (extra : Nat)
    (worked : workerLoop config clock answers fuel before pc = some after) :
    workerLoop config clock answers (fuel + extra) before pc = some after := by
  induction fuel generalizing before pc with
  | zero => simp [workerLoop] at worked
  | succ fuel ih =>
      rw [Nat.add_right_comm]
      simp only [workerLoop] at worked ⊢
      split
      · rename_i waiting
        simpa only [waiting, and_self, if_true] using worked
      · rename_i working
        simp only [working, if_false, Option.bind_eq_some_iff] at worked ⊢
        obtain ⟨middle, stepped, rest⟩ := worked
        exact ⟨middle, stepped, ih rest⟩

/-- From the test of `running_` to the message counted as received. -/
theorem workerLoop_receives (config : Config) (clock : Int) (answers : Nat → RedisReply)
    {before : Shared capacity} {message : Message} {queue : ThreadSafeQueue Message capacity}
    (running : before.running = true) (front : before.queue.tryPop = some (message, queue))
    (fuel : Nat) : workerLoop config clock answers (fuel + 3) before .check =
      workerLoop config clock answers fuel
        { before.next message queue with
          metrics.totalReceived := before.metrics.totalReceived + 1 } (.received message) := by
  have filled : before.queue.items ≠ [] := by
    simp [tryPop_some.mp front]
  simp [workerLoop, workerStep, Shared.next, running, front, filled]

theorem workerLoop_iteration (config : Config) (clock : Int) (answers : Nat → RedisReply)
    {before : Shared capacity} {message : Message} {queue : ThreadSafeQueue Message capacity}
    (running : before.running = true) (front : before.queue.tryPop = some (message, queue)) :
    ∃ next, WorkerPath config clock (answers before.asked.length) message
        (before.next message queue) next ∧
      ∃ steps, ∀ fuel, workerLoop config clock answers (fuel + steps) before .check =
        workerLoop config clock answers fuel next .check := by
  have receives := workerLoop_receives config clock answers running front
  cases parsed : config.parse message.data with
  | none =>
      refine ⟨_, .parseFail parsed, 1 + 3, fun fuel => ?_⟩
      rw [← Nat.add_assoc, receives]
      simp [workerLoop, workerStep, parsed]
  | some evt =>
      cases accepted : validateEvent clock evt with
      | false =>
          refine ⟨_, .reject parsed accepted, 2 + 3, fun fuel => ?_⟩
          rw [← Nat.add_assoc, receives]
          simp [workerLoop, workerStep, parsed, accepted]
      | true =>
          cases limiter : config.rateLimit with
          | none =>
              refine ⟨_, .pass parsed accepted (by simp [Config.lets, limiter]), 5 + 3,
                fun fuel => ?_⟩
              rw [← Nat.add_assoc, receives]
              simp [workerLoop, workerStep, parsed, accepted, limiter]
          | some limit =>
              cases allowed : allow limit (answers before.asked.length) with
              | false =>
                  refine ⟨_, .limit parsed accepted (by simp [limiter])
                    (by simp [Config.lets, limiter, allowed]), 4 + 3, fun fuel => ?_⟩
                  rw [← Nat.add_assoc, receives]
                  simp [workerLoop, workerStep, parsed, accepted, limiter, allowed]
              | true =>
                  refine ⟨_, .pass parsed accepted (by simp [Config.lets, limiter, allowed]),
                    5 + 3, fun fuel => ?_⟩
                  rw [← Nat.add_assoc, receives]
                  simp [workerLoop, workerStep, parsed, accepted, limiter, allowed]

/-! Both loops end on an empty queue and otherwise go on after one message. -/

theorem worksOff_empty {config : Config} {clock : Int} {answers : Nat → RedisReply}
    {before after : Shared capacity} (running : before.running = true)
    (empty : before.queue.items = []) :
    WorksOff config clock answers before after ↔ after = before := by
  have twoSteps (fuel : Nat) :
      workerLoop config clock answers (fuel + 2) before .check = some before := by
    simp [workerLoop, workerStep, running, empty]
  constructor
  · rintro ⟨fuel, worked⟩
    have longer := workerLoop_more 2 worked
    rw [twoSteps, Option.some.injEq] at longer
    exact longer.symm
  · rintro rfl
    exact ⟨2, twoSteps 0⟩

theorem worksOff_next (config : Config) (clock : Int) (answers : Nat → RedisReply)
    {before : Shared capacity} {message : Message} {queue : ThreadSafeQueue Message capacity}
    (running : before.running = true) (front : before.queue.tryPop = some (message, queue)) :
    ∃ next, WorkerPath config clock (answers before.asked.length) message
        (before.next message queue) next ∧
      ∀ after, WorksOff config clock answers before after ↔
        WorksOff config clock answers next after := by
  obtain ⟨next, path, steps, iteration⟩ :=
    workerLoop_iteration config clock answers running front
  refine ⟨next, path, fun after => ⟨?_, ?_⟩⟩
  · rintro ⟨fuel, worked⟩
    refine ⟨fuel, ?_⟩
    rw [← iteration]
    exact workerLoop_more steps worked
  · rintro ⟨fuel, worked⟩
    refine ⟨fuel + steps, ?_⟩
    rw [iteration]
    exact worked

theorem drainsOff_empty {config : Config} {clock : Int} {before after : Shared capacity}
    (empty : before.queue.tryPop = none) :
    DrainsOff config clock before after ↔ after = before := by
  constructor
  · rintro ⟨fuel, drained⟩
    cases fuel with
    | zero => simp [drainLoop] at drained
    | succ fuel => simpa [drainLoop, drainStep, empty, eq_comm] using drained
  · rintro rfl
    exact ⟨1, by simp [drainLoop, drainStep, empty]⟩

theorem drainsOff_next (config : Config) (clock : Int) {before : Shared capacity}
    {message : Message} {queue : ThreadSafeQueue Message capacity}
    (front : before.queue.tryPop = some (message, queue)) :
    ∃ next, DrainMove config clock message (before.next message queue) next ∧
      ∀ after, DrainsOff config clock before after ↔ DrainsOff config clock next after := by
  refine ⟨_, drainBody_move config clock message (before.next message queue), fun after => ?_⟩
  have iteration (fuel : Nat) : drainLoop config clock (fuel + 1) before =
      drainLoop config clock fuel (drainBody config clock message (before.next message queue)) := by
    simp only [drainLoop, drainStep, front, Shared.next]
  constructor
  · rintro ⟨fuel, drained⟩
    cases fuel with
    | zero => simp [drainLoop] at drained
    | succ fuel => exact ⟨fuel, by rw [← iteration, drained]⟩
  · rintro ⟨fuel, drained⟩
    exact ⟨fuel + 1, by rw [iteration, drained]⟩

/-! What one iteration does to the parts that decide the comparison. -/

theorem workerPath_frame {config : Config} {clock : Int} {reply : RedisReply}
    {message : Message} {before after : Shared capacity}
    (path : WorkerPath config clock reply message before after) :
    after.queue = before.queue ∧ after.running = before.running := by
  cases path with
  | parseFail _ => exact ⟨rfl, rfl⟩
  | reject _ _ => exact ⟨rfl, rfl⟩
  | limit _ _ _ _ => exact ⟨rfl, rfl⟩
  | pass _ _ _ => simp [save_eq, Shared.produceToKafka]

theorem workerPath_asked {config : Config} {clock : Int} {reply : RedisReply}
    {message : Message} {before after : Shared capacity}
    (path : WorkerPath config clock reply message before after) :
    after.asked.length = before.asked.length +
      if message.valid config clock ∧ config.rateLimit.isSome then 1 else 0 := by
  cases path with
  | parseFail failed => simp [Message.valid, failed]
  | reject parsed rejected => simp [Message.valid, parsed, rejected]
  | limit parsed accepted limited _ => simp [Message.valid, parsed, accepted, limited]
  | pass parsed accepted _ =>
      by_cases limited : config.rateLimit.isSome = true <;>
        simp [save_eq, Shared.produceToKafka, Message.valid, parsed, accepted, limited]

theorem workerPath_limited {config : Config} {clock : Int} {reply : RedisReply}
    {message : Message} {before after : Shared capacity}
    (path : WorkerPath config clock reply message before after) :
    after.metrics.totalRateLimited = before.metrics.totalRateLimited +
      if message.valid config clock = true → config.lets reply = true then 0 else 1 := by
  cases path with
  | parseFail failed => simp [Message.valid, failed]
  | reject parsed rejected => simp [Message.valid, parsed, rejected]
  | limit parsed accepted _ refused => simp [Message.valid, parsed, accepted, refused]
  | pass parsed accepted allowed =>
      simp [save_eq, Shared.produceToKafka, allowed]

theorem drainMove_frame {config : Config} {clock : Int} {message : Message}
    {before after : Shared capacity} (moved : DrainMove config clock message before after) :
    after.queue = before.queue ∧
      after.metrics.totalRateLimited = before.metrics.totalRateLimited := by
  cases moved with
  | parseFail _ => exact ⟨rfl, rfl⟩
  | reject _ _ => exact ⟨rfl, rfl⟩
  | pass _ _ => simp [save_eq, Shared.produceToKafka]

theorem workerPath_drainMove {config : Config} {clock : Int} {reply : RedisReply}
    {message : Message} {working draining worked drained : Shared capacity}
    (agree : Agrees working draining)
    (allowed : message.valid config clock = true → config.lets reply = true)
    (path : WorkerPath config clock reply message working worked)
    (moved : DrainMove config clock message draining drained) : Agrees worked drained := by
  obtain ⟨metrics, produced, saved⟩ := agree
  cases path with
  | parseFail failed =>
      cases moved with
      | parseFail _ => constructor <;> simp [metrics, produced, saved]
      | reject parsed _ => simp [failed] at parsed
      | pass parsed _ => simp [failed] at parsed
  | reject parsed rejected =>
      cases moved with
      | parseFail failed => simp [failed] at parsed
      | reject _ _ => constructor <;> simp [metrics, produced, saved]
      | pass again accepted =>
          obtain rfl := Option.some.inj (parsed.symm.trans again)
          simp [rejected] at accepted
  | limit parsed accepted _ refused =>
      have lets := allowed (by simp [Message.valid, parsed, accepted])
      simp [refused] at lets
  | pass parsed accepted _ =>
      cases moved with
      | parseFail failed => simp [failed] at parsed
      | reject again rejected =>
          obtain rfl := Option.some.inj (parsed.symm.trans again)
          simp [rejected] at accepted
      | pass again _ =>
          obtain rfl := Option.some.inj (parsed.symm.trans again)
          constructor <;> simp [save_eq, Shared.produceToKafka, metrics, produced, saved]

/-! The whole queue. -/

/-- Redis lets every valid event of the queue through, in the order in which a
worker would ask. -/
def LetsAll (config : Config) (clock : Int) (answers : Nat → RedisReply) (asked : Nat)
    (items : List Message) : Prop :=
  ∀ place < (items.filter (Message.valid config clock)).length,
    config.lets (answers (asked + place)) = true

theorem letsAll_cons {config : Config} {clock : Int} {answers : Nat → RedisReply}
    {working next : Shared capacity} {message : Message} {items : List Message}
    {queue : ThreadSafeQueue Message capacity}
    (path : WorkerPath config clock (answers working.asked.length) message
      (working.next message queue) next) :
    LetsAll config clock answers working.asked.length (message :: items) ↔
      (message.valid config clock = true →
        config.lets (answers working.asked.length) = true) ∧
      LetsAll config clock answers next.asked.length items := by
  rw [workerPath_asked path, next_asked]
  cases limiter : config.rateLimit with
  | none => simp [LetsAll, Config.lets, limiter]
  | some limit =>
      by_cases valid : message.valid config clock = true
      · simp only [LetsAll, valid, List.filter_cons_of_pos, List.length_cons, forall_const,
          Option.isSome_some, and_self, if_true]
        constructor
        · intro all
          refine ⟨all 0 (by omega), fun place bound => ?_⟩
          rw [Nat.add_assoc, Nat.add_comm 1]
          exact all (place + 1) (by omega)
        · rintro ⟨first, rest⟩ place bound
          cases place with
          | zero => exact first
          | succ place =>
              have later := rest place (by omega)
              rwa [Nat.add_assoc, Nat.add_comm 1] at later
      · simp [LetsAll, valid]

theorem loops_terminate (config : Config) (clock : Int) (answers : Nat → RedisReply)
    {items : List Message} (working draining : Shared capacity)
    (running : working.running = true) (left : working.queue.items = items)
    (same : draining.queue = working.queue) :
    (∃ worked, WorksOff config clock answers working worked) ∧
    (∃ drained, DrainsOff config clock draining drained) := by
  induction items generalizing working draining with
  | nil =>
      have empty : draining.queue.tryPop = none := by
        rw [same]
        exact tryPop_none.mpr left
      exact ⟨⟨working, (worksOff_empty running left).mpr rfl⟩,
        ⟨draining, (drainsOff_empty empty).mpr rfl⟩⟩
  | cons message items ih =>
      obtain ⟨queue, front, rest⟩ := front_of_items left
      obtain ⟨workedNext, path, works⟩ := worksOff_next config clock answers running front
      obtain ⟨drainedNext, moved, drains⟩ := drainsOff_next config clock (same ▸ front)
      obtain ⟨workedQueue, stillRunning⟩ := workerPath_frame path
      obtain ⟨drainedQueue, -⟩ := drainMove_frame moved
      obtain ⟨⟨worked, finished⟩, ⟨drained, ended⟩⟩ := ih workedNext drainedNext
        (stillRunning.trans running) (by rw [workedQueue]; exact rest)
        (by rw [drainedQueue, workedQueue]; rfl)
      exact ⟨⟨worked, (works worked).mpr finished⟩, ⟨drained, (drains drained).mpr ended⟩⟩

theorem loops_agree {config : Config} {clock : Int} {answers : Nat → RedisReply}
    {items : List Message} (working draining : Shared capacity) {worked drained : Shared capacity}
    (running : working.running = true) (left : working.queue.items = items)
    (same : draining.queue = working.queue) (agree : Agrees working draining)
    (lets : LetsAll config clock answers working.asked.length items)
    (works : WorksOff config clock answers working worked)
    (drains : DrainsOff config clock draining drained) : Agrees worked drained := by
  induction items generalizing working draining with
  | nil =>
      have empty : draining.queue.tryPop = none := by
        rw [same]
        exact tryPop_none.mpr left
      rw [(worksOff_empty running left).mp works, (drainsOff_empty empty).mp drains]
      exact agree
  | cons message items ih =>
      obtain ⟨queue, front, rest⟩ := front_of_items left
      obtain ⟨workedNext, path, worksNext⟩ := worksOff_next config clock answers running front
      obtain ⟨drainedNext, moved, drainsNext⟩ := drainsOff_next config clock (same ▸ front)
      obtain ⟨workedQueue, stillRunning⟩ := workerPath_frame path
      obtain ⟨drainedQueue, -⟩ := drainMove_frame moved
      obtain ⟨first, later⟩ := (letsAll_cons path).mp lets
      have agreeNext : Agrees workedNext drainedNext :=
        workerPath_drainMove (next_agrees agree message queue) first path moved
      exact ih workedNext drainedNext (stillRunning.trans running) (by rw [workedQueue]; exact rest)
        (by rw [drainedQueue, workedQueue]; rfl) agreeNext later ((worksNext worked).mp works)
        ((drainsNext drained).mp drains)

theorem worksOff_limited {config : Config} {clock : Int} {answers : Nat → RedisReply}
    {items : List Message} {working worked : Shared capacity}
    (running : working.running = true) (left : working.queue.items = items)
    (works : WorksOff config clock answers working worked) :
    working.metrics.totalRateLimited ≤ worked.metrics.totalRateLimited ∧
    (worked.metrics.totalRateLimited = working.metrics.totalRateLimited →
      LetsAll config clock answers working.asked.length items) := by
  induction items generalizing working with
  | nil =>
      rw [(worksOff_empty running left).mp works]
      exact ⟨le_refl _, fun _ => by simp [LetsAll]⟩
  | cons message items ih =>
      obtain ⟨queue, front, rest⟩ := front_of_items left
      obtain ⟨next, path, worksNext⟩ := worksOff_next config clock answers running front
      obtain ⟨sameQueue, stillRunning⟩ := workerPath_frame path
      obtain ⟨grows, later⟩ := ih (stillRunning.trans running) (by rw [sameQueue]; exact rest)
        ((worksNext worked).mp works)
      have limited := workerPath_limited path
      rw [next_metrics] at limited
      refine ⟨by omega, fun unchanged => ?_⟩
      refine (letsAll_cons path).mpr ⟨?_, later (by omega)⟩
      by_contra refused
      rw [if_neg refused] at limited
      omega

theorem drainsOff_limited {config : Config} {clock : Int} {items : List Message}
    {draining drained : Shared capacity} (left : draining.queue.items = items)
    (drains : DrainsOff config clock draining drained) :
    drained.metrics.totalRateLimited = draining.metrics.totalRateLimited := by
  induction items generalizing draining with
  | nil => rw [(drainsOff_empty (tryPop_none.mpr left)).mp drains]
  | cons message items ih =>
      obtain ⟨queue, front, rest⟩ := front_of_items left
      obtain ⟨next, moved, drainsNext⟩ := drainsOff_next config clock front
      obtain ⟨sameQueue, sameLimited⟩ := drainMove_frame moved
      rw [ih (by rw [sameQueue]; exact rest) ((drainsNext drained).mp drains), sameLimited,
        next_metrics]

/-- The drain loop never asks the limiter, so it does what a worker does exactly
when there is no limiter or it would have let every valid event through. -/
theorem drain_matches_worker (config : Config) (clock : Int) (answers : Nat → RedisReply)
    (before : Shared capacity) :
    (∃ worked, WorksOff config clock answers { before with running := true } worked) ∧
    (∃ drained, DrainsOff config clock { before with running := false } drained) ∧
    ∀ worked drained,
      WorksOff config clock answers { before with running := true } worked →
      DrainsOff config clock { before with running := false } drained →
      (Agrees worked drained ↔
        LetsAll config clock answers before.asked.length before.queue.items) := by
  obtain ⟨finishes, ends⟩ := loops_terminate config clock answers
    { before with running := true } { before with running := false } rfl rfl rfl
  refine ⟨finishes, ends, fun worked drained works drains => ⟨fun agree => ?_, fun lets => ?_⟩⟩
  · obtain ⟨-, unlimited⟩ := worksOff_limited rfl rfl works
    have unchanged := drainsOff_limited rfl drains
    rw [← agree.metrics] at unchanged
    exact unlimited unchanged
  · exact loops_agree { before with running := true } { before with running := false } rfl rfl rfl
      ⟨rfl, rfl, rfl⟩ lets works drains

/-! A valid event of a user whom Redis counts up to the limit, or beyond it. -/

def limitedConfig : Config := ⟨sampleParse, some 1, false⟩

def limitedMessage : Message := ⟨0, 0, encodeEvent (eventOf [7])⟩

def limitedQueue : Shared 1 :=
  { Shared.initial 1 with queue := ⟨[limitedMessage], by decide⟩ }

theorem drain_matches_worker_within : ∃ worked drained,
    WorksOff limitedConfig 1 (fun _ => .count 1) { limitedQueue with running := true } worked ∧
    DrainsOff limitedConfig 1 { limitedQueue with running := false } drained ∧
    worked.produced = [⟨[117], limitedMessage⟩] ∧ Agrees worked drained := by
  have works : WorksOff limitedConfig 1 (fun _ => .count 1)
      { limitedQueue with running := true } _ := ⟨10, rfl⟩
  have drains : DrainsOff limitedConfig 1 { limitedQueue with running := false } _ := ⟨2, rfl⟩
  refine ⟨_, _, works, drains, rfl, ?_⟩
  have lets : LetsAll limitedConfig 1 (fun _ => .count 1) 0 limitedQueue.queue.items := by
    intro place _
    rfl
  exact ((drain_matches_worker limitedConfig 1 (fun _ => .count 1) limitedQueue).2.2
    _ _ works drains).mpr lets

theorem drain_skips_limiter : ∃ worked drained,
    WorksOff limitedConfig 1 (fun _ => .count 2) { limitedQueue with running := true } worked ∧
    DrainsOff limitedConfig 1 { limitedQueue with running := false } drained ∧
    worked.metrics.totalRateLimited = 1 ∧ drained.metrics.totalRateLimited = 0 ∧
    worked.produced = [] ∧ drained.produced = [⟨[117], limitedMessage⟩] ∧
    ¬ Agrees worked drained := by
  have works : WorksOff limitedConfig 1 (fun _ => .count 2)
      { limitedQueue with running := true } _ := ⟨9, rfl⟩
  have drains : DrainsOff limitedConfig 1 { limitedQueue with running := false } _ := ⟨2, rfl⟩
  refine ⟨_, _, works, drains, rfl, rfl, rfl, rfl, fun agree => ?_⟩
  exact absurd agree.produced (by decide)

end EventCollector
