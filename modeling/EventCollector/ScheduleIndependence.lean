import EventCollector.EventEncoding
import EventCollector.ExactlyOnce
import EventCollector.Lib.Quota
import EventCollector.Pipeline
import EventCollector.RateLimiter

/-!
The five counters of the workers at the end of a run are those that the accepted
events give when they are judged one by one, whatever the schedule and the back ends;
so is the number of rate-limited events while the limiter's keys live.
-/

namespace EventCollector

open Ledger Quota CounterStore

variable {capacity : Nat}

/-! The events judged one by one. -/

inductive Verdict
  | unparsable
  | invalid
  | valid (userId : Bytes)
  deriving DecidableEq

def judge (parse : Bytes → Option Event) (clock : Int) (data : Bytes) : Verdict :=
  match parse data with
  | none => .unparsable
  | some evt => if validateEvent clock evt then .valid evt.userId else .invalid

def Verdict.user : Verdict → Option Bytes
  | .valid userId => some userId
  | _ => none

def judged (parse : Bytes → Option Event) (clock : Int) (verdict : Verdict)
    (data : List Bytes) : Nat := data.countP fun data => judge parse clock data = verdict

def validUsers (parse : Bytes → Option Event) (clock : Int) (data : List Bytes) : List Bytes :=
  data.filterMap fun data => (judge parse clock data).user

namespace WorkerPc

/-- The event that the worker has not parsed, not validated, not asked about yet. -/
@[simp] def unparsed : WorkerPc → List Bytes
  | .popped message | .received message => [message.data]
  | _ => []

@[simp] def unjudged : WorkerPc → List Bytes
  | .popped message | .received message | .parsed message _ => [message.data]
  | _ => []

@[simp] def unasked : WorkerPc → List Bytes
  | .popped message | .received message | .parsed message _ | .valid message _ => [message.data]
  | _ => []

@[simp] def Judged (parse : Bytes → Option Event) (clock : Int) : WorkerPc → Prop
  | .parsed message evt => parse message.data = some evt
  | .valid message evt => judge parse clock message.data = .valid evt.userId
  | _ => True

end WorkerPc

def Shared.takenData (shared : Shared capacity) : List Bytes := shared.taken.map Message.data

section

variable {parse : Bytes → Option Event} {deployment : Deployment} {clock : Int}

@[simp] theorem judged_nil (verdict : Verdict) : judged parse clock verdict [] = 0 := rfl

@[simp] theorem judged_append (verdict : Verdict) (first second : List Bytes) :
    judged parse clock verdict (first ++ second) =
      judged parse clock verdict first + judged parse clock verdict second :=
  List.countP_append

@[simp] theorem judged_singleton (verdict : Verdict) (data : Bytes) :
    judged parse clock verdict [data] = if judge parse clock data = verdict then 1 else 0 := by
  simp [judged, List.countP_singleton]

@[simp] theorem validUsers_nil : validUsers parse clock [] = [] := rfl

@[simp] theorem validUsers_append (first second : List Bytes) :
    validUsers parse clock (first ++ second) =
      validUsers parse clock first ++ validUsers parse clock second :=
  List.filterMap_append

@[simp] theorem validUsers_singleton (data : Bytes) :
    validUsers parse clock [data] = (judge parse clock data).user.toList := by
  cases found : (judge parse clock data).user <;> simp [validUsers, found]

theorem judge_unparsable {data : Bytes} (failed : parse data = none) :
    judge parse clock data = .unparsable := by
  simp only [judge, failed]

theorem judge_invalid {data : Bytes} {evt : Event} (parsed : parse data = some evt)
    (refused : validateEvent clock evt = false) : judge parse clock data = .invalid := by
  simp [judge, parsed, refused]

theorem judge_valid {data : Bytes} {evt : Event} (parsed : parse data = some evt)
    (accepted : validateEvent clock evt = true) :
    judge parse clock data = .valid evt.userId := by
  simp [judge, parsed, accepted]

theorem judge_parsable {data : Bytes} {evt : Event} (parsed : parse data = some evt) :
    judge parse clock data ≠ .unparsable := by
  cases verdict : validateEvent clock evt with
  | true => simp [judge_valid parsed verdict]
  | false => simp [judge_invalid parsed verdict]

theorem workerMove_judged {index : Nat} {reply : RedisReply} {before after : Shared capacity}
    {old new : WorkerPc}
    (moved : WorkerMove (deployment.config parse) index ⟨clock, reply⟩ before old after new)
    (known : old.Judged parse clock) : new.Judged parse clock := by
  cases moved with
  | parse parsed => exact parsed
  | @validate message evt accepted =>
      have parsed : parse message.data = some evt := known
      exact judge_valid parsed accepted
  | _ => trivial

/-- What a step adds to `total_parse_fail` and `total_invalid` it takes from the
worker or from the queue. -/
structure Tallies (parse : Bytes → Option Event) (clock : Int) (before after : Shared capacity)
    (old new : WorkerPc) : Prop where
  failed : after.metrics.totalParseFail + judged parse clock .unparsable new.unparsed +
      judged parse clock .unparsable before.takenData =
    before.metrics.totalParseFail + judged parse clock .unparsable old.unparsed +
      judged parse clock .unparsable after.takenData
  invalid : after.metrics.totalInvalid + judged parse clock .invalid new.unjudged +
      judged parse clock .invalid before.takenData =
    before.metrics.totalInvalid + judged parse clock .invalid old.unjudged +
      judged parse clock .invalid after.takenData

theorem workerMove_tallies {index : Nat} {reply : RedisReply} {before after : Shared capacity}
    {old new : WorkerPc}
    (moved : WorkerMove (deployment.config parse) index ⟨clock, reply⟩ before old after new)
    (known : old.Judged parse clock) : Tallies parse clock before after old new := by
  cases moved with
  | pop _ =>
      constructor
      · simp [Shared.takenData]
        omega
      · simp [Shared.takenData]
        omega
  | parseFail failed =>
      have verdict : judge parse clock _ = .unparsable := judge_unparsable failed
      constructor
      · simp [Shared.takenData, verdict]
      · simp [Shared.takenData, verdict]
  | parse parsed =>
      have verdict : judge parse clock _ ≠ .unparsable := judge_parsable parsed
      constructor
      · simp [Shared.takenData, verdict]
      · simp [Shared.takenData]
  | reject refused =>
      have verdict := judge_invalid known refused
      constructor
      · simp [Shared.takenData]
      · simp [Shared.takenData, verdict]
  | validate accepted =>
      have verdict := judge_valid known accepted
      constructor
      · simp [Shared.takenData]
      · simp [Shared.takenData, verdict]
  | produce => constructor <;> simp [Shared.produceToKafka, Shared.takenData]
  | save => constructor <;> simp [save_eq, Shared.takenData]
  | _ => constructor <;> rfl

theorem workerMove_asked {index : Nat} {reply : RedisReply} {before after : Shared capacity}
    {old new : WorkerPc} (limited : deployment.rateLimit ≠ none)
    (moved : WorkerMove (deployment.config parse) index ⟨clock, reply⟩ before old after new)
    (known : old.Judged parse clock) :
    bag after.asked + bag (validUsers parse clock new.unasked) +
        bag (validUsers parse clock before.takenData) =
      bag before.asked + bag (validUsers parse clock old.unasked) +
        bag (validUsers parse clock after.takenData) := by
  cases moved with
  | pop _ =>
      simp only [Shared.takenData, WorkerPc.unasked, List.map_append, List.map_singleton,
        validUsers_append, validUsers_nil, bag_append, bag_nil, add_zero]
      ac_rfl
  | parseFail failed =>
      have verdict : judge parse clock _ = .unparsable := judge_unparsable failed
      simp [Shared.takenData, verdict, Verdict.user]
  | reject refused =>
      have verdict := judge_invalid known refused
      simp [Shared.takenData, verdict, Verdict.user]
  | unlimited disabled => exact absurd disabled limited
  | allow _ _ =>
      have verdict : judge parse clock _ = _ := known
      simp [Shared.takenData, verdict, Verdict.user]
  | limit _ _ =>
      have verdict : judge parse clock _ = _ := known
      simp [Shared.takenData, verdict, Verdict.user]
  | produce => simp [Shared.produceToKafka, Shared.takenData]
  | save => simp [save_eq, Shared.takenData]
  | _ => rfl

/-! Over the whole pool. -/

structure Balanced (parse : Bytes → Option Event) (deployment : Deployment) (clock : Int)
    (system : System capacity) : Prop where
  known : ∀ pc ∈ system.workers, pc.Judged parse clock
  failed : judged parse clock .unparsable system.shared.takenData =
    system.shared.metrics.totalParseFail +
      tally (fun pc => judged parse clock .unparsable pc.unparsed) system.workers
  invalid : judged parse clock .invalid system.shared.takenData =
    system.shared.metrics.totalInvalid +
      tally (fun pc => judged parse clock .invalid pc.unjudged) system.workers
  asked : deployment.rateLimit ≠ none →
    bag (validUsers parse clock system.shared.takenData) = bag system.shared.asked +
      tally (fun pc => bag (validUsers parse clock pc.unasked)) system.workers

theorem balanced_sameWork {before after : System capacity}
    (holds : Balanced parse deployment clock before) (same : SameWork before after) :
    Balanced parse deployment clock after := by
  have data : after.shared.takenData = before.shared.takenData := by
    simp only [Shared.takenData, same.taken]
  constructor
  · rw [same.workers]
    exact holds.known
  · rw [data, same.failed, same.workers]
    exact holds.failed
  · rw [data, same.invalid, same.workers]
    exact holds.invalid
  · rw [data, same.asked, same.workers]
    exact holds.asked

theorem balanced_worker {system : System capacity} {index : Nat} {reply : RedisReply}
    {old new : WorkerPc} {shared : Shared capacity}
    (holds : Balanced parse deployment clock system) (found : system.workers[index]? = some old)
    (moved : WorkerMove (deployment.config parse) index ⟨clock, reply⟩ system.shared old shared
      new) : Balanced parse deployment clock
        { system with shared := shared, workers := system.workers.set index new } := by
  have known := holds.known old (List.mem_of_getElem? found)
  have tallies := workerMove_tallies moved known
  constructor
  · exact forall_set holds.known (workerMove_judged moved known)
  · exact account_set holds.failed found tallies.failed
  · exact account_set holds.invalid found tallies.invalid
  · intro limited
    exact account_set (holds.asked limited) found (workerMove_asked limited moved known)

theorem balanced_initial (sessions workers : Nat) : Balanced parse deployment clock
    (systemMachine (deployment.config parse) capacity sessions workers).initial := by
  have noneFailed := tally_replicate_zero
    (fun pc : WorkerPc => judged parse clock .unparsable pc.unparsed) .check rfl workers
  have noneInvalid := tally_replicate_zero
    (fun pc : WorkerPc => judged parse clock .invalid pc.unjudged) .check rfl workers
  have noneAsked := tally_replicate_zero
    (fun pc : WorkerPc => bag (validUsers parse clock pc.unasked)) .check rfl workers
  constructor
  · intro pc member
    rw [List.eq_of_mem_replicate member]
    trivial
  · simp only [systemMachine, noneFailed]
    rfl
  · simp only [systemMachine, noneInvalid]
    rfl
  · intro _
    simp only [systemMachine, noneAsked]
    rfl

theorem pipeline_balanced {redis : CounterStore Bytes} {sessions workers : Nat}
    {pipeline : Pipeline capacity} (reachable : (pipelineMachine parse deployment clock redis
      capacity sessions workers).Reachable pipeline) :
    Balanced parse deployment clock pipeline.system := by
  refine Machine.reachable_invariant
    (fun pipeline => Balanced parse deployment clock pipeline.system)
    (balanced_initial sessions workers) ?_ reachable
  intro before label after holds stepped
  cases pipelineStep_move stepped with
  | offer offered => exact balanced_sameWork holds (offer_sameWork offered)
  | drop dropped => exact balanced_sameWork holds (drop_sameWork dropped)
  | worker found ran _ _ => exact balanced_worker holds found (workerStep_move ran)
  | kafka _ _ => exact holds
  | storage _ => exact holds

/-! The limiter, while Redis answers and no key runs out. -/

/-- The reply is a count, and a key that Redis still has has not expired. -/
def answersSoundly (outcome : RedisOutcome) (userId : Bytes) (redis : CounterStore Bytes) : Bool :=
  match outcome with
  | .answers now => decide ((rateScript now (rateKey userId) redis).1 ≠ .error) &&
      (redis (rateKey userId)).all (Counter.alive · now)
  | _ => false

def Pipeline.healthy (deployment : Deployment) (pipeline : Pipeline capacity) :
    PipelineLabel → Bool
  | .worker index outcome =>
      match deployment.rateLimit, pipeline.system.workers[index]? with
      | some _, some (.valid _ evt) => answersSoundly outcome evt.userId pipeline.redis
      | _, _ => true
  | _ => true

/-- In this step Redis does not err on the limiter, nor does a key run out. -/
def Healthy (deployment : Deployment) (pipeline : Pipeline capacity) (label : PipelineLabel) :
    Prop := pipeline.healthy deployment label = true

instance (deployment : Deployment) (pipeline : Pipeline capacity) (label : PipelineLabel) :
    Decidable (Healthy deployment pipeline label) :=
  inferInstanceAs (Decidable (_ = _))

@[simp] def WorkerPc.isLimited : WorkerPc → Bool
  | .limited _ _ => true
  | _ => false

def KeyCounts (redis : CounterStore Bytes) (userId : Bytes) (count : Nat) : Prop :=
  (count = 0 ∧ redis (rateKey userId) = none) ∨
    (0 < count ∧ ∃ expiry, redis (rateKey userId) = some ⟨count, some expiry⟩)

theorem evalScript_counts {redis : CounterStore Bytes} {userId : Bytes} {count : Nat}
    {outcome : RedisOutcome} (counted : KeyCounts redis userId count)
    (sound : answersSoundly outcome userId redis = true) :
    count + 1 < 2 ^ 63 ∧
    (evalScript outcome userId redis).1 = .count (Int64.ofNat (count + 1)) ∧
    KeyCounts (evalScript outcome userId redis).2 userId (count + 1) := by
  cases outcome with
  | replyLost now => simp [answersSoundly] at sound
  | fails => simp [answersSoundly] at sound
  | answers now =>
      simp only [answersSoundly, Bool.and_eq_true, decide_eq_true_eq] at sound
      obtain ⟨answered, alive⟩ := sound
      rcases counted with ⟨rfl, absent⟩ | ⟨positive, expiry, stored⟩
      · have opens := rateScript_opens (lookup_absent absent now)
        simp only [evalScript, opens]
        exact ⟨by omega, trivial, Or.inr ⟨by omega, _, put_same _ _ _⟩⟩
      · have early : now < expiry := by simpa [stored, Counter.alive] using alive
        rcases rateScript_counts (lookup_live stored early) positive with ⟨small, counts⟩ | errs
        · simp only [evalScript, counts]
          exact ⟨small, trivial, Or.inr ⟨by omega, expiry, put_same _ _ _⟩⟩
        · rw [errs] at answered
          exact absurd rfl answered

theorem evalScript_other (outcome : RedisOutcome) (redis : CounterStore Bytes)
    {userId other : Bytes} (different : other ≠ userId) :
    (evalScript outcome userId redis).2 (rateKey other) = redis (rateKey other) := by
  have apart : rateKey other ≠ rateKey userId := fun same => different (rateKey_injective same)
  cases outcome with
  | fails => rfl
  | _ => exact rateScript_other apart

structure Metered (limit : UInt64) (pipeline : Pipeline capacity) : Prop where
  counts : ∀ userId, KeyCounts pipeline.redis userId (uses pipeline.system.shared.asked userId)
  limited : excess limit.toNat pipeline.system.shared.asked =
    pipeline.system.shared.metrics.totalRateLimited +
      pipeline.system.workers.countP WorkerPc.isLimited

theorem consult_valid {limit : UInt64} (limited : deployment.rateLimit = some limit)
    (message : Message) (evt : Event) (outcome : RedisOutcome) (redis : CounterStore Bytes) :
    Pipeline.consult deployment (.valid message evt) outcome redis =
      evalScript outcome evt.userId redis := by
  simp only [Pipeline.consult, limited]

theorem consult_elsewhere {pc : WorkerPc} (elsewhere : ∀ message evt, pc ≠ .valid message evt)
    (outcome : RedisOutcome) (redis : CounterStore Bytes) :
    (Pipeline.consult deployment pc outcome redis).2 = redis := by
  unfold Pipeline.consult
  split
  · exact absurd rfl (elsewhere _ _)
  · rfl

/-- A step that does not ask leaves the count of the refused where it is. -/
structure Unasked (before after : Shared capacity) (old new : WorkerPc) : Prop where
  elsewhere : ∀ message evt, old ≠ .valid message evt
  asked : after.asked = before.asked
  limited : after.metrics.totalRateLimited + indicator WorkerPc.isLimited new =
    before.metrics.totalRateLimited + indicator WorkerPc.isLimited old

theorem workerMove_unasked {config : Config} {limit : UInt64} {index : Nat} {input : Input}
    {before after : Shared capacity} {old new : WorkerPc} (enabled : config.rateLimit = some limit)
    (moved : WorkerMove config index input before old after new) :
    Unasked before after old new ∨ ∃ message evt, old = .valid message evt ∧
      after = { before with asked := before.asked ++ [evt.userId] } ∧
      new = if allow limit input.reply then .allowed message evt else .limited message evt := by
  cases moved with
  | unlimited disabled => simp [enabled] at disabled
  | @allow message evt granted given answer =>
      obtain rfl : granted = limit := Option.some.inj (given.symm.trans enabled)
      exact Or.inr ⟨message, evt, rfl, rfl, by simp [answer]⟩
  | @limit message evt granted given answer =>
      obtain rfl : granted = limit := Option.some.inj (given.symm.trans enabled)
      exact Or.inr ⟨message, evt, rfl, rfl, by simp [answer]⟩
  | save => exact Or.inl ⟨by simp, by simp [save_eq], by simp [save_eq, indicator]⟩
  | rateLimited => exact Or.inl ⟨by simp, rfl, by simp [indicator]⟩
  | _ => exact Or.inl ⟨by simp, rfl, rfl⟩

theorem metered_ask {limit : UInt64} {pipeline : Pipeline capacity} {index : Nat}
    {outcome : RedisOutcome} {message : Message} {evt : Event} {redis : CounterStore Bytes}
    {reply : RedisReply} (holds : Metered limit pipeline)
    (found : pipeline.system.workers[index]? = some (.valid message evt))
    (sound : answersSoundly outcome evt.userId pipeline.redis = true)
    (evaluated : evalScript outcome evt.userId pipeline.redis = (reply, redis))
    (kafka : KafkaSystem) (storage : StorageSystem) :
    Metered limit
      { system := { pipeline.system with
          shared.asked := pipeline.system.shared.asked ++ [evt.userId]
          workers := pipeline.system.workers.set index
            (if allow limit reply then .allowed message evt else .limited message evt) }
        kafka := kafka
        storage := storage
        redis := redis } := by
  have own := holds.counts evt.userId
  obtain ⟨small, replied, stored⟩ := evalScript_counts own sound
  rw [evaluated] at replied stored
  constructor
  · intro userId
    by_cases same : userId = evt.userId
    · subst same
      simpa only [uses_same] using stored
    · have kept := evalScript_other outcome pipeline.redis same
      rw [evaluated] at kept
      have before := holds.counts userId
      rw [KeyCounts, ← kept, ← uses_other _ same] at before
      exact before
  · have verdict := allow_count small limit
    have exceeded := excess_snoc limit.toNat pipeline.system.shared.asked evt.userId
    have limited := holds.limited
    simp only at replied
    rw [replied, verdict]
    by_cases room : uses pipeline.system.shared.asked evt.userId + 1 ≤ limit.toNat
    · have places := countP_set WorkerPc.isLimited (.allowed message evt) found
      simp only [room, decide_true, if_true]
      rw [if_neg (by omega)] at exceeded
      simp only [indicator, WorkerPc.isLimited, Bool.false_eq_true, if_false] at places
      omega
    · have places := countP_set WorkerPc.isLimited (.limited message evt) found
      simp only [room, decide_false, Bool.false_eq_true, if_false]
      rw [if_pos (by omega)] at exceeded
      simp only [indicator, WorkerPc.isLimited, Bool.false_eq_true, if_false, if_true] at places
      omega

theorem metered_other {limit : UInt64} {before after : Pipeline capacity}
    (holds : Metered limit before) (redis : after.redis = before.redis)
    (asked : after.system.shared.asked = before.system.shared.asked)
    (limited : after.system.shared.metrics.totalRateLimited +
        after.system.workers.countP WorkerPc.isLimited =
      before.system.shared.metrics.totalRateLimited +
        before.system.workers.countP WorkerPc.isLimited) : Metered limit after := by
  constructor
  · rw [redis, asked]
    exact holds.counts
  · rw [asked, limited]
    exact holds.limited

theorem metered_worker {limit : UInt64} {pipeline : Pipeline capacity} {index : Nat}
    {outcome : RedisOutcome} {old new : WorkerPc} {shared : Shared capacity}
    (enabled : deployment.rateLimit = some limit) (holds : Metered limit pipeline)
    (healthy : Healthy deployment pipeline (.worker index outcome))
    (found : pipeline.system.workers[index]? = some old)
    (moved : WorkerMove (deployment.config parse) index
      ⟨clock, (Pipeline.consult deployment old outcome pipeline.redis).1⟩
      pipeline.system.shared old shared new) (kafka : KafkaSystem) (storage : StorageSystem) :
    Metered limit
      { system := { pipeline.system with
          shared := shared
          workers := pipeline.system.workers.set index new }
        kafka := kafka
        storage := storage
        redis := (Pipeline.consult deployment old outcome pipeline.redis).2 } := by
  rcases workerMove_unasked enabled moved with unasked | ⟨message, evt, rfl, rfl, rfl⟩
  · have places := countP_set WorkerPc.isLimited new found
    have limited := unasked.limited
    refine metered_other holds (consult_elsewhere unasked.elsewhere outcome pipeline.redis)
      unasked.asked ?_
    simp only
    omega
  · have sound : answersSoundly outcome evt.userId pipeline.redis = true := by
      simpa only [Healthy, Pipeline.healthy, enabled, found] using healthy
    rw [consult_valid enabled]
    exact metered_ask holds found sound rfl kafka storage

theorem metered_step {limit : UInt64} {pipeline next : Pipeline capacity} {label : PipelineLabel}
    (enabled : deployment.rateLimit = some limit) (holds : Metered limit pipeline)
    (healthy : Healthy deployment pipeline label)
    (stepped : pipeline.step parse deployment clock label = some next) : Metered limit next := by
  cases pipelineStep_move stepped with
  | offer offered =>
      have same := offer_sameWork offered
      exact metered_other holds rfl same.asked (by rw [same.limited, same.workers])
  | drop dropped =>
      have same := drop_sameWork dropped
      exact metered_other holds rfl same.asked (by rw [same.limited, same.workers])
  | worker found ran _ _ =>
      exact metered_worker enabled holds healthy found (workerStep_move ran) _ _
  | kafka _ _ => exact metered_other holds rfl rfl rfl
  | storage _ => exact metered_other holds rfl rfl rfl

theorem pipeline_metered {limit : UInt64} {redis : CounterStore Bytes} {sessions workers : Nat}
    (enabled : deployment.rateLimit = some limit)
    (fresh : ∀ userId, redis (rateKey userId) = none) {labels : List PipelineLabel}
    {pipeline : Pipeline capacity}
    (reached : (pipelineMachine parse deployment clock redis capacity sessions workers).run
      (pipelineMachine parse deployment clock redis capacity sessions workers).initial labels =
        some pipeline)
    (healthy : (pipelineMachine parse deployment clock redis capacity sessions workers).Steps
      (Healthy deployment)
      (pipelineMachine parse deployment clock redis capacity sessions workers).initial labels) :
    Metered limit pipeline := by
  have initially : Metered limit
      (pipelineMachine parse deployment clock redis capacity sessions workers).initial := by
    constructor
    · exact fun userId => Or.inl ⟨rfl, fresh userId⟩
    · simp [pipelineMachine, systemMachine, Shared.initial, List.countP_replicate]
  exact Machine.always_final (Machine.always_of_steps (Metered limit) (fun _ holds => holds)
    (fun _ _ _ holds allowed stepped => metered_step enabled holds allowed stepped)
    initially healthy) reached

/-! What a run that has worked everything off leaves in the counters. -/

def Pipeline.acceptedData (pipeline : Pipeline capacity) : List Bytes :=
  pipeline.system.shared.accepted.map Message.data

structure WorkedOff (pipeline : Pipeline capacity) : Prop where
  empty : pipeline.system.shared.queue.items = []
  between : ∀ pc ∈ pipeline.system.workers, pc.betweenEvents = true

theorem taken_all {redis : CounterStore Bytes} {sessions workers : Nat}
    {pipeline : Pipeline capacity} (reachable : (pipelineMachine parse deployment clock redis
      capacity sessions workers).Reachable pipeline) (done : WorkedOff pipeline) :
    pipeline.system.shared.taken = pipeline.system.shared.accepted := by
  have order := systemMachine_fifo (pipeline_system reachable)
  rw [done.empty, List.append_nil] at order
  exact order

structure JudgedCounts (parse : Bytes → Option Event) (clock : Int) (data : List Bytes)
    (metrics : Metrics) : Prop where
  received : metrics.totalReceived = data.length
  failed : metrics.totalParseFail = judged parse clock .unparsable data
  invalid : metrics.totalInvalid = judged parse clock .invalid data
  parsed : metrics.totalReceived = metrics.totalParsed + metrics.totalParseFail
  valid : metrics.totalParsed = metrics.totalValid + metrics.totalInvalid

theorem pipeline_counts {redis : CounterStore Bytes} {sessions workers : Nat}
    {pipeline : Pipeline capacity} (reachable : (pipelineMachine parse deployment clock redis
      capacity sessions workers).Reachable pipeline) (done : WorkedOff pipeline) :
    JudgedCounts parse clock pipeline.acceptedData pipeline.metrics := by
  have system := pipeline_system reachable
  have taking := (systemMachine_custody system).received
  obtain ⟨-, parsing, validating, -⟩ := systemMachine_conservation system
  obtain ⟨-, failed, invalid, -⟩ := pipeline_balanced reachable
  have all := taken_all reachable done
  have data : pipeline.system.shared.takenData = pipeline.acceptedData := by
    rw [Shared.takenData, all, Pipeline.acceptedData]
  have received := countP_between WorkerPc.isReceived rfl rfl rfl done.between
  have parsed := countP_between WorkerPc.isParsed rfl rfl rfl done.between
  have popped := tally_between (indicator WorkerPc.isPopped) rfl rfl rfl done.between
  have unparsed := tally_between (fun pc => judged parse clock .unparsable pc.unparsed)
    rfl rfl rfl done.between
  have unjudged := tally_between (fun pc => judged parse clock .invalid pc.unjudged)
    rfl rfl rfl done.between
  rw [data, unparsed] at failed
  rw [data, unjudged] at invalid
  rw [all, popped] at taking
  have size : pipeline.acceptedData.length = pipeline.system.shared.accepted.length :=
    List.length_map _
  constructor
  · exact (size.trans taking).symm
  · exact failed.symm
  · exact invalid.symm
  · rw [received] at parsing
    exact parsing
  · rw [parsed] at validating
    exact validating

theorem pipeline_asked {redis : CounterStore Bytes} {sessions workers : Nat}
    {pipeline : Pipeline capacity} (reachable : (pipelineMachine parse deployment clock redis
      capacity sessions workers).Reachable pipeline) (done : WorkedOff pipeline)
    (limited : deployment.rateLimit ≠ none) :
    (validUsers parse clock pipeline.acceptedData).Perm pipeline.system.shared.asked := by
  have asked := (pipeline_balanced reachable).asked limited
  have unasked := tally_between (fun pc => bag (validUsers parse clock pc.unasked))
    rfl rfl rfl done.between
  rw [unasked, add_zero, Shared.takenData, taken_all reachable done] at asked
  exact bag_eq_bag.mp asked

end

/-- Two runs with the same events give the same five counters, and in a run with a
healthy limiter each user's valid events beyond the limit are rate limited, whichever
of them it meets first. -/
theorem counters_independent_of_schedule (parse : Bytes → Option Event) (clock : Int)
    {one other : Deployment} {redis redis' : CounterStore Bytes}
    {capacity capacity' sessions sessions' workers workers' : Nat}
    {first : Pipeline capacity} {second : Pipeline capacity'} {labels : List PipelineLabel}
    (reached : (pipelineMachine parse one clock redis capacity sessions workers).run
      (pipelineMachine parse one clock redis capacity sessions workers).initial labels = some first)
    (reached' : (pipelineMachine parse other clock redis' capacity' sessions' workers').Reachable
      second)
    (done : WorkedOff first) (done' : WorkedOff second)
    (same : first.acceptedData.Perm second.acceptedData) :
    first.metrics.totalReceived = second.metrics.totalReceived ∧
    first.metrics.totalParsed = second.metrics.totalParsed ∧
    first.metrics.totalParseFail = second.metrics.totalParseFail ∧
    first.metrics.totalValid = second.metrics.totalValid ∧
    first.metrics.totalInvalid = second.metrics.totalInvalid ∧
    ∀ limit, one.rateLimit = some limit → (∀ userId, redis (rateKey userId) = none) →
      (pipelineMachine parse one clock redis capacity sessions workers).Steps (Healthy one)
        (pipelineMachine parse one clock redis capacity sessions workers).initial labels →
      first.metrics.totalRateLimited =
        ∑ userId ∈ (validUsers parse clock first.acceptedData).toFinset,
          (uses (validUsers parse clock first.acceptedData) userId - limit.toNat) := by
  have left := pipeline_counts ⟨labels, reached⟩ done
  have right := pipeline_counts reached' done'
  have received : first.metrics.totalReceived = second.metrics.totalReceived := by
    rw [left.received, right.received, same.length_eq]
  have failed : first.metrics.totalParseFail = second.metrics.totalParseFail := by
    rw [left.failed, right.failed]
    exact same.countP_eq _
  have invalid : first.metrics.totalInvalid = second.metrics.totalInvalid := by
    rw [left.invalid, right.invalid]
    exact same.countP_eq _
  have parsing := left.parsed
  have parsing' := right.parsed
  have validating := left.valid
  have validating' := right.valid
  refine ⟨received, by omega, failed, by omega, invalid, ?_⟩
  intro limit enabled fresh healthy
  have metered := (pipeline_metered enabled fresh reached healthy).limited
  have settled : first.system.workers.countP WorkerPc.isLimited = 0 :=
    countP_between WorkerPc.isLimited rfl rfl rfl done.between
  have asked := pipeline_asked ⟨labels, reached⟩ done (by simp [enabled])
  rw [settled, Nat.add_zero, ← excess_perm limit.toNat asked] at metered
  exact metered.symm

/-- Three events, one worker, no back end. -/
def plainRun : List PipelineLabel :=
  [.offer 0 (encodeEvent (eventOf [7])), .offer 0 (encodeEvent (eventOf [8])), .offer 0 [1]] ++
    List.replicate 20 (.worker 0 .fails)

/-- The same events, two workers and all back ends with a limit of 1: worker 1 asks
first, worker 0 is refused, and Kafka takes nothing. -/
def limitedRun : List PipelineLabel :=
  [.offer 0 [1], .offer 0 (encodeEvent (eventOf [7])), .offer 0 (encodeEvent (eventOf [8]))] ++
    List.replicate 9 (.worker 0 .fails) ++ List.replicate 5 (.worker 1 .fails) ++
    [.worker 1 (.answers 5), .worker 0 (.answers 6), .worker 0 .fails, .worker 1 .fails,
      .kafka (.produce 1 false), .kafka (.pollReturns 1), .kafka (.produce 1 false),
      .kafka (.countFail 1), .worker 1 .fails]

def Pipeline.summary (pipeline : Pipeline capacity) :
    List Message × List WorkerPc × List Bytes × Nat :=
  (pipeline.system.shared.queue.items, pipeline.system.workers, pipeline.acceptedData,
    pipeline.metrics.totalKafkaFail)

theorem counters_independent_of_schedule_limited :
    let plain := pipelineMachine sampleParse ⟨none, false, false⟩ 1 (fun _ => none) 3 1 1
    let limited := pipelineMachine sampleParse ⟨some 1, true, true⟩ 1 (fun _ => none) 3 1 2
    ∃ first second, limited.run limited.initial limitedRun = some first ∧
      plain.run plain.initial plainRun = some second ∧
      first.metrics.totalKafkaFail = 1 ∧ first.metrics.totalValid = second.metrics.totalValid ∧
      first.metrics.totalRateLimited = 1 := by
  intro plain limited
  have summary : (limited.run limited.initial limitedRun).map Pipeline.summary =
      some ([], [.check, .check],
        [[1], encodeEvent (eventOf [7]), encodeEvent (eventOf [8])], 1) := by decide +kernel
  have summary' : (plain.run plain.initial plainRun).map Pipeline.summary =
      some ([], [.check],
        [encodeEvent (eventOf [7]), encodeEvent (eventOf [8]), [1]], 0) := by decide +kernel
  have healthy : limited.Steps (Healthy ⟨some 1, true, true⟩) limited.initial limitedRun := by
    decide +kernel
  obtain ⟨first, reached, facts⟩ := Option.map_eq_some_iff.mp summary
  obtain ⟨second, reached', facts'⟩ := Option.map_eq_some_iff.mp summary'
  simp only [Pipeline.summary, Prod.mk.injEq] at facts facts'
  obtain ⟨empty, idle, data, fails⟩ := facts
  obtain ⟨empty', idle', data', -⟩ := facts'
  have same : first.acceptedData.Perm second.acceptedData := by
    rw [data, data']
    decide
  obtain ⟨-, -, -, valid, -, refused⟩ := counters_independent_of_schedule sampleParse 1 reached
    ⟨plainRun, reached'⟩ ⟨empty, by simp [idle]⟩ ⟨empty', by simp [idle']⟩ same
  refine ⟨first, second, reached, reached', fails, valid, ?_⟩
  rw [refused 1 rfl (fun _ => rfl) healthy, data]
  decide

end EventCollector
