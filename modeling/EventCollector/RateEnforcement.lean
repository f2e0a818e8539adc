import EventCollector.EventEncoding
import EventCollector.ExactlyOnce
import EventCollector.Pipeline
import EventCollector.RateLimiter

/-!
The rate limit as the workers enforce it, with a Redis that may fail: a script that runs
counts even if its reply is lost, and an event whose reply is lost passes. What the limit
still bounds, and that no event is refused before the limit is used up.
-/

namespace EventCollector

open CounterStore Ledger Windows

variable {capacity : Nat}

/-! The calls of `allow` that a run makes. -/

/-- `script` is what ran in Redis, if it ran, `reply` what came back. -/
structure Consultation where
  userId : Bytes
  script : Option AllowEntry
  reply : RedisReply
  deriving DecidableEq

def RedisOutcome.time : RedisOutcome → Option Nat
  | .answers now | .replyLost now => some now
  | .fails => none

def consultation (limit : UInt64) (userId : Bytes) (outcome : RedisOutcome)
    (redis : CounterStore Bytes) : Consultation where
  userId := userId
  script := outcome.time.map fun now => Limiter.entry limit redis ⟨now, userId⟩
  reply := (evalScript outcome userId redis).1

def WorkerPc.consults (limit : UInt64) (outcome : RedisOutcome) (redis : CounterStore Bytes) :
    WorkerPc → List Consultation
  | .valid _ evt => [consultation limit evt.userId outcome redis]
  | _ => []

def consultations (limit : UInt64) (pipeline : Pipeline capacity) :
    Int × PipelineLabel → List Consultation
  | (_, .worker index outcome) =>
      (pipeline.system.workers[index]?).elim [] (·.consults limit outcome pipeline.redis)
  | _ => []

namespace Consultation

def passes (limit : UInt64) (consultation : Consultation) : Bool :=
  allow limit consultation.reply

def failed (consultation : Consultation) : Bool := decide (consultation.reply = .error)

/-- The script as an entry of the limiter's history, if `INCR` did not overflow. -/
def counted (consultation : Consultation) : Option AllowEntry :=
  consultation.script.filter fun entry => entry.reply ≠ .error

def time (consultation : Consultation) : Option Nat :=
  consultation.script.map fun entry => entry.call.time

/-- The script ran in the 60 seconds from `start` on. -/
def during (start : Nat) (consultation : Consultation) : Bool :=
  consultation.time.any fun time => decide (start ≤ time ∧ time < start + windowSecs * 1000)

end Consultation

/-! The limiter's history. -/

theorem rateScript_error {now : Nat} {key : Bytes} {store : CounterStore Bytes}
    (failed : (rateScript now key store).1 = .error) : (rateScript now key store).2 = store := by
  unfold rateScript at failed ⊢
  split
  · rfl
  · rename_i counted
    simp [counted] at failed

/-- A call is refused only if the limit is used up in the 60 seconds before it. -/
theorem refused_late {limit : UInt64} {limiter : Limiter} {call : AllowCall}
    (limited : Limited limit.toNat call.userId limiter)
    (answered : (Limiter.entry limit limiter.store call).reply ≠ .error)
    (refused : (Limiter.entry limit limiter.store call).allowed = false) :
    limit.toNat ≤ (limiter.own call.userId).countP
      fun entry => decide (call.time < entry.call.time + windowSecs * 1000) := by
  have opens (absent : limiter.store.lookup call.time (rateKey call.userId) = none) :
      limit.toNat = 0 := by
    have answer : (Limiter.entry limit limiter.store call).allowed = decide (1 ≤ limit.toNat) :=
      (congrArg (allow limit) (congrArg Prod.fst (rateScript_opens absent))).trans
        (allow_count (by omega) limit)
    rw [answer, decide_eq_false_iff_not] at refused
    omega
  rcases limited with ⟨-, absent⟩ | ⟨earlier, last, windowed⟩
  · rw [opens (lookup_absent absent call.time)]
    exact Nat.zero_le _
  · rcases Nat.lt_or_ge call.time (last.start + windowSecs * 1000) with live | late
    · have found := lookup_live windowed.key live
      have ranked := windowed.ranked last (by simp)
      rcases rateScript_counts found ranked.nonempty with ⟨small, script⟩ | script
      · have answer : (Limiter.entry limit limiter.store call).allowed =
            decide (last.items.length + 1 ≤ limit.toNat) :=
          (congrArg (allow limit) (congrArg Prod.fst script)).trans (allow_count small limit)
        rw [answer, decide_eq_false_iff_not] at refused
        have recent : last.items.countP
            (fun entry => decide (call.time < entry.call.time + windowSecs * 1000)) =
              last.items.length := by
          rw [List.countP_eq_length]
          intro entry member
          have after : last.start ≤ entry.call.time := (last.inside entry member).1
          exact decide_eq_true (Nat.lt_of_lt_of_le live (Nat.add_le_add_right after _))
        rw [windowed.calls, List.flatMap_append, List.countP_append, List.flatMap_singleton, recent]
        omega
      · exact absurd (congrArg Prod.fst script) answered
    · rw [opens (lookup_expired windowed.key late)]
      exact Nat.zero_le _

def recentBefore (userId : Bytes) (time : Nat) (entry : AllowEntry) : Bool :=
  decide (time < entry.call.time + windowSecs * 1000) && decide (entry.call.userId = userId)

/-- Whoever was refused had used up the limit. -/
def Due (limit : UInt64) (trace : List AllowEntry) : Prop :=
  ∀ earlier entry later, trace = earlier ++ entry :: later → entry.allowed = false →
    limit.toNat ≤ earlier.countP (recentBefore entry.call.userId entry.call.time)

theorem due_step {limit : UInt64} {limiter : Limiter} {call : AllowCall}
    (due : Due limit limiter.trace) (limited : Limited limit.toNat call.userId limiter)
    (answered : (Limiter.entry limit limiter.store call).reply ≠ .error) :
    Due limit (limiter.next limit call).trace := by
  intro before entry after split refused
  rcases List.eq_nil_or_concat after with rfl | ⟨front, last, rfl⟩
  · obtain ⟨same, newest⟩ := List.append_inj' (show limiter.trace ++
      [Limiter.entry limit limiter.store call] = before ++ [entry] from split) rfl
    obtain rfl : Limiter.entry limit limiter.store call = entry := List.singleton_inj.mp newest
    have used := refused_late limited answered refused
    rw [Limiter.own, List.countP_filter, same] at used
    exact used
  · refine due before entry front ?_ refused
    have shape : limiter.trace ++ [Limiter.entry limit limiter.store call] =
        (before ++ entry :: front) ++ [last] := by simpa [Limiter.next] using split
    exact (List.append_inj' shape rfl).1

theorem limiterMachine_due {limit : UInt64} {others : CounterStore Bytes}
    (fresh : ∀ userId, others (rateKey userId) = none) {limiter : Limiter}
    (reachable : (limiterMachine limit others).Reachable limiter)
    (answered : ∀ entry ∈ limiter.trace, entry.reply ≠ .error) : Due limit limiter.trace := by
  refine Machine.reachable_invariant (fun limiter => (limiterMachine limit others).Reachable limiter ∧
    ((∀ entry ∈ limiter.trace, entry.reply ≠ .error) → Due limit limiter.trace)) ?_ ?_
    reachable |>.2 answered
  · refine ⟨Machine.Reachable.start _, fun _ before entry after split => ?_⟩
    simp [limiterMachine] at split
  · rintro before call after ⟨reached, holds⟩ stepped
    refine ⟨reached.step stepped, fun answered => ?_⟩
    obtain ⟨-, rfl⟩ := limiterStep_next stepped
    have earlier : ∀ entry ∈ before.trace, entry.reply ≠ .error :=
      fun entry member => answered entry (List.mem_append_left _ member)
    exact due_step (holds earlier) (limiterMachine_limited fresh reached earlier call.userId)
      (answered _ (List.mem_append_right _ (List.mem_singleton_self _)))

theorem limiterMachine_bounded {limit : UInt64} {others : CounterStore Bytes}
    (fresh : ∀ userId, others (rateKey userId) = none) {limiter : Limiter}
    (reachable : (limiterMachine limit others).Reachable limiter)
    (answered : ∀ entry ∈ limiter.trace, entry.reply ≠ .error) (userId : Bytes) (start : Nat) :
    (limiter.own userId).countP (fun entry => entry.allowed &&
      within (fun entry => entry.call.time) (windowSecs * 1000) start entry) ≤
        2 * limit.toNat := by
  have bounded (windows : List RateWindow)
      (ranked : ∀ window ∈ windows, Ranked limit.toNat window) :
      ∀ window ∈ windows, window.items.countP AllowEntry.allowed ≤ limit.toNat := by
    intro window member
    rw [(ranked window member).allowed]
    exact min_le_right _ _
  rcases limiterMachine_limited fresh reachable answered userId with
    ⟨none, -⟩ | ⟨earlier, last, windowed⟩
  · rw [none]
    exact Nat.zero_le _
  · rw [windowed.calls]
    exact countP_interval_le AllowEntry.allowed start windowed.spaced
      (bounded _ windowed.ranked)

/-! The calls of `allow` in a run are such a history, apart from lost replies. -/

/-- A reply that is no error is that of the script. -/
structure Consultation.Sound (limit : UInt64) (consultation : Consultation) : Prop where
  user : ∀ entry, consultation.script = some entry → entry.call.userId = consultation.userId
  reply : consultation.reply ≠ .error → ∃ entry, consultation.script = some entry ∧
    entry.reply = consultation.reply ∧ entry.allowed = allow limit entry.reply

theorem consultation_sound (limit : UInt64) (userId : Bytes) (outcome : RedisOutcome)
    (redis : CounterStore Bytes) : (consultation limit userId outcome redis).Sound limit := by
  constructor
  · intro entry ran
    obtain ⟨now, -, rfl⟩ := Option.map_eq_some_iff.mp ran
    rfl
  · intro answered
    cases outcome with
    | answers now => exact ⟨_, rfl, rfl, rfl⟩
    | replyLost now => exact absurd rfl answered
    | fails => exact absurd rfl answered

structure Mirrored (limit : UInt64) (others redis : CounterStore Bytes)
    (log : List Consultation) (limiter : Limiter) : Prop where
  reached : (limiterMachine limit others).Reachable limiter
  store : limiter.store = redis
  trace : limiter.trace = log.filterMap Consultation.counted
  time : limiter.time ∈ 0 :: log.filterMap Consultation.time

theorem Mirrored.answered {limit : UInt64} {others redis : CounterStore Bytes}
    {log : List Consultation} {limiter : Limiter}
    (mirrored : Mirrored limit others redis log limiter) :
    ∀ entry ∈ limiter.trace, entry.reply ≠ .error := by
  intro entry member
  rw [mirrored.trace] at member
  obtain ⟨call, -, counted⟩ := List.mem_filterMap.mp member
  simpa using (Option.filter_eq_some_iff.mp counted).2

theorem mirrored_consults {limit : UInt64} {others redis : CounterStore Bytes}
    {log : List Consultation} {limiter : Limiter} {userId : Bytes} {outcome : RedisOutcome}
    (mirrored : Mirrored limit others redis log limiter)
    (ordered : ((log ++ [consultation limit userId outcome redis]).filterMap
      Consultation.time).Pairwise (· ≤ ·)) :
    ∃ next, Mirrored limit others (evalScript outcome userId redis).2
      (log ++ [consultation limit userId outcome redis]) next := by
  obtain ⟨reached, rfl, trace, time⟩ := mirrored
  have ran (now : Nat) (called : outcome.time = some now)
      (stored : (evalScript outcome userId limiter.store).2 =
        (rateScript now (rateKey userId) limiter.store).2) :
      ∃ next, Mirrored limit others (evalScript outcome userId limiter.store).2
        (log ++ [consultation limit userId outcome limiter.store]) next := by
    have script : (consultation limit userId outcome limiter.store).script =
        some (Limiter.entry limit limiter.store ⟨now, userId⟩) := by
      simp [consultation, called]
    have moment : (consultation limit userId outcome limiter.store).time = some now := by
      simp [Consultation.time, script, Limiter.entry]
    have later : limiter.time ≤ now := by
      rcases List.mem_cons.mp time with zero | earlier
      · exact zero ▸ Nat.zero_le now
      · rw [List.filterMap_append, List.pairwise_append] at ordered
        exact ordered.2.2 _ earlier now (by simp [moment])
    by_cases overflow : (Limiter.entry limit limiter.store ⟨now, userId⟩).reply = .error
    · have uncounted : (consultation limit userId outcome limiter.store).counted = none := by
        simp [Consultation.counted, script, overflow]
      refine ⟨limiter, reached, ?_, ?_, ?_⟩
      · rw [stored]
        exact (rateScript_error overflow).symm
      · simp [trace, uncounted]
      · rw [List.filterMap_append]
        exact List.mem_cons.mpr ((List.mem_cons.mp time).imp_right (List.mem_append_left _))
    · have counted : (consultation limit userId outcome limiter.store).counted =
          some (Limiter.entry limit limiter.store ⟨now, userId⟩) := by
        simp [Consultation.counted, script, overflow]
      have stepped : (limiterMachine limit others).step limiter ⟨now, userId⟩ =
          some (limiter.next limit ⟨now, userId⟩) := by
        simp [limiterMachine, Limiter.step, later, Limiter.next]
      refine ⟨limiter.next limit ⟨now, userId⟩, reached.step stepped, stored.symm, ?_, ?_⟩
      · simp [Limiter.next, trace, counted]
      · rw [List.filterMap_append]
        exact List.mem_cons_of_mem _ (List.mem_append_right _ (by simp [moment, Limiter.next]))
  cases called : outcome with
  | answers now => exact called ▸ ran now (by rw [called]; rfl) (by rw [called]; rfl)
  | replyLost now => exact called ▸ ran now (by rw [called]; rfl) (by rw [called]; rfl)
  | fails =>
      refine ⟨limiter, reached, rfl, ?_, ?_⟩
      · simp [trace, Consultation.counted, consultation, RedisOutcome.time]
      · rw [List.filterMap_append]
        exact List.mem_cons.mpr ((List.mem_cons.mp time).imp_right (List.mem_append_left _))

section

variable {parse : Bytes → Option Event} {deployment : Deployment} {redis : CounterStore Bytes}
  {sessions workers : Nat}

theorem rateLimit_config (parse : Bytes → Option Event) (deployment : Deployment) :
    (deployment.config parse).rateLimit = deployment.rateLimit := rfl

/-- Only a worker with a valid event in hand asks Redis. -/
theorem consult_redis {limit : UInt64} (enabled : deployment.rateLimit = some limit)
    (pc : WorkerPc) (outcome : RedisOutcome) (redis : CounterStore Bytes) :
    (∃ message evt, pc = .valid message evt ∧
      Pipeline.consult deployment pc outcome redis = evalScript outcome evt.userId redis) ∨
    pc.consults limit outcome redis = [] ∧
      (Pipeline.consult deployment pc outcome redis).2 = redis := by
  cases pc with
  | valid message evt => exact Or.inl ⟨message, evt, rfl, by simp [Pipeline.consult, enabled]⟩
  | _ => exact Or.inr ⟨rfl, by simp [Pipeline.consult]⟩

theorem pipelineMove_mirrored {limit : UInt64} (enabled : deployment.rateLimit = some limit)
    {others : CounterStore Bytes} {clock : Int} {before after : Pipeline capacity}
    {label : PipelineLabel} {log : List Consultation} {limiter : Limiter}
    (mirrored : Mirrored limit others before.redis log limiter)
    (ordered : ((log ++ consultations limit before (clock, label)).filterMap
      Consultation.time).Pairwise (· ≤ ·))
    (moved : PipelineMove parse deployment clock before label after) :
    ∃ next, Mirrored limit others after.redis
      (log ++ consultations limit before (clock, label)) next := by
  have quiet {redis : CounterStore Bytes} (none : consultations limit before (clock, label) = [])
      (same : redis = before.redis) : ∃ next, Mirrored limit others redis
        (log ++ consultations limit before (clock, label)) next := by
    rw [none, List.append_nil]
    exact ⟨limiter, same ▸ mirrored⟩
  cases moved with
  | offer _ => exact quiet rfl rfl
  | drop _ => exact quiet rfl rfl
  | kafka _ _ => exact quiet rfl rfl
  | storage _ => exact quiet rfl rfl
  | @worker index outcome old new shared kafka storage found _ _ _ =>
      have consulted : consultations limit before (clock, .worker index outcome) =
          old.consults limit outcome before.redis := by
        simp [consultations, found]
      rcases consult_redis enabled old outcome before.redis with
        ⟨message, evt, rfl, asked⟩ | ⟨none, same⟩
      · rw [consulted] at ordered ⊢
        simp only [WorkerPc.consults, asked] at ordered ⊢
        exact mirrored_consults mirrored ordered
      · exact quiet (consulted.trans none) same

/-! Passed and refused, counted by the workers. -/

namespace WorkerPc

/-- An event of the user that `allow` let pass and that is not yet produced. -/
def cleared (userId : Bytes) : WorkerPc → Nat
  | .allowed _ evt => if evt.userId = userId then 1 else 0
  | _ => 0

def refused : WorkerPc → Nat
  | .limited _ _ => 1
  | _ => 0

end WorkerPc

structure Tolled (limit : UInt64) (system : System capacity) (log : List Consultation) : Prop where
  passed : ∀ userId, system.shared.produced.countP (fun call => call.key = userId) +
      tally (WorkerPc.cleared userId) system.workers =
    log.countP fun call => decide (call.userId = userId) && call.passes limit
  refused : system.shared.metrics.totalRateLimited + tally WorkerPc.refused system.workers =
    log.countP fun call => !call.passes limit

theorem workerMove_tolled {limit : UInt64} (enabled : deployment.rateLimit = some limit)
    {index : Nat} {clock : Int} {outcome : RedisOutcome} {redis : CounterStore Bytes}
    {before after : Shared capacity} {old new : WorkerPc}
    (moved : WorkerMove (deployment.config parse) index
      ⟨clock, (Pipeline.consult deployment old outcome redis).1⟩ before old after new) :
    (∀ userId, after.produced.countP (fun call => call.key = userId) + new.cleared userId =
      before.produced.countP (fun call => call.key = userId) + old.cleared userId +
        (old.consults limit outcome redis).countP
          fun call => decide (call.userId = userId) && call.passes limit) ∧
    after.metrics.totalRateLimited + new.refused =
      before.metrics.totalRateLimited + old.refused +
        (old.consults limit outcome redis).countP fun call => !call.passes limit := by
  cases moved with
  | unlimited absent =>
      rw [rateLimit_config, enabled] at absent
      simp at absent
  | @allow message evt other found accepted =>
      rw [rateLimit_config, enabled, Option.some.injEq] at found
      subst found
      have passes : (consultation limit evt.userId outcome redis).passes limit = true := by
        simpa [Pipeline.consult, enabled, Consultation.passes, consultation] using accepted
      refine ⟨fun userId => ?_, by simp [WorkerPc.consults, WorkerPc.refused, passes]⟩
      have user : (consultation limit evt.userId outcome redis).userId = evt.userId := rfl
      by_cases same : evt.userId = userId
      · subst userId
        simp [WorkerPc.consults, WorkerPc.cleared, user, passes]
      · simp [WorkerPc.consults, WorkerPc.cleared, user, same]
  | @limit message evt other found rejected =>
      rw [rateLimit_config, enabled, Option.some.injEq] at found
      subst found
      have passes : (consultation limit evt.userId outcome redis).passes limit = false := by
        simpa [Pipeline.consult, enabled, Consultation.passes, consultation] using rejected
      exact ⟨fun userId => by simp [WorkerPc.consults, WorkerPc.cleared, passes],
        by simp [WorkerPc.consults, WorkerPc.refused, passes]⟩
  | rateLimited =>
      refine ⟨fun userId => rfl, ?_⟩
      simp [WorkerPc.consults, WorkerPc.refused]
  | @produce message evt =>
      refine ⟨fun userId => ?_, rfl⟩
      by_cases same : evt.userId = userId
      · simp [WorkerPc.consults, WorkerPc.cleared, Shared.produceToKafka, same]
      · simp [WorkerPc.consults, WorkerPc.cleared, Shared.produceToKafka, same]
  | save => exact ⟨fun userId => by simp [WorkerPc.consults, WorkerPc.cleared, save_eq],
      by simp [WorkerPc.consults, WorkerPc.refused, save_eq]⟩
  | _ => exact ⟨fun userId => rfl, rfl⟩

theorem pipelineMove_tolled {limit : UInt64} (enabled : deployment.rateLimit = some limit)
    {clock : Int} {before after : Pipeline capacity} {label : PipelineLabel}
    {log : List Consultation} (tolled : Tolled limit before.system log)
    (moved : PipelineMove parse deployment clock before label after) :
    Tolled limit after.system (log ++ consultations limit before (clock, label)) := by
  have quiet {system : System capacity} (none : consultations limit before (clock, label) = [])
      (same : SameWork before.system system) :
      Tolled limit system (log ++ consultations limit before (clock, label)) := by
    rw [none, List.append_nil]
    refine ⟨?_, ?_⟩
    · rw [same.produced, same.workers]
      exact tolled.passed
    · rw [same.limited, same.workers]
      exact tolled.refused
  cases moved with
  | offer offered => exact quiet rfl (offer_sameWork offered)
  | drop dropped => exact quiet rfl (drop_sameWork dropped)
  | kafka _ _ => exact quiet rfl ⟨rfl, rfl, rfl, rfl, rfl, rfl, rfl, rfl⟩
  | storage _ => exact quiet rfl ⟨rfl, rfl, rfl, rfl, rfl, rfl, rfl, rfl⟩
  | @worker index outcome old new shared kafka storage found ran _ _ =>
      have consulted : consultations limit before (clock, .worker index outcome) =
          old.consults limit outcome before.redis := by
        simp [consultations, found]
      obtain ⟨passed, refused⟩ := workerMove_tolled enabled (workerStep_move ran)
      rw [consulted]
      refine ⟨?_, ?_⟩
      · intro userId
        have own := passed userId
        have earlier := tolled.passed userId
        have exchanged := tally_set (WorkerPc.cleared userId) new found
        rw [List.countP_append]
        simp only
        omega
      · have earlier := tolled.refused
        have exchanged := tally_set WorkerPc.refused new found
        rw [List.countP_append]
        simp only
        omega

theorem consultations_sound {limit : UInt64} {pipeline : Pipeline capacity}
    (label : Int × PipelineLabel) :
    ∀ call ∈ consultations limit pipeline label, call.Sound limit := by
  intro call member
  obtain ⟨clock, label⟩ := label
  cases label with
  | worker index outcome =>
      cases found : pipeline.system.workers[index]? with
      | none => simp [consultations, found] at member
      | some pc =>
          simp only [consultations, found, Option.elim_some] at member
          cases pc with
          | valid message evt => exact List.mem_singleton.mp member ▸ consultation_sound ..
          | _ => simp [WorkerPc.consults] at member
  | _ => simp [consultations] at member

/-- What a run's calls of `allow` say about it; see `pipeline_enforces`. -/
structure Enforced (limit : UInt64) (log : List Consultation) (pipeline : Pipeline capacity) :
    Prop where
  tolled : Tolled limit pipeline.system log
  bounded : ∀ userId start, log.countP (fun call => decide (call.userId = userId) &&
    call.passes limit && !call.failed && call.during start) ≤ 2 * limit.toNat
  due : ∀ earlier call later, log = earlier ++ call :: later → call.passes limit = false →
    ∃ time, call.time = some time ∧ limit.toNat ≤ earlier.countP fun other =>
      decide (other.userId = call.userId) &&
        other.time.any fun moment => decide (time < moment + windowSecs * 1000)
  minute : ∀ userId start, (∀ call ∈ log, call.userId = userId → call.failed = false →
      call.during start = true) →
    pipeline.system.shared.produced.countP (fun call => call.key = userId) ≤
      2 * limit.toNat + log.countP fun call => decide (call.userId = userId) && call.failed

/-- An answered call is in the limiter's history, with its answer. -/
theorem sound_counted {limit : UInt64} {call : Consultation} (sound : call.Sound limit)
    (answered : call.reply ≠ .error) : ∃ entry, call.counted = some entry ∧
      call.time = some entry.call.time ∧ entry.call.userId = call.userId ∧
      entry.allowed = call.passes limit := by
  obtain ⟨entry, ran, reply, allowed⟩ := sound.reply answered
  refine ⟨entry, ?_, by simp [Consultation.time, ran], sound.user entry ran, ?_⟩
  · simp [Consultation.counted, ran, reply, answered]
  · rw [allowed, reply]
    rfl

theorem mirrored_bounded {limit : UInt64} {others redis : CounterStore Bytes}
    {log : List Consultation} {limiter : Limiter}
    (fresh : ∀ userId, others (rateKey userId) = none) (sound : ∀ call ∈ log, call.Sound limit)
    (mirrored : Mirrored limit others redis log limiter) (userId : Bytes) (start : Nat) :
    log.countP (fun call => decide (call.userId = userId) && call.passes limit &&
      !call.failed && call.during start) ≤ 2 * limit.toNat := by
  have bound := limiterMachine_bounded fresh mirrored.reached mirrored.answered userId start
  rw [Limiter.own, List.countP_filter, mirrored.trace, List.countP_filterMap] at bound
  refine Nat.le_trans (List.countP_mono_left ?_) bound
  intro call member counts
  simp only [Bool.and_eq_true, Bool.not_eq_true', decide_eq_true_eq, Consultation.failed,
    decide_eq_false_iff_not] at counts
  obtain ⟨⟨⟨user, passes⟩, answered⟩, during⟩ := counts
  obtain ⟨entry, counted, time, own, allowed⟩ := sound_counted (sound call member) answered
  simp only [Consultation.during, time, Option.any_some, decide_eq_true_eq] at during
  simp [counted, within, own, user, allowed, passes, during]

theorem mirrored_due {limit : UInt64} {others redis : CounterStore Bytes}
    {log : List Consultation} {limiter : Limiter}
    (fresh : ∀ userId, others (rateKey userId) = none) (sound : ∀ call ∈ log, call.Sound limit)
    (mirrored : Mirrored limit others redis log limiter) {earlier later : List Consultation}
    {call : Consultation} (split : log = earlier ++ call :: later)
    (refused : call.passes limit = false) :
    ∃ time, call.time = some time ∧ limit.toNat ≤ earlier.countP fun other =>
      decide (other.userId = call.userId) &&
        other.time.any fun moment => decide (time < moment + windowSecs * 1000) := by
  have answered : call.reply ≠ .error := by
    intro failed
    simp [Consultation.passes, failed, allow] at refused
  obtain ⟨entry, counted, time, own, allowed⟩ :=
    sound_counted (sound call (by simp [split])) answered
  have place : limiter.trace = earlier.filterMap Consultation.counted ++
      entry :: later.filterMap Consultation.counted := by
    rw [mirrored.trace, split, List.filterMap_append, List.filterMap_cons, counted]
  have due := limiterMachine_due fresh mirrored.reached mirrored.answered _ entry _ place
    (allowed.trans refused)
  rw [List.countP_filterMap] at due
  refine ⟨_, time, Nat.le_trans due (List.countP_mono_left ?_)⟩
  intro other member counts
  cases among : other.counted with
  | none => simp [among] at counts
  | some item =>
      have ran : other.script = some item := (Option.filter_eq_some_iff.mp among).1
      have user := (sound other (by simp [split, member])).user item ran
      simp only [among, Option.map_some, Option.getD_some, recentBefore, Bool.and_eq_true,
        decide_eq_true_eq] at counts
      simp [Consultation.time, ran, ← user, ← own, counts.1, counts.2]

structure Recorded (limit : UInt64) (others : CounterStore Bytes) (pipeline : Pipeline capacity)
    (log : List Consultation) : Prop where
  tolled : Tolled limit pipeline.system log
  sound : ∀ call ∈ log, call.Sound limit
  mirrored : (log.filterMap Consultation.time).Pairwise (· ≤ ·) →
    ∃ limiter, Mirrored limit others pipeline.redis log limiter

theorem recorded_initial (parse : Bytes → Option Event) (deployment : Deployment)
    (redis : CounterStore Bytes) (limit : UInt64) (sessions workers : Nat) :
    Recorded limit redis
      (clockedPipeline parse deployment redis capacity sessions workers).initial [] := by
  have nobody {weight : WorkerPc → Nat} (none : weight .check = 0) :
      tally weight (List.replicate workers .check) = 0 :=
    tally_replicate_zero weight .check none workers
  refine ⟨⟨fun userId => ?_, ?_⟩, by simp, fun _ => ?_⟩
  · exact (Nat.zero_add _).trans (nobody rfl)
  · exact (Nat.zero_add _).trans (nobody rfl)
  · exact ⟨_, Machine.Reachable.start _, rfl, rfl, List.mem_cons_self⟩

theorem recorded_step {limit : UInt64} (enabled : deployment.rateLimit = some limit)
    {others : CounterStore Bytes} {clock : Int} {before after : Pipeline capacity}
    {label : PipelineLabel} {log : List Consultation} (recorded : Recorded limit others before log)
    (moved : PipelineMove parse deployment clock before label after) :
    Recorded limit others after (log ++ consultations limit before (clock, label)) := by
  refine ⟨pipelineMove_tolled enabled recorded.tolled moved, ?_, ?_⟩
  · intro call member
    rcases List.mem_append.mp member with earlier | now
    · exact recorded.sound call earlier
    · exact consultations_sound (clock, label) call now
  · intro ordered
    have earlier := ordered
    rw [List.filterMap_append, List.pairwise_append] at earlier
    obtain ⟨limiter, mirrored⟩ := recorded.mirrored earlier.1
    exact pipelineMove_mirrored enabled mirrored ordered moved

theorem countP_cover {Item : Type} (whole first second : Item → Bool) {items : List Item}
    (covered : ∀ item ∈ items, whole item = true → first item = true ∨ second item = true) :
    items.countP whole ≤ items.countP first + items.countP second := by
  induction items with
  | nil => exact Nat.zero_le _
  | cons item rest ih =>
      have later := ih fun other member => covered other (List.mem_cons_of_mem _ member)
      have here := covered item List.mem_cons_self
      simp only [List.countP_cons]
      cases counts : whole item with
      | false =>
          simp only [Bool.false_eq_true, if_false]
          omega
      | true =>
          rcases here counts with one | one <;> simp only [one, if_true] <;> split <;> omega

/-- A run of the workers with a limiter, on keys that Redis does not hold at the start and
with scripts in the order of Redis's clock: each event that was asked about is passed on
or counted as limited; in any 60 seconds at most twice the limit pass on an answer; an
event is refused only when scripts of its user in the 60 seconds before it used the limit
up; so a user whose answered calls fall within 60 seconds gets twice the limit, and one
event more for each failed call. -/
theorem pipeline_enforces (parse : Bytes → Option Event) (deployment : Deployment)
    {limit : UInt64} (enabled : deployment.rateLimit = some limit)
    (redis : CounterStore Bytes) (fresh : ∀ userId, redis (rateKey userId) = none)
    (sessions workers : Nat) {labels : List (Int × PipelineLabel)} {pipeline : Pipeline capacity}
    (reached : (clockedPipeline parse deployment redis capacity sessions workers).run
      (clockedPipeline parse deployment redis capacity sessions workers).initial labels =
        some pipeline)
    (ordered : (((clockedPipeline parse deployment redis capacity sessions workers).log
      (consultations limit)
      (clockedPipeline parse deployment redis capacity sessions workers).initial
      labels).filterMap Consultation.time).Pairwise (· ≤ ·)) :
    Enforced limit ((clockedPipeline parse deployment redis capacity sessions workers).log
      (consultations limit)
      (clockedPipeline parse deployment redis capacity sessions workers).initial labels)
      pipeline := by
  have kept := Machine.run_log (consultations limit) (Recorded limit redis)
    (fun before label after log recorded stepped =>
      recorded_step enabled recorded (pipelineStep_move stepped))
    (recorded_initial parse deployment redis limit sessions workers) reached
  rw [List.nil_append] at kept
  obtain ⟨tolled, sound, mirrored⟩ := kept
  obtain ⟨limiter, mirrored⟩ := mirrored ordered
  have bounded := mirrored_bounded fresh sound mirrored
  refine ⟨tolled, bounded, fun _ _ _ => mirrored_due fresh sound mirrored, ?_⟩
  intro userId start within
  have passed := tolled.passed userId
  refine Nat.le_trans (Nat.le_trans (Nat.le_add_right _ _) (Nat.le_of_eq passed)) ?_
  refine Nat.le_trans (countP_cover _ _ _ ?_) (Nat.add_le_add_right (bounded userId start) _)
  intro call member counts
  simp only [Bool.and_eq_true, decide_eq_true_eq] at counts
  cases failed : call.failed with
  | true => exact Or.inr (by simp [counts.1])
  | false => exact Or.inl (by simp [counts, within call member counts.1 failed])

end

/-- With a limit of one: the first event passes, the second is refused, and the reply to
the third call is lost. -/
def leakyRun : List (Int × PipelineLabel) :=
  let offer : Int × PipelineLabel := (1, .offer 0 (encodeEvent (eventOf [7])))
  let worker (outcome : RedisOutcome) : Int × PipelineLabel := (1, .worker 0 outcome)
  let reaches (outcome : RedisOutcome) := List.replicate 5 (worker .fails) ++ [worker outcome]
  [offer, offer, offer] ++ reaches (.answers 0) ++ [worker .fails, worker .fails] ++
    reaches (.answers 10) ++ [worker .fails] ++ reaches (.replyLost 20) ++ [worker .fails]

def leakyDeployment : Deployment := ⟨some 1, false, false⟩

theorem leakyRun_ends :
    ((clockedPipeline sampleParse leakyDeployment (fun _ => none) 3 1 1).run
      (clockedPipeline sampleParse leakyDeployment (fun _ => none) 3 1 1).initial leakyRun).map
        (fun pipeline : Pipeline 3 => (pipeline.metrics.totalRateLimited,
          pipeline.system.shared.produced.map KafkaCall.key)) = some (1, [[117], [117]]) := by
  decide

theorem pipeline_enforces_leaky : ∃ pipeline : Pipeline 3,
    (clockedPipeline sampleParse leakyDeployment (fun _ => none) 3 1 1).run
      (clockedPipeline sampleParse leakyDeployment (fun _ => none) 3 1 1).initial leakyRun =
        some pipeline ∧
    pipeline.metrics.totalRateLimited = 1 ∧
    Enforced 1 ((clockedPipeline sampleParse leakyDeployment (fun _ => none) 3 1 1).log
      (consultations 1)
      (clockedPipeline sampleParse leakyDeployment (fun _ => none) 3 1 1).initial leakyRun)
      pipeline := by
  obtain ⟨pipeline, reached, summary⟩ := Option.map_eq_some_iff.mp leakyRun_ends
  simp only [Prod.mk.injEq] at summary
  exact ⟨pipeline, reached, summary.1, pipeline_enforces sampleParse leakyDeployment rfl
    (fun _ => none) (fun _ => rfl) 1 1 reached (by decide)⟩

end EventCollector
