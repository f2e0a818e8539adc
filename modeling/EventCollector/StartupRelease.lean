import EventCollector.Startup

/-!
What a start that fails leaves behind. The destructors that an exception runs close what
`main` has opened, but for Kafka's configuration and, in the constructor of the processor,
its producer; after the first thread they end in `std::terminate`.
-/

namespace EventCollector

open Ascii

/-- A configuration for which no producer starts is not destroyed; a producer and its topic
are not if the constructor of the processor throws after it has made them. -/
def Leaks (env : Environment) (world : World) : Resource → Prop
  | .kafkaConf => KafkaAccepts env world ∧ world.producerStarts = false
  | .producer => RedisThrows env ∧ KafkaAccepts env world ∧ world.producerStarts = true
  | .topic => RedisThrows env ∧ KafkaAccepts env world ∧ world.producerStarts = true ∧
      world.topicOpens = true
  | _ => False

structure LeftOpen (leaks : Prop) (amount : Int) : Prop where
  leaked : leaks → amount = 1
  closed : ¬ leaks → amount = 0

theorem balance_storage (env : Environment) (world : World) (resource : Resource) :
    balance (openStorage env world).1 resource +
      balance (closeStorage (openStorage env world).2) resource = 0 := by
  unfold openStorage
  split
  · cases strict env "EVENT_COLLECTOR_CLICKHOUSE_PORT" 9000 stoi with
    | none => rfl
    | some port =>
        cases world.clickhouseConnects with
        | false => rfl
        | true =>
            cases world.flusherStarts with
            | false =>
                simp only [closeStorage, if_true, Bool.false_eq_true, if_false,
                  Option.isSome_none, balance_opens, balance_closes, balance_nil]
                omega
            | true =>
                simp only [closeStorage, if_true, Option.isSome_some, balance_opens,
                  balance_closes, balance_nil]
                omega
  · rfl

theorem balance_rateLimiter {env : Environment} {world : World} {effects : List Effect}
    {rateLimiter : Option RateLimiterOptions}
    (opened : openRateLimiter env world = some (effects, rateLimiter)) (resource : Resource) :
    balance effects resource +
      balance (if rateLimiter.isSome then [.closes .redis] else []) resource = 0 := by
  unfold openRateLimiter at opened
  split at opened
  · simp only [Option.bind_eq_some_iff, Option.map_eq_some_iff] at opened
    obtain ⟨port, -, limit, -, made⟩ := opened
    split at made
    · obtain ⟨rfl, rfl⟩ := Prod.mk.inj made
      simp only [Option.isSome_some, if_true, balance_opens, balance_closes, balance_nil]
      omega
    · obtain ⟨rfl, rfl⟩ := Prod.mk.inj made
      rfl
  · obtain ⟨rfl, rfl⟩ := Prod.mk.inj (Option.some.inj opened)
    rfl

/-- What of Kafka is open after the constructor, with and without `~Processor`. -/
theorem balance_kafka (env : Environment) (world : World) (resource : Resource) :
    (RedisThrows env → LeftOpen (Leaks env world resource)
      (balance (openKafka env world).1 resource)) ∧
    (¬ RedisThrows env → LeftOpen (Leaks env world resource)
      (balance (openKafka env world).1 resource +
        balance (if (openKafka env world).2.2.isSome then [.closes .topic] else []) resource +
        balance (if (openKafka env world).2.1 then [.closes .producer] else []) resource)) := by
  rcases openKafka_cases env world with
    ⟨refuses, effects, level, made⟩ | ⟨accepts, fails, made⟩ | ⟨accepts, starts, made⟩
  · have safe : ¬ Leaks env world resource := by
      cases resource <;> simp [Leaks, refuses]
    rw [made]
    exact ⟨fun _ => ⟨fun leaks => absurd leaks safe, fun _ => level resource⟩,
      fun _ => ⟨fun leaks => absurd leaks safe, fun _ => by simp [level]⟩⟩
  · have only : Leaks env world resource ↔ .kafkaConf = resource := by
      cases resource <;> simp [Leaks, accepts, fails]
    rw [made, only]
    refine ⟨fun _ => ⟨?_, ?_⟩, fun _ => ⟨?_, ?_⟩⟩
    · rintro rfl
      rfl
    · intro other
      simp [other]
    · rintro rfl
      rfl
    · intro other
      simp [other]
  · rw [made]
    constructor
    · intro throws
      have only : Leaks env world resource ↔ .producer = resource ∨
          (world.topicOpens = true ∧ .topic = resource) := by
        cases resource <;> simp [Leaks, accepts, starts, throws]
      rw [only]
      cases world.topicOpens with
      | false =>
          simp only [Bool.false_eq_true, false_and, or_false, if_false, List.append_nil,
            balance_opens, balance_closes, balance_nil]
          exact ⟨fun same => by rw [if_pos same]; omega, fun other => by rw [if_neg other]; omega⟩
      | true =>
          simp only [true_and, if_true, List.cons_append, List.nil_append, balance_opens,
            balance_closes, balance_nil]
          refine ⟨?_, ?_⟩
          · rintro (rfl | rfl)
            · rfl
            · rfl
          · intro other
            rw [not_or] at other
            rw [if_neg other.1, if_neg other.2]
            omega
    · intro safe
      have none : ¬ Leaks env world resource := by
        cases resource <;> simp [Leaks, starts, safe]
      refine ⟨fun leaks => absurd leaks none, fun _ => ?_⟩
      cases world.topicOpens with
      | false =>
          simp only [Bool.false_eq_true, if_false, if_true, Option.isSome_none, List.append_nil,
            balance_opens, balance_closes, balance_nil]
          omega
      | true =>
          simp only [if_true, Option.isSome_some, List.cons_append, List.nil_append,
            balance_opens, balance_closes, balance_nil]
          omega

theorem balance_throws {env : Environment} {world : World} {effects : List Effect}
    (built : newProcessor env world = (effects, none)) (resource : Resource) :
    LeftOpen (Leaks env world resource) (balance effects resource) := by
  have throws := (newProcessor_none env world).mp (by rw [built])
  have kafka := (balance_kafka env world resource).1 throws
  have storage := balance_storage env world resource
  have made : effects = (openKafka env world).1 ++ (openStorage env world).1 ++
      closeStorage (openStorage env world).2 := by
    have none := (openRateLimiter_none env world).mpr throws
    simp only [newProcessor, none, Prod.mk.injEq] at built
    exact built.1.symm
  have same : balance effects resource = balance (openKafka env world).1 resource := by
    rw [made, balance_append, balance_append]
    omega
  rwa [same]

theorem balance_built {env : Environment} {world : World} {effects : List Effect}
    {processor : Processor} (built : newProcessor env world = (effects, some processor))
    (resource : Resource) : LeftOpen (Leaks env world resource)
      (balance effects resource + balance processor.close resource) := by
  have safe : ¬ RedisThrows env := by
    rw [← newProcessor_none env world, built]
    simp
  have kafka := (balance_kafka env world resource).2 safe
  have storage := balance_storage env world resource
  cases opened : openRateLimiter env world with
  | none => exact absurd ((openRateLimiter_none env world).mp opened) safe
  | some made =>
      obtain ⟨redis, rateLimiter⟩ := made
      have limiter := balance_rateLimiter opened resource
      simp only [newProcessor, opened, Prod.mk.injEq, Option.some.injEq] at built
      obtain ⟨rfl, rfl⟩ := built
      have same : balance ((openKafka env world).1 ++ (openStorage env world).1 ++ redis) resource +
          balance (Processor.close ⟨(openKafka env world).2.1, (openKafka env world).2.2,
            (openStorage env world).2, rateLimiter⟩) resource =
          balance (openKafka env world).1 resource +
            balance (if (openKafka env world).2.2.isSome then [.closes .topic] else []) resource +
            balance (if (openKafka env world).2.1 then [.closes .producer] else []) resource := by
        simp only [Processor.close, balance_append]
        omega
      rwa [same]

theorem threadOpens_succ (count : Nat) (kind : Nat → Resource) :
    threadOpens (count + 1) kind = threadOpens count kind ++ [.opens (kind count)] := by
  simp [threadOpens, List.range_succ]

theorem balance_threads (count : Nat) {kind : Nat → Resource} (distinct : Function.Injective kind)
    (index : Nat) :
    balance (threadOpens count kind) (kind index) = if index < count then 1 else 0 := by
  induction count with
  | zero => rfl
  | succ count ih =>
      simp only [threadOpens_succ, balance_append, ih, balance_opens, balance_nil, distinct.eq_iff]
      split <;> split <;> split <;> omega

theorem balance_others (count : Nat) {kind : Nat → Resource} {resource : Resource}
    (other : ∀ index, kind index ≠ resource) : balance (threadOpens count kind) resource = 0 := by
  induction count with
  | zero => rfl
  | succ count ih =>
      simp [threadOpens_succ, ih, other count]

/-- What the members of a processor stand for. -/
def processorParts : List Resource := [.topic, .producer, .redis, .flusher, .clickhouse]

theorem close_others (processor : Processor) {resource : Resource}
    (other : resource ∉ processorParts) : balance processor.close resource = 0 := by
  simp only [processorParts, List.mem_cons, List.not_mem_nil, or_false, not_or] at other
  obtain ⟨topic, producer, redis, flusher, clickhouse⟩ := other
  unfold Processor.close closeStorage
  split <;> split <;> split <;> split <;>
    simp [Ne.symm topic, Ne.symm producer, Ne.symm redis, Ne.symm flusher, Ne.symm clickhouse]

theorem returns_releases {env : Environment} {world : World} {effects : List Effect}
    (path : MainPath env world effects .returns) (resource : Resource) :
    LeftOpen (world.collectorBinds = true ∧ Leaks env world resource)
      (balance effects resource) := by
  have socket (inner : List Effect) : balance (.opens .collectorSocket :: inner ++
      [.closes .collectorSocket]) resource = balance inner resource := by
    simp only [List.cons_append, balance_append, balance_opens, balance_closes, balance_nil]
    omega
  cases path with
  | noCollector unbound =>
      refine ⟨fun leaks => ?_, fun _ => rfl⟩
      simp [unbound] at leaks
  | throws binds built =>
      have left := balance_throws built resource
      rw [socket]
      exact ⟨fun leaks => left.leaked leaks.2,
        fun safe => left.closed fun leaks => safe ⟨binds, leaks⟩⟩
  | noThread binds built _ =>
      have left := balance_built built resource
      rw [← balance_append] at left
      rw [List.cons_append, socket]
      exact ⟨fun leaks => left.leaked leaks.2,
        fun safe => left.closed fun leaks => safe ⟨binds, leaks⟩⟩

theorem effects_others {env : Environment} {world : World} {effects : List Effect}
    {processor : Processor} (built : newProcessor env world = (effects, some processor))
    {resource : Resource} (other : resource ∉ processorParts) (conf : resource ≠ .kafkaConf) :
    balance effects resource = 0 := by
  have safe : ¬ Leaks env world resource := by
    cases resource <;> simp [processorParts, Leaks] at other conf ⊢
  have left := (balance_built built resource).closed safe
  rwa [close_others processor other, Int.add_zero] at left

theorem terminates_releases {env : Environment} {world : World} {effects : List Effect}
    (path : MainPath env world effects .terminates) :
    balance effects (.processorThread 0) = 1 ∧
      (balance effects (.ioThread 0) = 1 ∨
        ∀ resource ∈ processorParts, balance effects resource = 0) := by
  have workers {threads : Nat} (some : 0 < threads) :
      balance (threadOpens threads .processorThread) (.processorThread 0) = 1 := by
    rw [balance_threads threads (fun _ _ same => by simpa using same) 0, if_pos some]
  cases path with
  | @destroys effects inner processor threads binds built _ _ some level =>
      refine ⟨?_, Or.inr fun resource member => ?_⟩
      · have outside : Resource.processorThread 0 ∉ processorParts := by decide
        have before := effects_others built outside (by decide)
        have after := close_others processor outside
        simp [before, workers some, level, after]
      · have safe : ¬ Leaks env world resource := by
          have redis := built_safe built
          cases resource <;> simp [processorParts, Leaks, redis] at member ⊢
        have left := (balance_built built resource).closed safe
        have socket : Resource.collectorSocket ≠ resource := by
          rintro rfl
          simp [processorParts] at member
        have apart : balance (threadOpens threads .processorThread) resource = 0 :=
          balance_others threads fun index => by
            rintro rfl
            simp [processorParts] at member
        simp only [List.cons_append, balance_append, balance_opens, if_neg socket, apart, level]
        omega
  | @noIoThread effects processor threads ioThreads binds built _ _ some running =>
      refine ⟨?_, Or.inl ?_⟩
      · have before := effects_others built
          (show Resource.processorThread 0 ∉ processorParts by decide) (by decide)
        have apart : balance (threadOpens ioThreads .ioThread) (.processorThread 0) = 0 :=
          balance_others ioThreads (by simp)
        simp [before, workers some, apart]
      · have before := effects_others built
          (show Resource.ioThread 0 ∉ processorParts by decide) (by decide)
        have apart : balance (threadOpens threads .processorThread) (.ioThread 0) = 0 :=
          balance_others threads (by simp)
        have opened := balance_threads ioThreads
          (show Function.Injective Resource.ioThread from fun _ _ same => by simpa using same) 0
        rw [if_pos running] at opened
        simp [before, apart, opened]

/-- When `main` returns 1, everything it has opened is closed but what `Leaks` names; at a
`std::terminate` its threads run, and if no io thread does, the topic, the producer and
everything else that they use has been destroyed. -/
theorem main_releases (env : Environment) (world : World) :
    ((runMain env world).2 = .returns → ∀ resource,
      LeftOpen (world.collectorBinds = true ∧ Leaks env world resource)
        (balance (runMain env world).1 resource)) ∧
    ((runMain env world).2 = .terminates →
      balance (runMain env world).1 (.processorThread 0) = 1 ∧
      (balance (runMain env world).1 (.ioThread 0) = 1 ∨
        ∀ resource ∈ processorParts, balance (runMain env world).1 resource = 0)) := by
  have path := runMain_path env world
  exact ⟨fun same resource => returns_releases (same ▸ path) resource,
    fun same => terminates_releases (same ▸ path)⟩

/-- Kafka is there and Redis has a port that is no number. -/
def leakyEnvironment : Environment := fun name =>
  if name = "EVENT_COLLECTOR_KAFKA_BOOTSTRAP" then some (ascii "kafka:9092")
  else if name = "EVENT_COLLECTOR_REDIS_ENABLE" then some (ascii "1")
  else if name = "EVENT_COLLECTOR_REDIS_PORT" then some (ascii "redis")
  else none

theorem main_releases_leaky : (runMain leakyEnvironment healthyWorld).2 = .returns ∧
    balance (runMain leakyEnvironment healthyWorld).1 .producer = 1 ∧
    balance (runMain leakyEnvironment healthyWorld).1 .collectorSocket = 0 := by
  have returns : (runMain leakyEnvironment healthyWorld).2 = .returns := by decide
  have left := (main_releases leakyEnvironment healthyWorld).1 returns
  have throws : RedisThrows leakyEnvironment := by
    refine ⟨by decide, fun readable => ?_⟩
    obtain ⟨value, meant⟩ := readable.port (ascii "redis") (by decide)
    have unread : stoi (ascii "redis") = none := by decide
    rw [(stoi_iff _ value).mpr meant] at unread
    cases unread
  have accepts : KafkaAccepts leakyEnvironment healthyWorld :=
    ⟨ascii "kafka:9092", by decide, by decide, fun _ _ => rfl⟩
  exact ⟨returns, (left .producer).leaked ⟨rfl, throws, accepts, rfl⟩,
    (left .collectorSocket).closed fun leaks => leaks.2⟩

end EventCollector
