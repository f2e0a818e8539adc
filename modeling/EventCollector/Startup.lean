import EventCollector.ProgramShutdown
import EventCollector.StartupCore

/-!
How a start can end. Three failures are caught by `main`, which then returns 1: no socket
for the collector, a Redis setting that does not parse, and no first thread. Every later
one destroys a `std::thread` that can be joined. A start that succeeds serves the program
of the other modules.
-/

namespace EventCollector

open Ascii

/-! The numbers that texts stand for. -/

def MeansInt (text : Bytes) (value : Int) : Prop :=
  ∃ negative magnitude, Numeral.Begins text negative magnitude ∧
    value = (if negative then -(magnitude : Int) else magnitude) ∧ IsInt value

def MeansUnsigned (text : Bytes) (value : UInt64) : Prop :=
  ∃ negative magnitude, Numeral.Begins text negative magnitude ∧ magnitude < 2 ^ 64 ∧
    value = if negative then -UInt64.ofNat magnitude else UInt64.ofNat magnitude

theorem stoi_iff (text : Bytes) (value : Int) : stoi text = some value ↔ MeansInt text value := by
  simp only [stoi, Option.bind_eq_some_iff, Prod.exists, Numeral.scan_iff,
    Option.ite_none_right_eq_some, Option.some.injEq]
  constructor
  · rintro ⟨negative, magnitude, begins, fits, rfl⟩
    exact ⟨negative, magnitude, begins, rfl, fits⟩
  · rintro ⟨negative, magnitude, begins, rfl, fits⟩
    exact ⟨negative, magnitude, begins, fits, rfl⟩

example : stoi (ascii " \t+8 threads") = some 8 := by decide

theorem stoull_iff (text : Bytes) (value : UInt64) :
    stoull text = some value ↔ MeansUnsigned text value := by
  simp only [stoull, Option.bind_eq_some_iff, Prod.exists, Numeral.scan_iff,
    Option.ite_none_right_eq_some, Option.some.injEq]
  constructor
  · rintro ⟨negative, magnitude, begins, fits, rfl⟩
    exact ⟨negative, magnitude, begins, fits, rfl⟩
  · rintro ⟨negative, magnitude, begins, fits, rfl⟩
    exact ⟨negative, magnitude, begins, fits, rfl⟩

example : stoull (ascii "-1") = some 18446744073709551615 := by decide

/-- The number in the environment, or the default if there is none. -/
def Tolerated {Value : Type} (env : Environment) (name : String) (default : Value)
    (cast : Int → Value) (value : Value) : Prop :=
  (∃ text number, env name = some text ∧ MeansInt text number ∧ value = cast number) ∨
    ((∀ text number, env name = some text → ¬ MeansInt text number) ∧ value = default)

theorem tolerant_tolerated {Value : Type} (env : Environment) (name : String) (default : Value)
    (cast : Int → Value) : Tolerated env name default cast (tolerant env name default cast) := by
  unfold tolerant
  split
  · rename_i unread
    refine Or.inr ⟨fun text number found meant => ?_, rfl⟩
    rw [found, Option.bind_some, (stoi_iff text number).mpr meant] at unread
    cases unread
  · rename_i number read
    obtain ⟨text, found, meant⟩ := Option.bind_eq_some_iff.mp read
    exact Or.inl ⟨text, number, found, (stoi_iff text number).mp meant, rfl⟩

theorem tolerated_unique {Value : Type} {env : Environment} {name : String} {default : Value}
    {cast : Int → Value} {first second : Value} (one : Tolerated env name default cast first)
    (other : Tolerated env name default cast second) : first = second := by
  rcases one with ⟨text, number, found, meant, rfl⟩ | ⟨silent, rfl⟩
  · rcases other with ⟨text', number', found', meant', rfl⟩ | ⟨silent, -⟩
    · obtain rfl := Option.some.inj (found.symm.trans found')
      have same := ((stoi_iff text number).mpr meant).symm.trans
        ((stoi_iff text number').mpr meant')
      rw [Option.some.inj same]
    · exact absurd meant (silent text number found)
  · rcases other with ⟨text, number, found, meant, -⟩ | ⟨-, rfl⟩
    · exact absurd meant (silent text number found)
    · rfl

theorem tolerant_positive (env : Environment) (name : String) {default : Nat}
    (positive : 0 < default) : 0 < tolerant env name default fun value => (max 1 value).toNat := by
  unfold tolerant
  split
  · exact positive
  · rename_i value _
    have least : 1 ≤ max 1 value := Int.le_max_left 1 value
    change 0 < (max 1 value).toNat
    omega

/-! Threads. -/

theorem spawned_all (starts : Nat → Bool) (index left : Nat) :
    spawned starts index left = left ↔ ∀ offset < left, starts (index + offset) = true := by
  induction left generalizing index with
  | zero => simp [spawned]
  | succ left ih =>
      simp only [spawned]
      split
      · rename_i first
        rw [Nat.succ_inj, ih]
        constructor
        · intro later offset below
          cases offset with
          | zero => exact first
          | succ offset =>
              rw [← Nat.add_assoc, Nat.add_right_comm]
              exact later offset (by omega)
        · intro all offset below
          rw [Nat.add_right_comm]
          exact all (offset + 1) (by omega)
      · rename_i first
        constructor
        · intro impossible
          cases impossible
        · exact fun all => absurd (all 0 (by omega)) first

theorem spawned_none (starts : Nat → Bool) {left : Nat} (some : 0 < left) :
    spawned starts 0 left = 0 ↔ starts 0 = false := by
  obtain ⟨rest, rfl⟩ := Nat.exists_eq_succ_of_ne_zero (Nat.ne_of_gt some)
  cases first : starts 0 <;> simp [spawned, first]

theorem threadCount_positive (env : Environment) (processor : Processor) :
    0 < processor.threadCount env :=
  Nat.add_pos_left (tolerant_positive env _ (by decide)) _

/-! What is opened and not closed. -/

def balance (effects : List Effect) (resource : Resource) : Int :=
  effects.count (.opens resource) - effects.count (.closes resource)

@[simp] theorem balance_nil (resource : Resource) : balance [] resource = 0 := rfl

@[simp] theorem balance_append (first second : List Effect) (resource : Resource) :
    balance (first ++ second) resource = balance first resource + balance second resource := by
  simp only [balance, List.count_append]
  omega

@[simp] theorem balance_opens (opened resource : Resource) (rest : List Effect) :
    balance (.opens opened :: rest) resource =
      (if opened = resource then 1 else 0) + balance rest resource := by
  simp only [balance, List.count_cons, beq_iff_eq, Effect.opens.injEq, reduceCtorEq, if_false]
  split <;> omega

@[simp] theorem balance_closes (closed resource : Resource) (rest : List Effect) :
    balance (.closes closed :: rest) resource =
      balance rest resource - if closed = resource then 1 else 0 := by
  simp only [balance, List.count_cons, beq_iff_eq, Effect.closes.injEq, reduceCtorEq, if_false]
  split <;> omega

/-! What can throw in `Processor::Processor`. -/

/-- The two settings that are parsed outside of its handlers. -/
structure RedisReadable (env : Environment) : Prop where
  port : ∀ text, env "EVENT_COLLECTOR_REDIS_PORT" = some text → ∃ value, MeansInt text value
  limit : ∀ text, env "EVENT_COLLECTOR_RATE_LIMIT" = some text → ∃ value, MeansUnsigned text value

def RedisThrows (env : Environment) : Prop :=
  env "EVENT_COLLECTOR_REDIS_ENABLE" = some (ascii "1") ∧ ¬ RedisReadable env

theorem strict_some {Value : Type} {env : Environment} {name : String} {default : Value}
    {parse : Bytes → Option Value} {meant : Bytes → Value → Prop}
    (parses : ∀ text value, parse text = some value ↔ meant text value) :
    (∃ value, strict env name default parse = some value) ↔
      ∀ text, env name = some text → ∃ value, meant text value := by
  unfold strict
  cases found : env name with
  | none => simp
  | some text => simp [parses]

theorem openRateLimiter_none (env : Environment) (world : World) :
    openRateLimiter env world = none ↔ RedisThrows env := by
  have readable : RedisReadable env ↔
      (∃ port, strict env "EVENT_COLLECTOR_REDIS_PORT" 6379 stoi = some port) ∧
      ∃ limit, strict env "EVENT_COLLECTOR_RATE_LIMIT" 100 stoull = some limit := by
    rw [strict_some stoi_iff, strict_some stoull_iff]
    exact ⟨fun read => ⟨read.port, read.limit⟩, fun ⟨port, limit⟩ => ⟨port, limit⟩⟩
  unfold openRateLimiter RedisThrows
  rw [readable]
  split
  · rename_i enabled
    cases strict env "EVENT_COLLECTOR_REDIS_PORT" 6379 stoi with
    | none => simp [enabled]
    | some port =>
        cases strict env "EVENT_COLLECTOR_RATE_LIMIT" 100 stoull with
        | none => simp [enabled]
        | some limit => simp
  · rename_i disabled
    simp [disabled]

theorem newProcessor_none (env : Environment) (world : World) :
    (newProcessor env world).2 = none ↔ RedisThrows env := by
  rw [← openRateLimiter_none env world]
  unfold newProcessor
  cases openRateLimiter env world with
  | none => simp
  | some opened => simp

/-! The ways through `main`. -/

/-- Nothing fails after `processor.start` has started its first thread. -/
structure Launched (env : Environment) (world : World) (processor : Processor) : Prop where
  threads : ∀ index < processor.threadCount env, world.processorThreadStarts index = true
  monitor : world.monitorBinds = true
  signals : world.signalsRegister = true
  ioThreads : ∀ index < ioThreadCount env, world.ioThreadStarts index = true

/-- `inner` is what the objects made after the processor open and close again. -/
inductive MainPath (env : Environment) (world : World) : List Effect → Ending → Prop
  | noCollector : world.collectorBinds = false → MainPath env world [] .returns
  | throws {effects : List Effect} : world.collectorBinds = true →
      newProcessor env world = (effects, none) →
      MainPath env world (.opens .collectorSocket :: effects ++ [.closes .collectorSocket]) .returns
  | noThread {effects : List Effect} {processor : Processor} : world.collectorBinds = true →
      newProcessor env world = (effects, some processor) →
      world.processorThreadStarts 0 = false →
      MainPath env world (.opens .collectorSocket :: effects ++ processor.close ++
        [.closes .collectorSocket]) .returns
  | destroys {effects inner : List Effect} {processor : Processor} {threads : Nat} :
      world.collectorBinds = true → newProcessor env world = (effects, some processor) →
      world.processorThreadStarts 0 = true → ¬ Launched env world processor → 0 < threads →
      (∀ resource, balance inner resource = 0) →
      MainPath env world (.opens .collectorSocket :: effects ++
        threadOpens threads .processorThread ++ inner ++ processor.close) .terminates
  | noIoThread {effects : List Effect} {processor : Processor} {threads ioThreads : Nat} :
      world.collectorBinds = true → newProcessor env world = (effects, some processor) →
      world.processorThreadStarts 0 = true → ¬ Launched env world processor → 0 < threads →
      0 < ioThreads →
      MainPath env world (.opens .collectorSocket :: effects ++
        threadOpens threads .processorThread ++ [.opens .monitorSocket, .opens .signals] ++
        threadOpens ioThreads .ioThread) .terminates
  | serves {effects : List Effect} {processor : Processor} : world.collectorBinds = true →
      newProcessor env world = (effects, some processor) → Launched env world processor →
      MainPath env world (.opens .collectorSocket :: effects ++
        threadOpens (processor.threadCount env) .processorThread ++
        [.opens .monitorSocket, .opens .signals] ++ threadOpens (ioThreadCount env) .ioThread)
        (.serving (settings env processor))

theorem unwind_path {env : Environment} {world : World} {effects inner : List Effect}
    {processor : Processor} {threads : Nat} (binds : world.collectorBinds = true)
    (built : newProcessor env world = (effects, some processor))
    (first : world.processorThreadStarts 0 = true) (fails : ¬ Launched env world processor)
    (some : 0 < threads) (level : ∀ resource, balance inner resource = 0) :
    MainPath env world
      (unwind processor threads (.opens .collectorSocket :: effects ++
        threadOpens threads .processorThread ++ inner)).1
      (unwind processor threads (.opens .collectorSocket :: effects ++
        threadOpens threads .processorThread ++ inner)).2 := by
  rw [unwind, if_neg (Nat.ne_of_gt some)]
  exact .destroys binds built first fails some level

theorem runIoThreads_path {env : Environment} {world : World} {effects : List Effect}
    {processor : Processor} (binds : world.collectorBinds = true)
    (built : newProcessor env world = (effects, some processor))
    (threads : ∀ index < processor.threadCount env, world.processorThreadStarts index = true)
    (monitor : world.monitorBinds = true) (signals : world.signalsRegister = true) :
    MainPath env world
      (runIoThreads env world processor (processor.threadCount env) (.opens .collectorSocket ::
        effects ++ threadOpens (processor.threadCount env) .processorThread)).1
      (runIoThreads env world processor (processor.threadCount env) (.opens .collectorSocket ::
        effects ++ threadOpens (processor.threadCount env) .processorThread)).2 := by
  have positive := threadCount_positive env processor
  have first := threads 0 positive
  have all := spawned_all world.ioThreadStarts 0 (ioThreadCount env)
  simp only [Nat.zero_add] at all
  unfold runIoThreads
  simp only
  generalize spawned world.ioThreadStarts 0 (ioThreadCount env) = ioThreads at *
  split
  · rename_i full
    rw [full]
    exact .serves binds built ⟨threads, monitor, signals, all.mp full⟩
  · rename_i short
    have fails : ¬ Launched env world processor :=
      fun launched => short (all.mpr launched.ioThreads)
    split
    · rw [List.append_assoc _ [_, _]]
      refine unwind_path binds built first fails positive fun resource => ?_
      simp only [List.cons_append, List.nil_append, balance_opens, balance_closes, balance_nil]
      omega
    · rename_i some
      exact .noIoThread binds built first fails positive (Nat.pos_of_ne_zero some)

theorem runMain_path (env : Environment) (world : World) :
    MainPath env world (runMain env world).1 (runMain env world).2 := by
  unfold runMain
  cases binds : world.collectorBinds with
  | false => exact .noCollector binds
  | true =>
      simp only [Bool.not_true, Bool.false_eq_true, if_false]
      rcases built : newProcessor env world with ⟨effects, _ | processor⟩
      · exact .throws binds built
      · have positive := threadCount_positive env processor
        have all := spawned_all world.processorThreadStarts 0 (processor.threadCount env)
        have none := spawned_none world.processorThreadStarts positive
        simp only [Nat.zero_add] at all ⊢
        generalize spawned world.processorThreadStarts 0 (processor.threadCount env) = threads at *
        by_cases nobody : threads = 0
        · subst nobody
          have short : 0 ≠ processor.threadCount env := Nat.ne_of_lt positive
          rw [if_pos short, unwind, if_pos rfl, threadOpens, List.range_zero, List.map_nil,
            List.append_nil]
          exact .noThread binds built (none.mp rfl)
        · have some : 0 < threads := Nat.pos_of_ne_zero nobody
          have first : world.processorThreadStarts 0 = true := by
            rw [← Bool.not_eq_false]
            exact fun idle => nobody (none.mpr idle)
          have stops (fails : ¬ Launched env world processor) : MainPath env world
              (unwind processor threads (.opens .collectorSocket :: effects ++
                threadOpens threads .processorThread)).1
              (unwind processor threads (.opens .collectorSocket :: effects ++
                threadOpens threads .processorThread)).2 := by
            have undone := unwind_path binds built first fails some balance_nil
            rwa [List.append_nil] at undone
          by_cases full : threads = processor.threadCount env
          · rw [if_neg (not_not_intro full)]
            cases bound : world.monitorBinds with
            | false => exact stops fun launched => by simp [launched.monitor] at bound
            | true =>
                cases registered : world.signalsRegister with
                | false =>
                    refine unwind_path binds built first (fun launched => ?_) some
                      fun resource => ?_
                    · simp [launched.signals] at registered
                    · simp only [balance_opens, balance_closes, balance_nil]
                      omega
                | true =>
                    subst full
                    exact runIoThreads_path binds built (all.mp rfl) bound registered
          · rw [if_pos full]
            exact stops fun launched => full (all.mpr launched.threads)

/-! What the processor is made of. -/

def KafkaAccepts (env : Environment) (world : World) : Prop :=
  ∃ bootstrap, env "EVENT_COLLECTOR_KAFKA_BOOTSTRAP" = some bootstrap ∧ bootstrap ≠ [] ∧
    ∀ property ∈ kafkaProperties bootstrap, world.confSets property.1 property.2 = true

/-- The number in the environment, which must be one, or the default if it has none. -/
def Strictly {Value : Type} (env : Environment) (name : String) (default : Value)
    (meant : Bytes → Value → Prop) (value : Value) : Prop :=
  (env name = none ∧ value = default) ∨ ∃ text, env name = some text ∧ meant text value

structure RateLimited (env : Environment) (world : World) (options : RateLimiterOptions) :
    Prop where
  enabled : env "EVENT_COLLECTOR_REDIS_ENABLE" = some (ascii "1")
  connects : world.redisConnects = true
  host : options.host = (env "EVENT_COLLECTOR_REDIS_HOST").getD (ascii "127.0.0.1")
  password : options.password =
    (env "EVENT_COLLECTOR_REDIS_PASSWORD").filter fun text => !text.isEmpty
  port : Strictly env "EVENT_COLLECTOR_REDIS_PORT" 6379 MeansInt options.port
  limit : Strictly env "EVENT_COLLECTOR_RATE_LIMIT" 100 MeansUnsigned options.limitPerMin

structure Stores (env : Environment) (world : World) (host : Bytes) (port : Int) : Prop where
  enabled : env "EVENT_COLLECTOR_ENABLE_CLICKHOUSE" = some (ascii "1")
  connects : world.clickhouseConnects = true
  flusher : world.flusherStarts = true
  host : host = (env "EVENT_COLLECTOR_CLICKHOUSE_HOST").getD (ascii "localhost")
  port : Strictly env "EVENT_COLLECTOR_CLICKHOUSE_PORT" 9000 MeansInt port

structure Built (env : Environment) (world : World) (processor : Processor) : Prop where
  producer : processor.producer = true ↔ KafkaAccepts env world ∧ world.producerStarts = true
  topic : ∀ name, processor.topic = some name ↔ KafkaAccepts env world ∧
    world.producerStarts = true ∧ world.topicOpens = true ∧ name = topicName env
  storage : ∀ host port, processor.storage = some (host, port) ↔ Stores env world host port
  rateLimiter : ∀ options, processor.rateLimiter = some options ↔ RateLimited env world options

theorem strict_strictly {Value : Type} {env : Environment} {name : String} {default : Value}
    {parse : Bytes → Option Value} {meant : Bytes → Value → Prop}
    (parses : ∀ text value, parse text = some value ↔ meant text value) (value : Value) :
    strict env name default parse = some value ↔ Strictly env name default meant value := by
  unfold strict Strictly
  cases found : env name with
  | none => simp [eq_comm]
  | some text => simp [parses]

theorem openKafka_cases (env : Environment) (world : World) :
    (¬ KafkaAccepts env world ∧ ∃ effects, (∀ resource, balance effects resource = 0) ∧
      openKafka env world = (effects, false, none)) ∨
    (KafkaAccepts env world ∧ world.producerStarts = false ∧
      openKafka env world = ([.opens .kafkaConf], false, none)) ∨
    (KafkaAccepts env world ∧ world.producerStarts = true ∧ openKafka env world =
      ([.opens .kafkaConf, .closes .kafkaConf, .opens .producer] ++
        (if world.topicOpens then [.opens .topic] else []), true,
        if world.topicOpens then some (topicName env) else none)) := by
  unfold openKafka
  split
  · rename_i unset
    refine Or.inl ⟨?_, [], balance_nil, rfl⟩
    rintro ⟨bootstrap, found, -, -⟩
    rw [unset] at found
    cases found
  · rename_i empty
    refine Or.inl ⟨?_, [], balance_nil, rfl⟩
    rintro ⟨bootstrap, found, filled, -⟩
    exact filled (Option.some.inj (found.symm.trans empty))
  · rename_i bootstrap filled found
    have accepts : KafkaAccepts env world ↔ ((kafkaProperties bootstrap).all
        fun property => world.confSets property.1 property.2) = true := by
      rw [List.all_eq_true]
      constructor
      · rintro ⟨other, same, -, sets⟩
        obtain rfl := Option.some.inj (same.symm.trans found)
        exact sets
      · exact fun sets => ⟨bootstrap, found, filled, sets⟩
    rw [accepts]
    split
    · rename_i sets
      right
      cases world.producerStarts with
      | false => exact Or.inl ⟨sets, rfl, rfl⟩
      | true =>
          right
          cases world.topicOpens with
          | false => exact ⟨sets, rfl, rfl⟩
          | true => exact ⟨sets, rfl, rfl⟩
    · rename_i refuses
      refine Or.inl ⟨refuses, _, fun resource => ?_, rfl⟩
      simp only [balance_opens, balance_closes, balance_nil]
      omega

theorem openKafka_built (env : Environment) (world : World) :
    ((openKafka env world).2.1 = true ↔ KafkaAccepts env world ∧ world.producerStarts = true) ∧
    ∀ name, (openKafka env world).2.2 = some name ↔ KafkaAccepts env world ∧
      world.producerStarts = true ∧ world.topicOpens = true ∧ name = topicName env := by
  rcases openKafka_cases env world with
    ⟨refuses, effects, -, made⟩ | ⟨accepts, fails, made⟩ | ⟨accepts, starts, made⟩
  · simp [made, refuses]
  · simp [made, fails]
  · cases opened : world.topicOpens <;> simp [made, accepts, starts, opened, eq_comm]

theorem openStorage_built (env : Environment) (world : World) (host : Bytes) (port : Int) :
    (openStorage env world).2 = some (host, port) ↔ Stores env world host port := by
  have parsed : Stores env world host port ↔
      env "EVENT_COLLECTOR_ENABLE_CLICKHOUSE" = some (ascii "1") ∧
      strict env "EVENT_COLLECTOR_CLICKHOUSE_PORT" 9000 stoi = some port ∧
      world.clickhouseConnects = true ∧ world.flusherStarts = true ∧
      host = (env "EVENT_COLLECTOR_CLICKHOUSE_HOST").getD (ascii "localhost") := by
    rw [strict_strictly stoi_iff]
    exact ⟨fun ⟨enabled, connects, flusher, host, port⟩ => ⟨enabled, port, connects, flusher, host⟩,
      fun ⟨enabled, port, connects, flusher, host⟩ => ⟨enabled, connects, flusher, host, port⟩⟩
  rw [parsed]
  unfold openStorage
  split
  · rename_i enabled
    cases strict env "EVENT_COLLECTOR_CLICKHOUSE_PORT" 9000 stoi with
    | none => simp
    | some value =>
        cases world.clickhouseConnects with
        | false => simp
        | true => cases world.flusherStarts <;> simp [enabled, eq_comm, and_comm]
  · rename_i disabled
    simp [disabled]

theorem openRateLimiter_built {env : Environment} {world : World} {effects : List Effect}
    {rateLimiter : Option RateLimiterOptions}
    (opened : openRateLimiter env world = some (effects, rateLimiter))
    (options : RateLimiterOptions) :
    rateLimiter = some options ↔ RateLimited env world options := by
  have parsed : RateLimited env world options ↔
      env "EVENT_COLLECTOR_REDIS_ENABLE" = some (ascii "1") ∧ world.redisConnects = true ∧
      strict env "EVENT_COLLECTOR_REDIS_PORT" 6379 stoi = some options.port ∧
      strict env "EVENT_COLLECTOR_RATE_LIMIT" 100 stoull = some options.limitPerMin ∧
      options.host = (env "EVENT_COLLECTOR_REDIS_HOST").getD (ascii "127.0.0.1") ∧
      options.password =
        (env "EVENT_COLLECTOR_REDIS_PASSWORD").filter fun text => !text.isEmpty := by
    rw [strict_strictly stoi_iff, strict_strictly stoull_iff]
    exact ⟨fun ⟨enabled, connects, host, password, port, limit⟩ =>
        ⟨enabled, connects, port, limit, host, password⟩,
      fun ⟨enabled, connects, port, limit, host, password⟩ =>
        ⟨enabled, connects, host, password, port, limit⟩⟩
  obtain ⟨host, port, password, limit⟩ := options
  rw [parsed]
  unfold openRateLimiter at opened
  split at opened
  · rename_i enabled
    simp only [Option.bind_eq_some_iff, Option.map_eq_some_iff] at opened
    obtain ⟨read, portRead, number, limitRead, made⟩ := opened
    rw [portRead, limitRead]
    cases connects : world.redisConnects with
    | false =>
        simp only [connects, Bool.false_eq_true, if_false, Prod.mk.injEq] at made
        simp [← made.2]
    | true =>
        simp only [connects, if_true, Prod.mk.injEq] at made
        rw [← made.2]
        simp only [Option.some.injEq, RateLimiterOptions.mk.injEq, enabled, true_and]
        constructor
        · rintro ⟨rfl, rfl, rfl, rfl⟩
          exact ⟨rfl, rfl, rfl, rfl⟩
        · rintro ⟨rfl, rfl, rfl, rfl⟩
          exact ⟨rfl, rfl, rfl, rfl⟩
  · rename_i disabled
    simp only [Option.some.injEq, Prod.mk.injEq] at opened
    simp [← opened.2, disabled]

theorem newProcessor_built {env : Environment} {world : World} {effects : List Effect}
    {processor : Processor} (built : newProcessor env world = (effects, some processor)) :
    Built env world processor := by
  unfold newProcessor at built
  have kafka := openKafka_built env world
  have storage := openStorage_built env world
  cases opened : openRateLimiter env world with
  | none => simp [opened] at built
  | some made =>
      obtain ⟨redis, rateLimiter⟩ := made
      simp only [opened, Prod.mk.injEq, Option.some.injEq] at built
      obtain ⟨-, rfl⟩ := built
      exact ⟨kafka.1, kafka.2, storage, openRateLimiter_built opened⟩

/-! How `main` ends. -/

/-- What `main` serves with. -/
structure Serves (env : Environment) (world : World) (chosen : Settings) : Prop where
  collector : world.collectorBinds = true
  redis : ¬ RedisThrows env
  processor : Built env world chosen.processor
  launched : Launched env world chosen.processor
  collectorPort :
    Tolerated env "EVENT_COLLECTOR_PORT" 8080 UInt16.ofInt chosen.collectorPort
  monitorPort :
    Tolerated env "EVENT_COLLECTOR_PROMETHEUS_PORT" 9090 UInt16.ofInt chosen.monitorPort
  workers : Tolerated env "EVENT_COLLECTOR_WORKERS" 4 (fun value => (max 1 value).toNat)
    chosen.workers
  ioThreads : Tolerated env "EVENT_COLLECTOR_IO_THREADS" 2 (fun value => (max 1 value).toNat)
    chosen.ioThreads

/-- A processor is told by what it is made of. -/
theorem built_unique {env : Environment} {world : World} {first second : Processor}
    (one : Built env world first) (other : Built env world second) : first = second := by
  obtain ⟨producer, topic, storage, rateLimiter⟩ := first
  obtain ⟨producer', topic', storage', rateLimiter'⟩ := second
  have producers : producer = producer' :=
    Bool.eq_iff_iff.mpr (one.producer.trans other.producer.symm)
  have topics : topic = topic' :=
    Option.ext fun name => (one.topic name).trans (other.topic name).symm
  have storages : storage = storage' :=
    Option.ext fun address =>
      (one.storage address.1 address.2).trans (other.storage address.1 address.2).symm
  have limiters : rateLimiter = rateLimiter' :=
    Option.ext fun options => (one.rateLimiter options).trans (other.rateLimiter options).symm
  rw [producers, topics, storages, limiters]

theorem serves_unique {env : Environment} {world : World} {first second : Settings}
    (one : Serves env world first) (other : Serves env world second) : first = second := by
  obtain ⟨collectorPort, monitorPort, workers, ioThreads, processor⟩ := first
  obtain ⟨collectorPort', monitorPort', workers', ioThreads', processor'⟩ := second
  rw [Settings.mk.injEq]
  exact ⟨tolerated_unique one.collectorPort other.collectorPort,
    tolerated_unique one.monitorPort other.monitorPort, tolerated_unique one.workers other.workers,
    tolerated_unique one.ioThreads other.ioThreads, built_unique one.processor other.processor⟩

/-- `main` returns 1 without a socket, with a Redis setting that does not parse and without
a first thread; whatever else keeps it from serving is `std::terminate`. -/
def Fits (env : Environment) (world : World) : Ending → Prop
  | .serving chosen => Serves env world chosen
  | .returns => world.collectorBinds = false ∨ RedisThrows env ∨
      world.processorThreadStarts 0 = false
  | .terminates => world.collectorBinds = true ∧ ¬ RedisThrows env ∧
      world.processorThreadStarts 0 = true ∧ ∀ chosen, ¬ Serves env world chosen

theorem serves_starts {env : Environment} {world : World} {chosen : Settings}
    (serves : Serves env world chosen) : ¬ Fits env world .returns := by
  rintro (unbound | throws | idle)
  · simp [serves.collector] at unbound
  · exact serves.redis throws
  · have first := serves.launched.threads 0 (threadCount_positive env chosen.processor)
    simp [first] at idle

theorem returns_only {env : Environment} {world : World} (fits : Fits env world .returns) :
    ¬ Fits env world .terminates := by
  rintro ⟨bound, safe, first, -⟩
  rcases fits with unbound | throws | idle
  · simp [bound] at unbound
  · exact safe throws
  · simp [first] at idle

theorem fits_unique {env : Environment} {world : World} {first second : Ending}
    (one : Fits env world first) (other : Fits env world second) : first = second := by
  cases first with
  | serving chosen =>
      cases second with
      | serving chosen' => rw [serves_unique one other]
      | returns => exact absurd other (serves_starts one)
      | terminates => exact absurd one (other.2.2.2 chosen)
  | returns =>
      cases second with
      | serving chosen => exact absurd one (serves_starts other)
      | returns => rfl
      | terminates => exact absurd other (returns_only one)
  | terminates =>
      cases second with
      | serving chosen => exact absurd other (one.2.2.2 chosen)
      | returns => exact absurd one (returns_only other)
      | terminates => rfl

theorem built_safe {env : Environment} {world : World} {effects : List Effect}
    {processor : Processor} (built : newProcessor env world = (effects, some processor)) :
    ¬ RedisThrows env := by
  rw [← newProcessor_none env world, built]
  simp

theorem unmanned_fits {env : Environment} {world : World} {effects : List Effect}
    {processor : Processor} (binds : world.collectorBinds = true)
    (built : newProcessor env world = (effects, some processor))
    (first : world.processorThreadStarts 0 = true) (fails : ¬ Launched env world processor) :
    Fits env world .terminates := by
  refine ⟨binds, built_safe built, first, fun chosen serves => fails ?_⟩
  rw [← built_unique serves.processor (newProcessor_built built)]
  exact serves.launched

theorem path_fits {env : Environment} {world : World} {effects : List Effect} {ending : Ending}
    (path : MainPath env world effects ending) : Fits env world ending := by
  cases path with
  | noCollector unbound => exact Or.inl unbound
  | throws _ built =>
      exact Or.inr (Or.inl ((newProcessor_none env world).mp (by rw [built])))
  | noThread _ _ idle => exact Or.inr (Or.inr idle)
  | destroys binds built first fails _ _ => exact unmanned_fits binds built first fails
  | noIoThread binds built first fails _ _ => exact unmanned_fits binds built first fails
  | serves binds built launched =>
      exact ⟨binds, built_safe built, newProcessor_built built, launched,
        tolerant_tolerated _ _ _ _, tolerant_tolerated _ _ _ _, tolerant_tolerated _ _ _ _,
        tolerant_tolerated _ _ _ _⟩

/-- How a start ends, for every environment and whatever the system and the libraries do:
it serves exactly with the settings that the numerals in the environment give. -/
theorem main_ends (env : Environment) (world : World) (ending : Ending) :
    (runMain env world).2 = ending ↔ Fits env world ending := by
  have fits := path_fits (runMain_path env world)
  constructor
  · rintro rfl
    exact fits
  · exact fits_unique fits

/-! What `main` serves is the program of the other modules, and never without a worker. -/

theorem served_manned {env : Environment} {world : World} {chosen : Settings}
    (serves : Serves env world chosen) : 0 < chosen.workers := by
  rw [tolerated_unique serves.workers (tolerant_tolerated _ _ _ _)]
  exact tolerant_positive env _ (by decide)

theorem served_storage {env : Environment} {world : World} {chosen : Settings} {host : Bytes}
    {port : Int} (serves : Serves env world chosen) (stores : Stores env world host port) :
    chosen.processor.deployment.storage = true := by
  have storage : chosen.processor.storage = some (host, port) :=
    (serves.processor.storage host port).mpr stores
  simp [Processor.deployment, storage]

theorem served_limited {env : Environment} {world : World} {chosen : Settings}
    {parse : Bytes → Option Event} {processed : Processed} (serves : Serves env world chosen)
    (justified : processed.Justified (chosen.processor.deployment.config parse))
    (refused : processed.outcome = .rateLimited) :
    ∃ options, RateLimited env world options := by
  unfold Processed.Justified at justified
  rw [refused] at justified
  obtain ⟨-, evt, clock, limit, reply, -, -, limited, -⟩ := justified
  obtain ⟨options, made, -⟩ := Option.map_eq_some_iff.mp limited
  exact ⟨options, (serves.processor.rateLimiter options).mp made⟩

/-- From every state the program that a start serves can get rid of all it has accepted,
with `main` still joining: an event is refused only if the environment asks for Redis, and
ClickHouse has been given all that passed if the environment asks for it. -/
theorem main_windsDown (parse : Bytes → Option Event) (redis : CounterStore Bytes)
    {env : Environment} {world : World} {chosen : Settings}
    (served : (runMain env world).2 = .serving chosen) {before : List ProgramLabel}
    {program : Program queueCapacity}
    (reached : (programMachine parse chosen.processor.deployment redis queueCapacity
      chosen.workers).run (programMachine parse chosen.processor.deployment redis queueCapacity
        chosen.workers).initial before = some program) :
    ∃ labels final, (∀ label ∈ labels, label.unaided = true) ∧
      (programMachine parse chosen.processor.deployment redis queueCapacity
        chosen.workers).run program labels = some final ∧
      openSockets final.server = 0 ∧ final.process.main = .serving ∧
      (program.process.pipeline.system.shared.accepted <+:
        final.process.pipeline.system.shared.accepted) ∧
      (messages final.process.pipeline.system.shared.finished).Perm
        final.process.pipeline.system.shared.accepted ∧
      (∀ processed ∈ final.process.pipeline.system.shared.finished,
        processed.outcome = .rateLimited → ∃ options, RateLimited env world options) ∧
      ∀ host port, Stores env world host port →
        final.process.pipeline.storage.buffer = [] ∧
        final.process.pipeline.storage.given.flatten.Perm
          ((passedOn final.process.pipeline.system.shared.finished).map Message.data) := by
  have serves := path_fits (runMain_path env world)
  rw [served] at serves
  obtain ⟨labels, final, unaided, ran, -, -, closed, joining, kept, -, empty, settled⟩ :=
    program_empties reached (served_manned serves)
  refine ⟨labels, final, unaided, ran, closed, joining, kept, settled.once, ?_, ?_⟩
  · intro processed member refused
    exact served_limited serves (settled.justified processed member) refused
  · intro host port stores
    exact ⟨empty, settled.flushed (served_storage serves stores)⟩

def healthyWorld : World where
  collectorBinds := true
  confSets _ _ := true
  producerStarts := true
  topicOpens := true
  clickhouseConnects := true
  flusherStarts := true
  redisConnects := true
  processorThreadStarts _ := true
  monitorBinds := true
  signalsRegister := true
  ioThreadStarts _ := true

/-- ClickHouse is there and nothing else. -/
def storingEnvironment : Environment := fun name =>
  if name = "EVENT_COLLECTOR_ENABLE_CLICKHOUSE" then some (ascii "1") else none

def storingSettings : Settings where
  collectorPort := 8080
  monitorPort := 9090
  workers := 4
  ioThreads := 2
  processor := ⟨false, none, some (ascii "localhost", 9000), none⟩

/-- Two workers have taken an event each, and a third is in the queue. -/
def takenEvents : List ProgramLabel :=
  let body := encodeEvent (eventOf [7])
  let frame : List ProgramLabel := [.io (.session 0 (.receive (packLength body.length))),
    .io (.session 0 (.runRead true)), .io (.session 0 (.receive body)),
    .io (.session 0 (.runRead true))]
  [.io (.connect 0 true), .io (.runAccept 0), .io (.runAccept 0)] ++ frame ++ frame ++ frame ++
    [.process (.thread 1 (.worker 0 .fails)), .process (.thread 1 (.worker 1 .fails)),
      .process (.thread 1 (.worker 0 .fails)), .process (.thread 1 (.worker 1 .fails))]

theorem main_windsDown_storing : ∃ program : Program queueCapacity,
    (programMachine sampleParse storingSettings.processor.deployment (fun _ => none)
      queueCapacity 4).run (programMachine sampleParse storingSettings.processor.deployment
        (fun _ => none) queueCapacity 4).initial takenEvents = some program ∧
    ∃ labels final, (∀ label ∈ labels, label.unaided = true) ∧
      (programMachine sampleParse storingSettings.processor.deployment (fun _ => none)
        queueCapacity 4).run program labels = some final ∧
      3 ≤ final.process.pipeline.system.shared.finished.length ∧
      (∀ processed ∈ final.process.pipeline.system.shared.finished,
        processed.outcome ≠ .rateLimited) ∧
      final.process.pipeline.storage.given.flatten.Perm
        ((passedOn final.process.pipeline.system.shared.finished).map Message.data) := by
  have served : (runMain storingEnvironment healthyWorld).2 = .serving storingSettings := by
    decide
  have taken : ((programMachine sampleParse storingSettings.processor.deployment (fun _ => none)
      queueCapacity 4).run (programMachine sampleParse storingSettings.processor.deployment
        (fun _ => none) queueCapacity 4).initial takenEvents).map (fun program =>
        program.process.pipeline.system.shared.accepted.length) = some 3 := by
    decide
  obtain ⟨program, reached, accepted⟩ := Option.map_eq_some_iff.mp taken
  obtain ⟨labels, final, unaided, ran, -, -, kept, once, refused, stored⟩ :=
    main_windsDown sampleParse (fun _ => none) served reached
  have finished : final.process.pipeline.system.shared.finished.length =
      final.process.pipeline.system.shared.accepted.length := by
    simpa [messages] using once.length_eq
  refine ⟨program, reached, labels, final, unaided, ran, ?_, ?_, ?_⟩
  · rw [finished, ← accepted]
    exact kept.length_le
  · intro processed member limited
    obtain ⟨options, asked⟩ := refused processed member limited
    exact absurd asked.enabled (by decide)
  · exact (stored (ascii "localhost") 9000
      ⟨by decide, rfl, rfl, by decide, Or.inl ⟨by decide, rfl⟩⟩).2

end EventCollector
