import EventCollector.Conservation

/-!
Custody of every accepted event, from `try_push` to the return of `stop()`: it
waits in the queue, or one worker has it in hand, or one iteration finished it.
-/

namespace EventCollector

open Ledger

variable {capacity : Nat}

namespace WorkerPc

@[simp] def inHand : WorkerPc → Multiset Message
  | .popped message | .received message | .parsed message _ | .valid message _
  | .limited message _ | .allowed message _ | .produced message _ => {message}
  | .check | .popping | .exited => 0

@[simp] def underway : WorkerPc → Multiset Message
  | .produced message _ => {message}
  | _ => 0

@[simp] def Established (config : Config) : WorkerPc → Prop
  | .parsed message evt => config.parse message.data = some evt
  | .valid message evt | .allowed message evt | .produced message evt =>
      config.parse message.data = some evt ∧ ∃ clock, validateEvent clock evt = true
  | .limited message evt => config.parse message.data = some evt ∧
      (∃ clock, validateEvent clock evt = true) ∧
      ∃ limit reply, config.rateLimit = some limit ∧ allow limit reply = false
  | _ => True

end WorkerPc

def Processed.Justified (config : Config) (processed : Processed) : Prop :=
  match processed.outcome with
  | .parseFail => config.parse processed.message.data = none
  | .invalid => ∃ evt clock, config.parse processed.message.data = some evt ∧
      validateEvent clock evt = false
  | .rateLimited => processed.handler ≠ .drain ∧
      ∃ evt clock limit reply, config.parse processed.message.data = some evt ∧
        validateEvent clock evt = true ∧ config.rateLimit = some limit ∧
        allow limit reply = false
  | .passed => ∃ evt clock, config.parse processed.message.data = some evt ∧
      validateEvent clock evt = true

def messages (finished : List Processed) : List Message := finished.map Processed.message

def passedOn (finished : List Processed) : List Message :=
  messages (finished.filter fun processed => processed.outcome = .passed)

def calls (produced : List KafkaCall) : List Message := produced.map KafkaCall.message

@[simp] theorem messages_append (first second : List Processed) :
    messages (first ++ second) = messages first ++ messages second := by
  simp [messages]

@[simp] theorem messages_singleton (processed : Processed) :
    messages [processed] = [processed.message] := rfl

@[simp] theorem passedOn_append (first second : List Processed) :
    passedOn (first ++ second) = passedOn first ++ passedOn second := by
  simp [passedOn]

@[simp] theorem passedOn_singleton (message : Message) (outcome : Outcome) (handler : Handler) :
    passedOn [⟨message, outcome, handler⟩] = if outcome = .passed then [message] else [] := by
  by_cases passed : outcome = .passed <;> simp [passedOn, passed, messages]

@[simp] theorem calls_append (first second : List KafkaCall) :
    calls (first ++ second) = calls first ++ calls second := by
  simp [calls]

@[simp] theorem calls_singleton (call : KafkaCall) : calls [call] = [call.message] := rfl

def KafkaCall.Keyed (config : Config) (call : KafkaCall) : Prop :=
  ∃ evt, config.parse call.message.data = some evt ∧ call.key = evt.userId

structure SharedCustody (config : Config) (shared : Shared capacity) : Prop where
  serials : shared.accepted.map Message.serial = List.range shared.accepted.length
  saved : shared.saved = if config.storage then passedOn shared.finished else []
  keyed : ∀ call ∈ shared.produced, call.Keyed config
  justified : ∀ processed ∈ shared.finished, processed.Justified config

structure Custody (config : Config) (system : System capacity) : Prop where
  shared : SharedCustody config system.shared
  held : bag system.shared.taken =
    bag (messages system.shared.finished) + tally WorkerPc.inHand system.workers
  produced : bag (calls system.shared.produced) =
    bag (passedOn system.shared.finished) + tally WorkerPc.underway system.workers
  received : system.shared.taken.length = system.shared.metrics.totalReceived +
    tally (indicator WorkerPc.isPopped) system.workers
  established : ∀ pc ∈ system.workers, pc.Established config
  joined : system.stop = .draining ∨ system.stop = .returned →
    ∀ pc ∈ system.workers, pc = .exited
  drained : system.stop = .returned → system.shared.queue.items = []

/-! One step of a worker. -/

theorem workerMove_held {config : Config} {index : Nat} {input : Input}
    {before after : Shared capacity} {old new : WorkerPc}
    (moved : WorkerMove config index input before old after new) :
    bag (messages after.finished) + new.inHand + bag before.taken =
      bag (messages before.finished) + old.inHand + bag after.taken := by
  cases moved with
  | pop _ =>
      simp only [WorkerPc.inHand, bag_append, bag_singleton, add_zero]
      ac_rfl
  | produce => simp [Shared.produceToKafka]
  | save => simp [save_eq]
  | _ => simp

theorem workerMove_produced {config : Config} {index : Nat} {input : Input}
    {before after : Shared capacity} {old new : WorkerPc}
    (moved : WorkerMove config index input before old after new) :
    bag (passedOn after.finished) + new.underway + bag (calls before.produced) =
      bag (passedOn before.finished) + old.underway + bag (calls after.produced) := by
  cases moved with
  | produce =>
      simp only [WorkerPc.underway, Shared.produceToKafka, calls_append, calls_singleton,
        bag_append, bag_singleton, add_zero]
      ac_rfl
  | save => simp [save_eq]
  | _ => simp

theorem workerMove_received {config : Config} {index : Nat} {input : Input}
    {before after : Shared capacity} {old new : WorkerPc}
    (moved : WorkerMove config index input before old after new) :
    after.metrics.totalReceived + indicator WorkerPc.isPopped new + before.taken.length =
      before.metrics.totalReceived + indicator WorkerPc.isPopped old + after.taken.length := by
  cases moved with
  | pop _ =>
      simp [indicator]
      omega
  | receive => simp [indicator]
  | produce => simp [indicator, Shared.produceToKafka]
  | save => simp [indicator, save_eq]
  | _ => simp [indicator]

theorem workerMove_established {config : Config} {index : Nat} {input : Input}
    {before after : Shared capacity} {old new : WorkerPc}
    (moved : WorkerMove config index input before old after new)
    (known : old.Established config) : new.Established config := by
  cases moved with
  | parse parsed => exact parsed
  | validate accepted => exact ⟨known, input.clock, accepted⟩
  | unlimited _ => exact known
  | allow _ _ => exact known
  | limit enabled refused => exact ⟨known.1, known.2, _, input.reply, enabled, refused⟩
  | produce => exact known
  | _ => trivial

theorem SharedCustody.transfer {config : Config} {before after : Shared capacity}
    (holds : SharedCustody config before) (accepted : after.accepted = before.accepted)
    (saved : after.saved = before.saved) (produced : after.produced = before.produced)
    (finished : after.finished = before.finished) : SharedCustody config after := by
  constructor
  · rw [accepted]
    exact holds.serials
  · rw [saved, finished]
    exact holds.saved
  · rw [produced]
    exact holds.keyed
  · rw [finished]
    exact holds.justified

theorem finish_custody {config : Config} {shared : Shared capacity} {message : Message}
    {outcome : Outcome} {handler : Handler} (holds : SharedCustody config shared)
    (stopped : outcome ≠ .passed)
    (justified : (Processed.mk message outcome handler).Justified config) :
    SharedCustody config (shared.finish message outcome handler) := by
  refine ⟨holds.serials, ?_, holds.keyed, ?_⟩
  · simpa [stopped] using holds.saved
  · intro processed member
    simp only [finish_finished, List.mem_append, List.mem_singleton] at member
    rcases member with old | rfl
    · exact holds.justified processed old
    · exact justified

theorem save_custody {config : Config} {shared : Shared capacity} {message : Message}
    {handler : Handler} (holds : SharedCustody config shared)
    (justified : (Processed.mk message .passed handler).Justified config) :
    SharedCustody config ((shared.save config message).finish message .passed handler) := by
  refine ⟨by simpa [save_eq] using holds.serials, ?_, by simpa [save_eq] using holds.keyed, ?_⟩
  · have saved := holds.saved
    simp only [save_eq, finish_saved, finish_finished, passedOn_append, passedOn_singleton, if_true]
    split <;> simp_all
  · intro processed member
    simp only [save_eq, finish_finished, List.mem_append, List.mem_singleton] at member
    rcases member with old | rfl
    · exact holds.justified processed old
    · exact justified

theorem produce_custody {config : Config} {shared : Shared capacity} {message : Message}
    {evt : Event} (holds : SharedCustody config shared)
    (parsed : config.parse message.data = some evt) :
    SharedCustody config (shared.produceToKafka evt.userId message) := by
  refine ⟨holds.serials, holds.saved, ?_, holds.justified⟩
  intro call member
  simp only [Shared.produceToKafka, List.mem_append, List.mem_singleton] at member
  rcases member with old | rfl
  · exact holds.keyed call old
  · exact ⟨evt, parsed, rfl⟩

theorem workerMove_custody {config : Config} {index : Nat} {input : Input}
    {before after : Shared capacity} {old new : WorkerPc}
    (moved : WorkerMove config index input before old after new)
    (known : old.Established config) (holds : SharedCustody config before) :
    SharedCustody config after := by
  cases moved with
  | parseFail failed => exact finish_custody (holds.transfer rfl rfl rfl rfl) (by simp) failed
  | reject rejected =>
      exact finish_custody (holds.transfer rfl rfl rfl rfl) (by simp) ⟨_, input.clock, known, rejected⟩
  | rateLimited =>
      obtain ⟨parsed, ⟨clock, accepted⟩, limit, reply, enabled, refused⟩ := known
      exact finish_custody (holds.transfer rfl rfl rfl rfl) (by simp)
        ⟨by simp, _, clock, limit, reply, parsed, accepted, enabled, refused⟩
  | produce => exact produce_custody holds known.1
  | save =>
      obtain ⟨parsed, clock, accepted⟩ := known
      exact save_custody holds ⟨_, clock, parsed, accepted⟩
  | _ => exact holds.transfer rfl rfl rfl rfl

/-! One iteration of the drain loop. -/

theorem drainMove_held {config : Config} {clock : Int} {message : Message}
    {before after : Shared capacity} (moved : DrainMove config clock message before after) :
    bag (messages after.finished) = bag (messages before.finished) + {message} ∧
    bag (calls after.produced) + bag (passedOn before.finished) =
      bag (passedOn after.finished) + bag (calls before.produced) := by
  cases moved with
  | parseFail _ => simp [add_comm]
  | reject _ _ => simp [add_comm]
  | pass _ _ =>
      refine ⟨by simp [save_eq, Shared.produceToKafka], ?_⟩
      simp only [save_eq, Shared.produceToKafka, finish_produced, finish_finished, calls_append,
        calls_singleton, passedOn_append, passedOn_singleton, if_true, bag_append, bag_singleton]
      ac_rfl

theorem drainMove_received {config : Config} {clock : Int} {message : Message}
    {before after : Shared capacity} (moved : DrainMove config clock message before after) :
    after.metrics.totalReceived = before.metrics.totalReceived + 1 := by
  cases moved with
  | parseFail _ => rfl
  | reject _ _ => rfl
  | pass _ _ => simp [save_eq, Shared.produceToKafka]

theorem drainMove_custody {config : Config} {clock : Int} {message : Message}
    {before after : Shared capacity} (moved : DrainMove config clock message before after)
    (holds : SharedCustody config before) : SharedCustody config after := by
  cases moved with
  | parseFail failed => exact finish_custody (holds.transfer rfl rfl rfl rfl) (by simp) failed
  | reject parsed rejected =>
      exact finish_custody (holds.transfer rfl rfl rfl rfl) (by simp) ⟨_, clock, parsed, rejected⟩
  | pass parsed accepted =>
      exact save_custody (produce_custody (holds.transfer rfl rfl rfl rfl) parsed)
        ⟨_, clock, parsed, accepted⟩

/-! Custody along a run of the whole pipeline. -/

theorem custody_worker {config : Config} {index : Nat} {input : Input}
    {system : System capacity} {after : Shared capacity} {old new : WorkerPc}
    (holds : Custody config system) (found : system.workers[index]? = some old)
    (moved : WorkerMove config index input system.shared old after new) :
    Custody config { system with shared := after, workers := system.workers.set index new } := by
  have member := List.mem_of_getElem? found
  have known := holds.established old member
  have working : old ≠ .exited := by
    rintro rfl
    cases moved
  constructor
  · exact workerMove_custody moved known holds.shared
  · exact account_set holds.held found (workerMove_held moved)
  · exact account_set holds.produced found (workerMove_produced moved)
  · exact account_set holds.received found (workerMove_received moved)
  · exact forall_set holds.established (workerMove_established moved known)
  · intro stopped
    exact (working (holds.joined stopped old member)).elim
  · intro returned
    exact (working (holds.joined (Or.inr returned) old member)).elim

theorem custody_drain {config : Config} {clock : Int} {message : Message}
    {system : System capacity} {queue : ThreadSafeQueue Message capacity}
    {after : Shared capacity} (holds : Custody config system) (draining : system.stop = .draining)
    (moved : DrainMove config clock message
      { system.shared with queue := queue, taken := system.shared.taken ++ [message] } after) :
    Custody config { system with shared := after } := by
  have taken := congrArg AtomicQueue.popped (drainMove_view moved)
  obtain ⟨finished, produced⟩ := drainMove_held moved
  have received := drainMove_received moved
  simp only [Shared.view] at taken received
  constructor
  · exact drainMove_custody moved (holds.shared.transfer rfl rfl rfl rfl)
  · simp only [taken, finished, bag_append, bag_singleton, holds.held]
    ac_rfl
  · refine add_right_cancel (b := bag (passedOn system.shared.finished)) ?_
    simp only at produced ⊢
    rw [produced, holds.produced]
    ac_rfl
  · simp only [taken, received, List.length_append, List.length_singleton, holds.received]
    omega
  · exact holds.established
  · exact holds.joined
  · intro returned
    simp [draining] at returned

theorem custody_step {config : Config} {system next : System capacity}
    (holds : Custody config system) (moved : SystemMove config system next) :
    Custody config next := by
  have kept := holds.shared
  cases moved with
  | accept running _ _ =>
      refine ⟨⟨?_, kept.saved, kept.keyed, kept.justified⟩, holds.held, holds.produced, holds.received,
        holds.established, holds.joined, ?_⟩
      · simp [kept.serials, List.range_succ]
      · intro returned
        simp [running] at returned
  | refuse _ _ _ =>
      exact ⟨kept, holds.held, holds.produced, holds.received, holds.established, holds.joined,
        holds.drained⟩
  | drop _ =>
      exact ⟨kept.transfer rfl rfl rfl rfl, holds.held, holds.produced, holds.received,
        holds.established, holds.joined, holds.drained⟩
  | worker found moved => exact custody_worker holds found moved
  | callStop _ _ =>
      exact ⟨kept.transfer rfl rfl rfl rfl, holds.held, holds.produced, holds.received,
        holds.established, by simp, by simp⟩
  | join _ exited =>
      exact ⟨kept, holds.held, holds.produced, holds.received, holds.established,
        fun _ => exited, by simp⟩
  | drain draining _ moved => exact custody_drain holds draining moved
  | finish draining empty =>
      exact ⟨kept, holds.held, holds.produced, holds.received, holds.established,
        fun _ => holds.joined (Or.inl draining), fun _ => empty⟩

theorem custody_initial (config : Config) (sessions workers : Nat) :
    Custody config (systemMachine config capacity sessions workers).initial := by
  have nothingHeld := tally_replicate_zero WorkerPc.inHand .check rfl workers
  have nothingUnderway := tally_replicate_zero WorkerPc.underway .check rfl workers
  have nothingPopped := tally_replicate_zero (indicator WorkerPc.isPopped) .check rfl workers
  refine ⟨⟨rfl, ?_, ?_, ?_⟩, ?_, ?_, ?_, ?_, ?_, ?_⟩
  · simp [systemMachine, Shared.initial, passedOn, messages]
  · simp [systemMachine, Shared.initial]
  · simp [systemMachine, Shared.initial]
  · simp [systemMachine, Shared.initial, messages, nothingHeld]
  · simp [systemMachine, Shared.initial, calls, passedOn, messages, nothingUnderway]
  · simp [systemMachine, Shared.initial, nothingPopped]
  · intro pc member
    rw [List.eq_of_mem_replicate member]
    trivial
  · simp [systemMachine]
  · simp [systemMachine]

theorem systemMachine_custody {config : Config} {sessions workers : Nat}
    {system : System capacity}
    (reachable : (systemMachine config capacity sessions workers).Reachable system) :
    Custody config system :=
  systemMachine_invariant (Custody config) (custody_initial config sessions workers)
    (fun _ _ holds moved => custody_step holds moved) reachable

theorem accepted_nodup {config : Config} {shared : Shared capacity}
    (holds : SharedCustody config shared) : shared.accepted.Nodup := by
  refine List.Nodup.of_map Message.serial ?_
  rw [holds.serials]
  exact List.nodup_range

/-- Once `stop()` has returned, every accepted event, each of them distinct, has
been through exactly one iteration with the outcome it deserves, and the counters
and the back-end calls agree with that. -/
theorem stop_processes_exactlyOnce (config : Config) (sessions workers : Nat)
    {system : System capacity}
    (reachable : (systemMachine config capacity sessions workers).Reachable system)
    (returned : system.stop = .returned) :
    system.shared.queue.items = [] ∧
    system.shared.accepted.Nodup ∧
    (messages system.shared.finished).Perm system.shared.accepted ∧
    (∀ processed ∈ system.shared.finished, processed.Justified config) ∧
    system.shared.metrics.totalReceived = system.shared.accepted.length ∧
    system.shared.metrics.totalReceived =
      system.shared.metrics.totalParsed + system.shared.metrics.totalParseFail ∧
    system.shared.metrics.totalParsed =
      system.shared.metrics.totalValid + system.shared.metrics.totalInvalid ∧
    (calls system.shared.produced).Perm (passedOn system.shared.finished) ∧
    (∀ call ∈ system.shared.produced, call.Keyed config) ∧
    system.shared.saved = (if config.storage then passedOn system.shared.finished else []) := by
  have holds := systemMachine_custody reachable
  have balance := systemMachine_conservation reachable
  have empty := holds.drained returned
  have exited := holds.joined (Or.inr returned)
  have allTaken : system.shared.taken = system.shared.accepted := by
    rw [← systemMachine_fifo reachable, empty, List.append_nil]
  have idle {Amount : Type} [AddCommMonoid Amount] {weight : WorkerPc → Amount}
      (none : weight .exited = 0) : tally weight system.workers = 0 :=
    tally_eq_zero fun pc member => by rw [exited pc member, none]
  have nobody (place : WorkerPc → Bool) (outside : place .exited = false) :
      system.workers.countP place = 0 := by
    rw [countP_eq_tally]
    exact idle (by simp [indicator, outside])
  have held := holds.held
  have produced := holds.produced
  have received := holds.received
  rw [idle rfl, add_zero] at held produced received
  have parsing := balance.received
  have validating := balance.parsed
  rw [nobody _ rfl, Nat.add_zero] at parsing validating
  refine ⟨empty, accepted_nodup holds.shared, ?_, holds.shared.justified, ?_, parsing, validating,
    bag_eq_bag.mp produced, holds.shared.keyed, holds.shared.saved⟩
  · rw [← allTaken]
    exact bag_eq_bag.mp held.symm
  · rw [← received, allTaken]

/-- The worker has passed the first event on when it sees that `running_` is false, and the
drain loop the second. -/
def stopMidway : System 2 :=
  let first : Message := ⟨0, 0, encodeEvent (eventOf [7])⟩
  let second : Message := ⟨0, 1, encodeEvent (eventOf [8])⟩
  { shared :=
      { queue := .empty Message 2
        metrics := { totalReceived := 2, totalParsed := 2, totalValid := 2 }
        running := false
        accepted := [first, second]
        taken := [first, second]
        asked := []
        produced := [⟨[117], first⟩, ⟨[117], second⟩]
        saved := [first, second]
        finished := [⟨first, .passed, .worker 0⟩, ⟨second, .passed, .drain⟩] }
    sessions := [.reading]
    workers := [.exited]
    stop := .returned
    completed := 2 }

theorem stop_processes_exactlyOnce_midway :
    stopMidway.shared.queue.items = [] ∧
    (messages stopMidway.shared.finished).Perm stopMidway.shared.accepted ∧
    stopMidway.shared.metrics.totalReceived = stopMidway.shared.accepted.length ∧
    stopMidway.shared.saved = passedOn stopMidway.shared.finished := by
  have reachable : (systemMachine ⟨sampleParse, none, true⟩ 2 1 1).Reachable stopMidway :=
    ⟨[.offer 0 (encodeEvent (eventOf [7])), .offer 0 (encodeEvent (eventOf [8])),
      .worker 0 ⟨1, .error⟩, .worker 0 ⟨1, .error⟩, .callStop] ++
      List.replicate 7 (.worker 0 ⟨1, .error⟩) ++ [.join, .drain 1, .drain 1], by decide⟩
  obtain ⟨empty, -, once, -, received, -, -, -, -, saved⟩ :=
    stop_processes_exactlyOnce _ 1 1 reachable rfl
  exact ⟨empty, once, received, saved⟩

end EventCollector
