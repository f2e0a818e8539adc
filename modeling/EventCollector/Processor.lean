import EventCollector.Lib.Ledger
import EventCollector.ProcessorCore
import EventCollector.Queue

/-!
What one step of the pipeline can do, branch by branch. Every invariant of the
pipeline is a case analysis over these relations and unfolds no step function.
-/

namespace EventCollector

open ThreadSafeQueue

variable {capacity : Nat}

@[simp] theorem finish_metrics (shared : Shared capacity) (message : Message)
    (outcome : Outcome) (handler : Handler) :
    (shared.finish message outcome handler).metrics = shared.metrics := rfl

@[simp] theorem finish_queue (shared : Shared capacity) (message : Message)
    (outcome : Outcome) (handler : Handler) :
    (shared.finish message outcome handler).queue = shared.queue := rfl

@[simp] theorem finish_running (shared : Shared capacity) (message : Message)
    (outcome : Outcome) (handler : Handler) :
    (shared.finish message outcome handler).running = shared.running := rfl

@[simp] theorem finish_accepted (shared : Shared capacity) (message : Message)
    (outcome : Outcome) (handler : Handler) :
    (shared.finish message outcome handler).accepted = shared.accepted := rfl

@[simp] theorem finish_taken (shared : Shared capacity) (message : Message)
    (outcome : Outcome) (handler : Handler) :
    (shared.finish message outcome handler).taken = shared.taken := rfl

@[simp] theorem finish_asked (shared : Shared capacity) (message : Message)
    (outcome : Outcome) (handler : Handler) :
    (shared.finish message outcome handler).asked = shared.asked := rfl

@[simp] theorem finish_produced (shared : Shared capacity) (message : Message)
    (outcome : Outcome) (handler : Handler) :
    (shared.finish message outcome handler).produced = shared.produced := rfl

@[simp] theorem finish_saved (shared : Shared capacity) (message : Message)
    (outcome : Outcome) (handler : Handler) :
    (shared.finish message outcome handler).saved = shared.saved := rfl

@[simp] theorem finish_finished (shared : Shared capacity) (message : Message)
    (outcome : Outcome) (handler : Handler) :
    (shared.finish message outcome handler).finished =
      shared.finished ++ [⟨message, outcome, handler⟩] := rfl

theorem save_eq (config : Config) (shared : Shared capacity) (message : Message) :
    shared.save config message = { shared with
      saved := if config.storage then shared.saved ++ [message] else shared.saved } := by
  unfold Shared.save
  split <;> rfl

inductive WorkerMove (config : Config) (index : Nat) (input : Input) (shared : Shared capacity) :
    WorkerPc → Shared capacity → WorkerPc → Prop
  | enter : shared.running = true → WorkerMove config index input shared .check shared .popping
  | leave : shared.running = false → WorkerMove config index input shared .check shared .exited
  | gaveUp : shared.queue.items = [] →
      WorkerMove config index input shared .popping shared .check
  | pop {message : Message} {queue : ThreadSafeQueue Message capacity} :
      shared.queue.items = message :: queue.items →
      WorkerMove config index input shared .popping
        { shared with queue := queue, taken := shared.taken ++ [message] } (.popped message)
  | receive {message : Message} :
      WorkerMove config index input shared (.popped message)
        { shared with metrics.totalReceived := shared.metrics.totalReceived + 1 }
        (.received message)
  | parseFail {message : Message} : config.parse message.data = none →
      WorkerMove config index input shared (.received message)
        ({ shared with metrics.totalParseFail := shared.metrics.totalParseFail + 1 }.finish
          message .parseFail (.worker index)) .check
  | parse {message : Message} {evt : Event} : config.parse message.data = some evt →
      WorkerMove config index input shared (.received message)
        { shared with metrics.totalParsed := shared.metrics.totalParsed + 1 }
        (.parsed message evt)
  | reject {message : Message} {evt : Event} : validateEvent input.clock evt = false →
      WorkerMove config index input shared (.parsed message evt)
        ({ shared with metrics.totalInvalid := shared.metrics.totalInvalid + 1 }.finish
          message .invalid (.worker index)) .check
  | validate {message : Message} {evt : Event} : validateEvent input.clock evt = true →
      WorkerMove config index input shared (.parsed message evt)
        { shared with metrics.totalValid := shared.metrics.totalValid + 1 }
        (.valid message evt)
  | unlimited {message : Message} {evt : Event} : config.rateLimit = none →
      WorkerMove config index input shared (.valid message evt) shared (.allowed message evt)
  | allow {message : Message} {evt : Event} {limit : UInt64} : config.rateLimit = some limit →
      allow limit input.reply = true →
      WorkerMove config index input shared (.valid message evt)
        { shared with asked := shared.asked ++ [evt.userId] } (.allowed message evt)
  | limit {message : Message} {evt : Event} {limit : UInt64} : config.rateLimit = some limit →
      EventCollector.allow limit input.reply = false →
      WorkerMove config index input shared (.valid message evt)
        { shared with asked := shared.asked ++ [evt.userId] } (.limited message evt)
  | rateLimited {message : Message} {evt : Event} :
      WorkerMove config index input shared (.limited message evt)
        ({ shared with metrics.totalRateLimited := shared.metrics.totalRateLimited + 1 }.finish
          message .rateLimited (.worker index)) .check
  | produce {message : Message} {evt : Event} :
      WorkerMove config index input shared (.allowed message evt)
        (shared.produceToKafka evt.userId message) (.produced message evt)
  | save {message : Message} {evt : Event} :
      WorkerMove config index input shared (.produced message evt)
        ((shared.save config message).finish message .passed (.worker index)) .check

theorem workerStep_move {config : Config} {index : Nat} {input : Input}
    {before after : Shared capacity} {old new : WorkerPc}
    (stepped : workerStep config index input before old = some (after, new)) :
    WorkerMove config index input before old after new := by
  cases old with
  | check =>
      simp only [workerStep, Option.some.injEq, Prod.mk.injEq] at stepped
      obtain ⟨rfl, rfl⟩ := stepped
      cases running : before.running with
      | true => exact .enter running
      | false => exact .leave running
  | popping =>
      simp only [workerStep] at stepped
      split at stepped
      · rename_i popped
        simp only [Option.some.injEq, Prod.mk.injEq] at stepped
        obtain ⟨rfl, rfl⟩ := stepped
        exact .gaveUp (tryPop_none.mp popped)
      · rename_i message queue popped
        simp only [Option.some.injEq, Prod.mk.injEq] at stepped
        obtain ⟨rfl, rfl⟩ := stepped
        exact .pop (tryPop_some.mp popped)
  | popped message =>
      simp only [workerStep, Option.some.injEq, Prod.mk.injEq] at stepped
      obtain ⟨rfl, rfl⟩ := stepped
      exact .receive
  | received message =>
      simp only [workerStep] at stepped
      split at stepped
      · rename_i failed
        simp only [Option.some.injEq, Prod.mk.injEq] at stepped
        obtain ⟨rfl, rfl⟩ := stepped
        exact .parseFail failed
      · rename_i evt parsed
        simp only [Option.some.injEq, Prod.mk.injEq] at stepped
        obtain ⟨rfl, rfl⟩ := stepped
        exact .parse parsed
  | parsed message evt =>
      simp only [workerStep] at stepped
      split at stepped
      · rename_i rejected
        simp only [Option.some.injEq, Prod.mk.injEq] at stepped
        obtain ⟨rfl, rfl⟩ := stepped
        exact .reject (by simpa using rejected)
      · rename_i accepted
        simp only [Option.some.injEq, Prod.mk.injEq] at stepped
        obtain ⟨rfl, rfl⟩ := stepped
        exact .validate (by simpa using accepted)
  | valid message evt =>
      simp only [workerStep] at stepped
      split at stepped
      · rename_i disabled
        simp only [Option.some.injEq, Prod.mk.injEq] at stepped
        obtain ⟨rfl, rfl⟩ := stepped
        exact .unlimited disabled
      · rename_i limit enabled
        simp only [Option.some.injEq, Prod.mk.injEq] at stepped
        obtain ⟨rfl, rfl⟩ := stepped
        cases answer : allow limit input.reply with
        | true => exact .allow enabled answer
        | false => exact .limit enabled answer
  | limited message evt =>
      simp only [workerStep, Option.some.injEq, Prod.mk.injEq] at stepped
      obtain ⟨rfl, rfl⟩ := stepped
      exact .rateLimited
  | allowed message evt =>
      simp only [workerStep, Option.some.injEq, Prod.mk.injEq] at stepped
      obtain ⟨rfl, rfl⟩ := stepped
      exact .produce
  | produced message evt =>
      simp only [workerStep, Option.some.injEq, Prod.mk.injEq] at stepped
      obtain ⟨rfl, rfl⟩ := stepped
      exact .save
  | exited => simp [workerStep] at stepped

inductive DrainMove (config : Config) (clock : Int) (message : Message)
    (shared : Shared capacity) : Shared capacity → Prop
  | parseFail : config.parse message.data = none →
      DrainMove config clock message shared
        ({ shared with
          metrics.totalReceived := shared.metrics.totalReceived + 1
          metrics.totalParseFail := shared.metrics.totalParseFail + 1 }.finish
            message .parseFail .drain)
  | reject {evt : Event} : config.parse message.data = some evt →
      validateEvent clock evt = false →
      DrainMove config clock message shared
        ({ shared with
          metrics.totalReceived := shared.metrics.totalReceived + 1
          metrics.totalParsed := shared.metrics.totalParsed + 1
          metrics.totalInvalid := shared.metrics.totalInvalid + 1 }.finish
            message .invalid .drain)
  | pass {evt : Event} : config.parse message.data = some evt →
      validateEvent clock evt = true →
      DrainMove config clock message shared
        (((({ shared with
          metrics.totalReceived := shared.metrics.totalReceived + 1
          metrics.totalParsed := shared.metrics.totalParsed + 1
          metrics.totalValid := shared.metrics.totalValid + 1 } :
            Shared capacity).produceToKafka evt.userId message).save config message).finish
              message .passed .drain)

theorem drainBody_move (config : Config) (clock : Int) (message : Message)
    (shared : Shared capacity) :
    DrainMove config clock message shared (drainBody config clock message shared) := by
  simp only [drainBody]
  split
  · rename_i evt parsed
    split
    · rename_i accepted
      exact .pass parsed accepted
    · rename_i rejected
      exact .reject parsed (by simpa using rejected)
  · rename_i failed
    exact .parseFail failed

theorem drainStep_none {config : Config} {clock : Int} {shared : Shared capacity}
    (ended : drainStep config clock shared = none) : shared.queue.items = [] := by
  simp only [drainStep] at ended
  split at ended
  · rename_i popped
    exact tryPop_none.mp popped
  · simp at ended

theorem drainStep_some {config : Config} {clock : Int} {before after : Shared capacity}
    (drained : drainStep config clock before = some after) :
    ∃ message, ∃ queue : ThreadSafeQueue Message capacity,
      before.queue.items = message :: queue.items ∧
      DrainMove config clock message
        { before with queue := queue, taken := before.taken ++ [message] } after := by
  simp only [drainStep] at drained
  split at drained
  · simp at drained
  · rename_i message queue popped
    simp only [Option.some.injEq] at drained
    exact ⟨message, queue, tryPop_some.mp popped, drained ▸ drainBody_move _ _ _ _⟩

inductive SystemMove (config : Config) (system : System capacity) : System capacity → Prop
  | accept {session : Nat} {data : Bytes} {queue : ThreadSafeQueue Message capacity} :
      system.stop = .notCalled → system.sessions[session]? = some .reading →
      queue.items =
        system.shared.queue.items ++ [⟨session, system.shared.accepted.length, data⟩] →
      SystemMove config system { system with
        shared.queue := queue
        shared.accepted :=
          system.shared.accepted ++ [⟨session, system.shared.accepted.length, data⟩]
        completed := system.completed + 1 }
  | refuse {session : Nat} : system.stop = .notCalled →
      system.sessions[session]? = some .reading →
      system.shared.queue.items.length = capacity →
      SystemMove config system { system with
        sessions := system.sessions.set session .dropping
        completed := system.completed + 1 }
  | drop {session : Nat} : system.sessions[session]? = some .dropping →
      SystemMove config system { system with
        shared.metrics.totalQueueDrop := system.shared.metrics.totalQueueDrop + 1
        sessions := system.sessions.set session .reading }
  | worker {index : Nat} {input : Input} {shared : Shared capacity} {old new : WorkerPc} :
      system.workers[index]? = some old →
      WorkerMove config index input system.shared old shared new →
      SystemMove config system { system with
        shared := shared
        workers := system.workers.set index new }
  | callStop : system.stop = .notCalled → .dropping ∉ system.sessions →
      SystemMove config system { system with shared.running := false, stop := .joining }
  | join : system.stop = .joining → (∀ pc ∈ system.workers, pc = .exited) →
      SystemMove config system { system with stop := .draining }
  | drain {clock : Int} {message : Message} {queue : ThreadSafeQueue Message capacity}
      {shared : Shared capacity} : system.stop = .draining →
      system.shared.queue.items = message :: queue.items →
      DrainMove config clock message { system.shared with
        queue := queue, taken := system.shared.taken ++ [message] } shared →
      SystemMove config system { system with shared := shared }
  | finish : system.stop = .draining → system.shared.queue.items = [] →
      SystemMove config system { system with stop := .returned }

theorem offer_full (system : System capacity) {session : Nat} {data : Bytes}
    (notCalled : system.stop = .notCalled) (reading : system.sessions[session]? = some .reading)
    (full : system.shared.queue.tryPush ⟨session, system.shared.accepted.length, data⟩ =
      (false, system.shared.queue)) :
    system.offer session data = some { system with
      sessions := system.sessions.set session .dropping
      completed := system.completed + 1 } := by
  simp only [System.offer, tryPushMove, full]
  exact if_pos ⟨notCalled, reading⟩

theorem offer_pushed (system : System capacity) {session : Nat} {data : Bytes}
    {queue : ThreadSafeQueue Message capacity}
    (notCalled : system.stop = .notCalled) (reading : system.sessions[session]? = some .reading)
    (pushed : system.shared.queue.tryPush ⟨session, system.shared.accepted.length, data⟩ =
      (true, queue)) :
    system.offer session data = some { system with
      shared.queue := queue
      shared.accepted :=
        system.shared.accepted ++ [⟨session, system.shared.accepted.length, data⟩]
      completed := system.completed + 1 } := by
  simp only [System.offer, tryPushMove, pushed]
  exact if_pos ⟨notCalled, reading⟩

theorem offer_cases {system next : System capacity} {session : Nat} {data : Bytes}
    (offered : system.offer session data = some next) :
    (system.stop = .notCalled ∧ system.sessions[session]? = some .reading) ∧
    ((system.shared.queue.items.length = capacity ∧ next = { system with
        sessions := system.sessions.set session .dropping
        completed := system.completed + 1 }) ∨
      ∃ queue : ThreadSafeQueue Message capacity,
        queue.items = system.shared.queue.items ++
          [⟨session, system.shared.accepted.length, data⟩] ∧
        next = { system with
          shared.queue := queue
          shared.accepted :=
            system.shared.accepted ++ [⟨session, system.shared.accepted.length, data⟩]
          completed := system.completed + 1 }) := by
  have allowed : system.stop = .notCalled ∧ system.sessions[session]? = some .reading := by
    simp only [System.offer, Option.ite_none_right_eq_some] at offered
    exact offered.1
  refine ⟨allowed, ?_⟩
  rcases tryPush_cases system.shared.queue ⟨session, system.shared.accepted.length, data⟩ with
    ⟨full, refused⟩ | ⟨_, queue, grown, taken⟩
  · rw [offer_full system allowed.1 allowed.2 refused] at offered
    exact Or.inl ⟨full, (Option.some.inj offered).symm⟩
  · rw [offer_pushed system allowed.1 allowed.2 taken] at offered
    exact Or.inr ⟨queue, grown, (Option.some.inj offered).symm⟩

theorem systemStep_move {config : Config} {system next : System capacity} {label : SystemLabel}
    (stepped : System.step config system label = some next) : SystemMove config system next := by
  cases label with
  | offer session data =>
      obtain ⟨⟨notCalled, reading⟩, ⟨full, rfl⟩ | ⟨queue, grown, rfl⟩⟩ := offer_cases stepped
      · exact .refuse notCalled reading full
      · exact .accept notCalled reading grown
  | drop session =>
      simp only [System.step, System.drop, Option.ite_none_right_eq_some,
        Option.some.injEq] at stepped
      obtain ⟨dropping, rfl⟩ := stepped
      exact .drop dropping
  | worker index input =>
      simp only [System.step, Option.bind_eq_some_iff, Option.map_eq_some_iff] at stepped
      obtain ⟨old, found, ⟨shared, new⟩, moved, rfl⟩ := stepped
      exact .worker found (workerStep_move moved)
  | callStop =>
      simp only [System.step, Option.ite_none_right_eq_some, Option.some.injEq] at stepped
      obtain ⟨⟨notCalled, settled⟩, rfl⟩ := stepped
      exact .callStop notCalled settled
  | join =>
      simp only [System.step, Option.ite_none_right_eq_some, Option.some.injEq] at stepped
      obtain ⟨⟨joining, exited⟩, rfl⟩ := stepped
      exact .join joining exited
  | drain clock =>
      simp only [System.step, Option.ite_none_right_eq_some] at stepped
      obtain ⟨draining, stepped⟩ := stepped
      split at stepped
      · rename_i shared drained
        obtain ⟨message, queue, front, moved⟩ := drainStep_some drained
        simp only [Option.some.injEq] at stepped
        subst next
        exact .drain draining front moved
      · rename_i ended
        simp only [Option.some.injEq] at stepped
        subst next
        exact .finish draining (drainStep_none ended)

theorem systemMachine_invariant {config : Config} {sessions workers : Nat}
    (invariant : System capacity → Prop)
    (initially : invariant (systemMachine config capacity sessions workers).initial)
    (preserved : ∀ system next, invariant system → SystemMove config system next →
      invariant next)
    {system : System capacity}
    (reachable : (systemMachine config capacity sessions workers).Reachable system) :
    invariant system :=
  Machine.reachable_invariant invariant initially
    (fun before _ after holds stepped => preserved before after holds (systemStep_move stepped))
    reachable

/-! The pipeline uses the queue through atomic pushes and pops only, so what is
known of the atomic queue holds of its queue. -/

def Shared.view (shared : Shared capacity) : AtomicQueue Message capacity :=
  ⟨shared.queue, shared.accepted, shared.taken⟩

theorem atomic_pop {shared : Shared capacity} {message : Message}
    {queue : ThreadSafeQueue Message capacity} (front : shared.queue.items = message :: queue.items) :
    shared.view.step .pop = ⟨queue, shared.accepted, shared.taken ++ [message]⟩ := by
  simp only [Shared.view, AtomicQueue.step, tryPop_some.mpr front]

theorem workerMove_view {config : Config} {index : Nat} {input : Input}
    {before after : Shared capacity} {old new : WorkerPc}
    (moved : WorkerMove config index input before old after new) :
    after.view = before.view ∨ after.view = before.view.step .pop := by
  cases moved with
  | pop front => exact Or.inr (atomic_pop front).symm
  | save => exact Or.inl (by simp [Shared.view, save_eq])
  | _ => exact Or.inl rfl

theorem drainMove_view {config : Config} {clock : Int} {message : Message}
    {before after : Shared capacity} (moved : DrainMove config clock message before after) :
    after.view = before.view := by
  cases moved with
  | parseFail _ => rfl
  | reject _ _ => rfl
  | pass _ _ => simp [Shared.view, save_eq, Shared.produceToKafka]

theorem systemMove_view {config : Config} {system next : System capacity}
    (moved : SystemMove config system next) :
    next.shared.view = system.shared.view ∨
      ∃ action, next.shared.view = system.shared.view.step action := by
  cases moved with
  | @accept session data queue _ _ grown =>
      refine Or.inr ⟨.push ⟨session, system.shared.accepted.length, data⟩, ?_⟩
      have room : ¬ system.shared.queue.items.length ≥ capacity := by
        have bounded := queue.bounded
        rw [grown, List.length_append, List.length_singleton] at bounded
        omega
      cases queue
      subst grown
      simp [Shared.view, AtomicQueue.step, tryPush, room]
  | refuse _ _ _ => exact Or.inl rfl
  | drop _ => exact Or.inl rfl
  | worker _ moved =>
      rcases workerMove_view moved with same | popped
      · exact Or.inl same
      · exact Or.inr ⟨.pop, popped⟩
  | callStop _ _ => exact Or.inl rfl
  | join _ _ => exact Or.inl rfl
  | drain _ front moved =>
      exact Or.inr ⟨.pop, (drainMove_view moved).trans (atomic_pop front).symm⟩
  | finish _ _ => exact Or.inl rfl

theorem systemMachine_view {config : Config} {sessions workers : Nat} {system : System capacity}
    (reachable : (systemMachine config capacity sessions workers).Reachable system) :
    (atomicMachine Message capacity).Reachable system.shared.view := by
  refine systemMachine_invariant
    (fun system => (atomicMachine Message capacity).Reachable system.shared.view) ?_ ?_ reachable
  · exact Machine.Reachable.start (atomicMachine Message capacity)
  · intro before after holds moved
    rcases systemMove_view moved with same | ⟨action, stepped⟩
    · exact same ▸ holds
    · exact stepped ▸ holds.step (show (atomicMachine Message capacity).step _ action = _ from rfl)

theorem systemMachine_fifo {config : Config} {sessions workers : Nat} {system : System capacity}
    (reachable : (systemMachine config capacity sessions workers).Reachable system) :
    system.shared.taken ++ system.shared.queue.items = system.shared.accepted :=
  atomicMachine_ordered system.shared.view (systemMachine_view reachable)

end EventCollector
