import EventCollector.ProgramCore
import EventCollector.Service
import EventCollector.Scrapes

/-!
The whole program seen from the models of its parts. The io_context runs as it does alone,
and the process as it does in front of connections that are all there from the start: a
session that is still to be constructed is one that has not been sent anything yet.
-/

namespace EventCollector

variable {capacity : Nat}

/-! A place that no session has yet changes nothing. -/

@[simp] theorem System.seat_zero (system : System capacity) : system.seat 0 = system := by
  simp [System.seat]

theorem System.seat_seat (first second : Nat) (system : System capacity) :
    (system.seat first).seat second = system.seat (first + second) := by
  simp [System.seat, List.append_assoc]

@[simp] theorem Process.seat_zero (process : Process capacity) : process.seat 0 = process := by
  simp [Process.seat]

theorem Process.seat_seat (first second : Nat) (process : Process capacity) :
    (process.seat first).seat second = process.seat (first + second) := by
  simp only [Process.seat, System.seat_seat]

theorem offer_seat (count : Nat) {system next : System capacity} {session : Nat} {data : Bytes}
    (offered : system.offer session data = some next) :
    (system.seat count).offer session data = some (next.seat count) := by
  obtain ⟨⟨notCalled, reading⟩, -⟩ := offer_cases offered
  obtain ⟨bound, -⟩ := List.getElem?_eq_some_iff.mp reading
  have seated : (system.seat count).sessions[session]? = some .reading :=
    (List.getElem?_append_left bound).trans reading
  rcases ThreadSafeQueue.tryPush_cases system.shared.queue
    ⟨session, system.shared.accepted.length, data⟩ with ⟨-, full⟩ | ⟨-, queue, -, pushed⟩
  · rw [offer_full system notCalled reading full] at offered
    obtain rfl := Option.some.inj offered
    rw [offer_full (system.seat count) notCalled seated full]
    simp only [System.seat, List.set_append_left _ _ bound]
  · rw [offer_pushed system notCalled reading pushed] at offered
    obtain rfl := Option.some.inj offered
    exact offer_pushed (system.seat count) notCalled seated pushed

theorem drop_seat (count : Nat) {system next : System capacity} {session : Nat}
    (dropped : system.drop session = some next) :
    (system.seat count).drop session = some (next.seat count) := by
  simp only [System.drop, Option.ite_none_right_eq_some, Option.some.injEq] at dropped
  obtain ⟨dropping, rfl⟩ := dropped
  obtain ⟨bound, -⟩ := List.getElem?_eq_some_iff.mp dropping
  have seated : (system.seat count).sessions[session]? = some .dropping :=
    (List.getElem?_append_left bound).trans dropping
  simp only [System.drop]
  rw [if_pos seated]
  simp only [System.seat, List.set_append_left _ _ bound]

theorem offerBodies_seat (count : Nat) {system next : System capacity} {index : Nat}
    {actions : List SessionAction} (offered : offerBodies index system actions = some next) :
    offerBodies index (system.seat count) actions = some (next.seat count) := by
  unfold offerBodies at offered ⊢
  split at offered
  · obtain ⟨after, took, agrees⟩ := Option.bind_eq_some_iff.mp offered
    simp only [Option.ite_none_right_eq_some, Option.some.injEq] at agrees
    obtain ⟨agrees, rfl⟩ := agrees
    have bound : index < after.sessions.length := by
      obtain ⟨⟨-, reading⟩, ⟨-, rfl⟩ | ⟨queue, -, rfl⟩⟩ := offer_cases took
      · simpa using (List.getElem?_eq_some_iff.mp reading).1
      · exact (List.getElem?_eq_some_iff.mp reading).1
    have same : (after.seat count).sessions[index]? = after.sessions[index]? :=
      List.getElem?_append_left bound
    simp only [offer_seat count took, Option.bind_some, same]
    rw [if_pos agrees]
  · obtain rfl := Option.some.inj offered
    rfl

section

variable {parse : Bytes → Option Event} {deployment : Deployment}

theorem threadStep_seat (count : Nat) {process next : Process capacity} {clock : Int}
    {label : PipelineLabel}
    (stepped : process.step parse deployment (.thread clock label) = some next) :
    (process.seat count).step parse deployment (.thread clock label) =
      some (next.seat count) := by
  simp only [Process.step, Option.ite_none_right_eq_some, Option.map_eq_some_iff] at stepped
  obtain ⟨allowed, pipeline, moved, rfl⟩ := stepped
  have same : (process.seat count).pipeline.step parse deployment clock label =
      some { pipeline with system := pipeline.system.seat count } := by
    cases label with
    | offer session data =>
        obtain ⟨system, offered, rfl⟩ := Option.map_eq_some_iff.mp moved
        exact Option.map_eq_some_iff.mpr ⟨_, offer_seat count offered, rfl⟩
    | drop session =>
        obtain ⟨system, dropped, rfl⟩ := Option.map_eq_some_iff.mp moved
        exact Option.map_eq_some_iff.mpr ⟨_, drop_seat count dropped, rfl⟩
    | worker index outcome =>
        simp only [Pipeline.step, Pipeline.worker, Option.ite_none_right_eq_some,
          Option.bind_eq_some_iff, Option.map_eq_some_iff] at moved
        obtain ⟨returned, pc, found, system, ran, kafka, called, storage, saved, rfl⟩ := moved
        simp only [System.step, Option.bind_eq_some_iff, Option.map_eq_some_iff] at ran
        obtain ⟨pc', found', ⟨shared, new⟩, worked, rfl⟩ := ran
        simp only [Pipeline.step, Pipeline.worker, Option.ite_none_right_eq_some,
          Option.bind_eq_some_iff, Option.map_eq_some_iff]
        refine ⟨returned, pc, found, _, ?_, kafka, called, storage, saved, rfl⟩
        simp only [System.step, Option.bind_eq_some_iff, Option.map_eq_some_iff]
        exact ⟨pc', found', (shared, new), worked, rfl⟩
    | kafka label =>
        cases label with
        | call worker key data => simp [Pipeline.step] at moved
        | _ =>
            obtain ⟨kafka, served, rfl⟩ := Option.map_eq_some_iff.mp moved
            exact Option.map_eq_some_iff.mpr ⟨kafka, served, rfl⟩
    | storage thread outcome =>
        obtain ⟨storage, advanced, rfl⟩ := Option.map_eq_some_iff.mp moved
        exact Option.map_eq_some_iff.mpr ⟨storage, advanced, rfl⟩
  simp only [Process.step, Option.ite_none_right_eq_some, Option.map_eq_some_iff]
  exact ⟨allowed, _, same, rfl⟩

/-! One step of the program. -/

theorem programIo_cases {program next : Program capacity} {label : ServerLabel}
    (stepped : program.io label = some next) : program.process.main = .serving ∧
    ∃ server system requests, program.server.step label = some server ∧
      program.offered label = some system ∧
      program.requested server label = some requests ∧
      next = ⟨server, requests,
        Process.seat (server.sessions.length - program.server.sessions.length)
          ⟨{ program.process.pipeline with system := system }, .serving⟩⟩ := by
  simp only [Program.io, Option.ite_none_right_eq_some, Option.bind_eq_some_iff,
    Option.map_eq_some_iff] at stepped
  obtain ⟨serving, server, moved, system, offered, requests, requested, rfl⟩ := stepped
  exact ⟨serving, server, system, requests, moved, offered, requested, rfl⟩

theorem programLoad_cases {program next : Program capacity} {index : Nat}
    (stepped : program.step parse deployment (.load index) = some next) :
    program.process.main = .serving ∧ ∃ old new, program.requests[index]? = some old ∧
      old.load program.process.pipeline.metrics = some new ∧
      next = { program with requests := program.requests.set index new } := by
  simp only [Program.step, Option.ite_none_right_eq_some, Option.bind_eq_some_iff,
    Option.map_eq_some_iff] at stepped
  obtain ⟨serving, old, found, new, loaded, rfl⟩ := stepped
  exact ⟨serving, old, new, found, loaded, rfl⟩

theorem programProcess_cases {program next : Program capacity} {label : ProcessLabel}
    (stepped : program.step parse deployment (.process label) = some next) :
    (∀ clock session data, label ≠ .thread clock (.offer session data)) ∧
    ¬ (program.process.main = .serving ∧ label.isMain = true ∧ ¬ Quiescent program.server) ∧
    ∃ process, program.process.step parse deployment label = some process ∧
      next = { program with process := process } := by
  have moved (silent : ∀ clock session data, label ≠ .thread clock (.offer session data))
      (same : program.step parse deployment (.process label) =
        if program.process.main = .serving ∧ label.isMain = true ∧ ¬ Quiescent program.server then
          none
        else
          (program.process.step parse deployment label).map fun process =>
            { program with process := process }) :
      (∀ clock session data, label ≠ .thread clock (.offer session data)) ∧
      ¬ (program.process.main = .serving ∧ label.isMain = true ∧ ¬ Quiescent program.server) ∧
      ∃ process, program.process.step parse deployment label = some process ∧
        next = { program with process := process } := by
    rw [same, Option.ite_none_left_eq_some] at stepped
    obtain ⟨passed, stepped⟩ := stepped
    obtain ⟨process, ran, rfl⟩ := Option.map_eq_some_iff.mp stepped
    exact ⟨silent, passed, process, ran, rfl⟩
  cases label with
  | main input => exact moved (by simp) rfl
  | thread clock label =>
      cases label with
      | offer session data => simp [Program.step] at stepped
      | _ => exact moved (by simp) rfl

/-! The io_context runs as it does alone, and so `main` never comes past the join. -/

variable {redis : CounterStore Bytes} {workers : Nat}

def ProgramLabel.server : ProgramLabel → List ServerLabel
  | .io label => [label]
  | _ => []

def programServer : Refinement (programMachine parse deployment redis capacity workers)
    serverMachine where
  view := Program.server
  actions _ := ProgramLabel.server
  initial := rfl
  simulates program label next stepped := by
    change program.step parse deployment label = some next at stepped
    cases label with
    | io label =>
        obtain ⟨-, server, system, requests, moved, -, -, rfl⟩ := programIo_cases stepped
        exact Machine.run_cons_some.mpr ⟨server, moved, rfl⟩
    | load index =>
        obtain ⟨-, old, new, -, -, rfl⟩ := programLoad_cases stepped
        rfl
    | process label =>
        obtain ⟨-, -, process, -, rfl⟩ := programProcess_cases stepped
        rfl

theorem thread_of_serving {program next : Program capacity} {label : ProcessLabel}
    (reachable : serverMachine.Reachable program.server)
    (serving : program.process.main = .serving)
    (stepped : program.step parse deployment (.process label) = some next) :
    ∃ clock own, label = .thread clock own := by
  cases label with
  | thread clock own => exact ⟨clock, own, rfl⟩
  | main input =>
      obtain ⟨-, passed, -⟩ := programProcess_cases stepped
      exact absurd ⟨serving, rfl, not_quiescent reachable⟩ passed

theorem serving_step {program next : Program capacity} {label : ProgramLabel}
    (reachable : serverMachine.Reachable program.server)
    (serving : program.process.main = .serving)
    (stepped : program.step parse deployment label = some next) :
    next.process.main = .serving := by
  cases label with
  | io label =>
      obtain ⟨-, server, system, requests, -, -, -, rfl⟩ := programIo_cases stepped
      rfl
  | load index =>
      obtain ⟨-, old, new, -, -, rfl⟩ := programLoad_cases stepped
      exact serving
  | process label =>
      obtain ⟨clock, own, rfl⟩ := thread_of_serving reachable serving stepped
      obtain ⟨-, -, process, ran, rfl⟩ := programProcess_cases stepped
      cases processStep_move ran with
      | thread _ _ => exact serving

theorem program_serving {program : Program capacity}
    (reachable : (programMachine parse deployment redis capacity workers).Reachable program) :
    serverMachine.Reachable program.server ∧ program.process.main = .serving := by
  refine Machine.reachable_invariant
    (fun program => serverMachine.Reachable program.server ∧ program.process.main = .serving)
    ⟨Machine.Reachable.start _, rfl⟩ ?_ reachable
  intro program label next holds stepped
  obtain ⟨server, serving⟩ := holds
  have moved : serverMachine.run program.server label.server = some next.server :=
    (programServer : Refinement (programMachine parse deployment redis capacity workers)
      serverMachine).simulates program label next stepped
  exact ⟨server.run moved, serving_step server serving stepped⟩

theorem sessions_grow {server next : Server} {label : ServerLabel}
    (stepped : server.step label = some next) :
    server.sessions.length ≤ next.sessions.length := by
  cases serverStep_move stepped with
  | opens _ => simp
  | session _ _ => exact Nat.le_of_eq List.length_set.symm
  | _ => exact Nat.le_refl _

theorem program_sessions {program next : Program capacity} {label : ProgramLabel}
    (stepped : program.step parse deployment label = some next) :
    program.server.sessions.length ≤ next.server.sessions.length := by
  cases label with
  | io label =>
      obtain ⟨-, server, system, requests, moved, -, -, rfl⟩ := programIo_cases stepped
      exact sessions_grow moved
  | load index =>
      obtain ⟨-, old, new, -, -, rfl⟩ := programLoad_cases stepped
      exact Nat.le_refl _
  | process label =>
      obtain ⟨-, -, process, -, rfl⟩ := programProcess_cases stepped
      exact Nat.le_refl _

/-! The process runs as if all sessions had been there from the start. -/

/-- The process with the places of `count` sessions. -/
def Program.seated (count : Nat) (program : Program capacity) : Process capacity :=
  program.process.seat (count - program.server.sessions.length)

def offerActs (index : Nat) : List SessionAction → List ProcessLabel
  | .offer data :: _ => [.thread 0 (.offer index data)]
  | _ => []

/-- What a step of the program is to the process. -/
def Program.acts (program : Program capacity) : ProgramLabel → List ProcessLabel
  | .io (.session index label) =>
      (((program.server.sessions[index]?).bind fun session => session.step label).map
        fun moved => offerActs index moved.2).getD []
  | .process label => [label]
  | _ => []

theorem seated_io {count : Nat} {program : Program capacity} {server : Server}
    {requests : List Request} {process : Process capacity}
    (grown : program.server.sessions.length ≤ server.sessions.length)
    (room : server.sessions.length ≤ count) :
    Program.seated count ⟨server, requests,
      process.seat (server.sessions.length - program.server.sessions.length)⟩ =
      process.seat (count - program.server.sessions.length) := by
  simp only [Program.seated, Process.seat_seat]
  congr 1
  omega

theorem acts_run (sessions : Nat) {count : Nat} {program next : Program capacity}
    {label : ProgramLabel} (reachable : serverMachine.Reachable program.server)
    (serving : program.process.main = .serving)
    (stepped : program.step parse deployment label = some next)
    (room : next.server.sessions.length ≤ count) :
    (processMachine parse deployment redis capacity sessions workers).run (program.seated count)
      (program.acts label) = some (next.seated count) := by
  cases label with
  | io label =>
      obtain ⟨-, server, system, requests, moved, offered, -, rfl⟩ := programIo_cases stepped
      rw [seated_io (sessions_grow moved) room]
      have quiet (same : system = program.process.pipeline.system)
          (silent : program.acts (.io label) = []) :
          (processMachine parse deployment redis capacity sessions workers).run
            (program.seated count) (program.acts (.io label)) =
            some (Process.seat (count - program.server.sessions.length)
              ⟨{ program.process.pipeline with system := system }, .serving⟩) := by
        rw [silent, same]
        change some (program.process.seat _) = _
        rw [← serving]
      cases label with
      | session index label =>
          obtain ⟨session, found, after⟩ := Option.bind_eq_some_iff.mp offered
          obtain ⟨⟨new, actions⟩, ran, handed⟩ := Option.bind_eq_some_iff.mp after
          have whole : ((program.server.sessions[index]?).bind fun session =>
              session.step label) = some (new, actions) := by
            rw [found, Option.bind_some, ran]
          have shape : program.acts (.io (.session index label)) = offerActs index actions := by
            simp only [Program.acts, whole, Option.map_some, Option.getD_some]
          cases actions with
          | nil => exact quiet (Option.some.inj handed).symm shape
          | cons action rest =>
              cases action with
              | offer data =>
                  obtain ⟨taken, took, agrees⟩ := Option.bind_eq_some_iff.mp handed
                  simp only [Option.ite_none_right_eq_some, Option.some.injEq] at agrees
                  obtain ⟨-, rfl⟩ := agrees
                  have ran : program.process.step parse deployment
                      (.thread 0 (.offer index data)) =
                        some ⟨{ program.process.pipeline with system := taken }, .serving⟩ := by
                    simp [Process.step, Process.allows, serving, Pipeline.step, System.step, took]
                  rw [shape]
                  exact Machine.run_cons_some.mpr ⟨_, threadStep_seat _ ran, rfl⟩
              | _ => exact quiet (Option.some.inj handed).symm shape
      | _ => exact quiet (Option.some.inj offered).symm rfl
  | load index =>
      obtain ⟨-, old, new, -, -, rfl⟩ := programLoad_cases stepped
      rfl
  | process label =>
      obtain ⟨clock, own, rfl⟩ := thread_of_serving reachable serving stepped
      obtain ⟨-, -, process, ran, rfl⟩ := programProcess_cases stepped
      exact Machine.run_cons_some.mpr ⟨_, threadStep_seat _ ran, rfl⟩

theorem seated_initial (count : Nat) :
    Program.seated count (programMachine parse deployment redis capacity workers).initial =
      (processMachine parse deployment redis capacity count workers).initial := by
  change Process.seat (count - 0) _ = _
  simp [programMachine, processMachine, systemMachine, Process.seat, System.seat]

theorem program_process {labels : List ProgramLabel} {program : Program capacity} {count : Nat}
    (reached : (programMachine parse deployment redis capacity workers).run
      (programMachine parse deployment redis capacity workers).initial labels = some program)
    (room : program.server.sessions.length ≤ count) :
    (processMachine parse deployment redis capacity count workers).run
      (processMachine parse deployment redis capacity count workers).initial
      ((programMachine parse deployment redis capacity workers).log Program.acts
        (programMachine parse deployment redis capacity workers).initial labels) =
      some (program.seated count) := by
  let machine := programMachine parse deployment redis capacity workers
  let seats := processMachine parse deployment redis capacity count workers
  let follows (program : Program capacity) (acts : List ProcessLabel) : Prop :=
    machine.Reachable program ∧ (program.server.sessions.length ≤ count →
      seats.run seats.initial acts = some (program.seated count))
  have initially : follows machine.initial [] := by
    refine ⟨Machine.Reachable.start _, fun _ => ?_⟩
    rw [seated_initial]
    rfl
  have preserved (before : Program capacity) (label : ProgramLabel) (after : Program capacity)
      (acts : List ProcessLabel) (holds : follows before acts)
      (stepped : machine.step before label = some after) :
      follows after (acts ++ before.acts label) := by
    obtain ⟨reachable, ran⟩ := holds
    refine ⟨reachable.step stepped, fun room => ?_⟩
    obtain ⟨server, serving⟩ := program_serving reachable
    rw [Machine.run_append (ran (Nat.le_trans (program_sessions stepped) room))]
    exact acts_run count server serving stepped room
  exact (Machine.run_log Program.acts follows preserved initially reached).2 room

/-! So do the connections, with what has been read from them. -/

def ProgramLabel.service : ProgramLabel → List ServiceLabel
  | .io (.session index label) => [.session index label]
  | .process label => [.process label]
  | _ => []

/-- `service` is the program with `count` connections. -/
structure Seen (count : Nat) (program : Program capacity) (service : Service capacity) : Prop where
  process : service.process = program.seated count
  sessions : service.connections.map Connection.session =
    program.server.sessions ++
      List.replicate (count - program.server.sessions.length) Session.opened.start

theorem seen_session (sessions : Nat) {count : Nat} {program next : Program capacity}
    {service : Service capacity} {index : Nat} {label : SessionLabel}
    (seen : Seen count program service)
    (stepped : program.io (.session index label) = some next)
    (room : next.server.sessions.length ≤ count) :
    ∃ after, (serviceMachine parse deployment redis capacity sessions workers).run service
      [.session index label] = some after ∧ Seen count next after := by
  obtain ⟨serving, server, system, requests, moved, offered, -, rfl⟩ := programIo_cases stepped
  obtain ⟨session, found, after⟩ := Option.bind_eq_some_iff.mp offered
  obtain ⟨⟨new, actions⟩, ran, handed⟩ := Option.bind_eq_some_iff.mp after
  obtain ⟨bound, -⟩ := List.getElem?_eq_some_iff.mp found
  have same : server.sessions = program.server.sessions.set index new := by
    simp only [Server.step, found, ran, Option.bind_some, Option.map_some,
      Option.some.injEq] at moved
    exact moved ▸ rfl
  have held : (service.connections.map Connection.session)[index]? = some session := by
    rw [seen.sessions, List.getElem?_append_left bound, found]
  rw [List.getElem?_map] at held
  obtain ⟨connection, place, rfl⟩ := Option.map_eq_some_iff.mp held
  let advance : Connection :=
    ⟨new, connection.inbound ++ label.delivered, connection.actions ++ actions⟩
  have advanced : connection.step label = some advance := by
    simp only [Connection.step, ran, Option.map_some]
    cases label <;> simp [advance, SessionLabel.delivered]
  have main : service.process.main = .serving := by
    rw [seen.process]
    exact serving
  have queue : service.process.pipeline.system =
      program.process.pipeline.system.seat (count - program.server.sessions.length) := by
    rw [seen.process]
    rfl
  refine ⟨⟨service.connections.set index advance, ⟨{ service.process.pipeline with
    system := system.seat (count - program.server.sessions.length) }, .serving⟩⟩, ?_, ?_, ?_⟩
  · refine Machine.run_cons_some.mpr ⟨_, ?_, rfl⟩
    change service.session index label = _
    simp only [Service.session]
    rw [if_pos main, place, Option.bind_some, advanced, Option.bind_some, List.drop_left, queue,
      offerBodies_seat _ handed]
    rfl
  · rw [seated_io (sessions_grow moved) room, seen.process]
    rfl
  · rw [List.map_set, seen.sessions, same, List.length_set, List.set_append_left _ _ bound]

theorem sessions_append {server next : Server} {label : ServerLabel}
    (other : ∀ index own, label ≠ .session index own) (stepped : server.step label = some next) :
    next.sessions = server.sessions ++
      List.replicate (next.sessions.length - server.sessions.length) Session.opened.start := by
  cases serverStep_move stepped with
  | opens _ => simp
  | session _ _ => exact absurd rfl (other _ _)
  | _ => simp

theorem service_thread {service : Service capacity} {process : Process capacity}
    {label : ProcessLabel}
    (silent : ∀ clock session data, label ≠ .thread clock (.offer session data))
    (stepped : service.process.step parse deployment label = some process) :
    service.step parse deployment (.process label) = some ⟨service.connections, process⟩ := by
  cases label with
  | main input => exact Option.map_eq_some_iff.mpr ⟨process, stepped, rfl⟩
  | thread clock label =>
      cases label with
      | offer session data => exact absurd rfl (silent clock session data)
      | _ => exact Option.map_eq_some_iff.mpr ⟨process, stepped, rfl⟩

theorem seen_run (sessions : Nat) {count : Nat} {program next : Program capacity}
    {service : Service capacity} {label : ProgramLabel} (seen : Seen count program service)
    (reachable : serverMachine.Reachable program.server)
    (serving : program.process.main = .serving)
    (stepped : program.step parse deployment label = some next)
    (room : next.server.sessions.length ≤ count) :
    ∃ after, (serviceMachine parse deployment redis capacity sessions workers).run service
      label.service = some after ∧ Seen count next after := by
  cases label with
  | io label =>
      by_cases own : ∃ index label', label = .session index label'
      · obtain ⟨index, label, rfl⟩ := own
        exact seen_session sessions seen stepped room
      · have other (index : Nat) (label' : SessionLabel) : label ≠ .session index label' :=
          fun same => own ⟨index, label', same⟩
        obtain ⟨-, server, system, requests, moved, offered, -, rfl⟩ := programIo_cases stepped
        have grown := sessions_grow moved
        have unmoved : system = program.process.pipeline.system ∧
            ProgramLabel.service (.io label) = [] := by
          cases label with
          | session index label' => exact absurd rfl (other index label')
          | _ => exact ⟨(Option.some.inj offered).symm, rfl⟩
        refine ⟨service, by rw [unmoved.2]; rfl, ?_, ?_⟩
        · rw [seated_io grown room, seen.process, unmoved.1, ← serving]
          rfl
        · have split : count - program.server.sessions.length =
              (server.sessions.length - program.server.sessions.length) +
                (count - server.sessions.length) := by
            have room : server.sessions.length ≤ count := room
            omega
          rw [seen.sessions, split, ← List.replicate_append_replicate, ← List.append_assoc,
            ← sessions_append other moved]
  | load index =>
      obtain ⟨-, old, new, -, -, rfl⟩ := programLoad_cases stepped
      exact ⟨service, rfl, seen.process, seen.sessions⟩
  | process label =>
      obtain ⟨clock, own, rfl⟩ := thread_of_serving reachable serving stepped
      obtain ⟨silent, -, process, ran, rfl⟩ := programProcess_cases stepped
      have seated : service.process.step parse deployment (.thread clock own) =
          some (process.seat (count - program.server.sessions.length)) := by
        rw [seen.process]
        exact threadStep_seat _ ran
      refine ⟨⟨service.connections, process.seat (count - program.server.sessions.length)⟩,
        Machine.run_cons_some.mpr ⟨_, ?_, rfl⟩, rfl, seen.sessions⟩
      exact service_thread silent seated

theorem program_service {labels : List ProgramLabel} {program : Program capacity} {count : Nat}
    (reached : (programMachine parse deployment redis capacity workers).run
      (programMachine parse deployment redis capacity workers).initial labels = some program)
    (room : program.server.sessions.length ≤ count) :
    ∃ service, (serviceMachine parse deployment redis capacity count workers).run
      (serviceMachine parse deployment redis capacity count workers).initial
      (labels.flatMap ProgramLabel.service) = some service ∧ Seen count program service := by
  let machine := programMachine parse deployment redis capacity workers
  let connected := serviceMachine parse deployment redis capacity count workers
  have initially : Seen count machine.initial connected.initial := by
    refine ⟨(seated_initial count).symm, ?_⟩
    change (List.replicate count connectionMachine.initial).map Connection.session =
      [] ++ List.replicate (count - 0) Session.opened.start
    rw [List.map_replicate]
    rfl
  let follows (program : Program capacity) (labels : List ServiceLabel) : Prop :=
    machine.Reachable program ∧ (program.server.sessions.length ≤ count → ∃ service,
      connected.run connected.initial labels = some service ∧ Seen count program service)
  have preserved (before : Program capacity) (label : ProgramLabel) (after : Program capacity)
      (earlier : List ServiceLabel) (holds : follows before earlier)
      (stepped : machine.step before label = some after) :
      follows after (earlier ++ label.service) := by
    obtain ⟨reachable, ran⟩ := holds
    refine ⟨reachable.step stepped, fun room => ?_⟩
    obtain ⟨server, serving⟩ := program_serving reachable
    obtain ⟨service, reached, seen⟩ := ran (Nat.le_trans (program_sessions stepped) room)
    obtain ⟨next, moved, seen⟩ := seen_run count seen server serving stepped room
    exact ⟨next, by rw [Machine.run_append reached, moved], seen⟩
  have whole : follows program ([] ++ machine.log (fun _ => ProgramLabel.service)
      machine.initial labels) :=
    Machine.run_log (fun _ => ProgramLabel.service) follows preserved
      ⟨Machine.Reachable.start _, fun _ => ⟨_, rfl, initially⟩⟩ reached
  rw [List.nil_append, Machine.log_flatMap ProgramLabel.service reached] at whole
  exact whole.2 room

/-! And so do the scrapes. -/

/-- What a step of the program does for the scrapes. -/
def Program.requestActs (program : Program capacity) : ProgramLabel → List MonitoredLabel
  | .io (.runMonitorAccept index) =>
      ((program.server.step (.runMonitorAccept index)).map fun server =>
        List.replicate (server.scrapes.length - program.server.scrapes.length) .connect).getD []
  | .io (.scrapeCompletes index failed) =>
      if program.requests[index]? = some .reading then [.read index failed] else []
  | .load index => [.load index]
  | _ => []

/-- What a step of the program is to the process with the scrapes beside it. -/
def Program.monitoredActs (program : Program capacity) (label : ProgramLabel) :
    List MonitoredLabel :=
  (program.acts label).map .process ++ program.requestActs label

theorem acts_threads {program next : Program capacity} {label : ProgramLabel}
    (reachable : serverMachine.Reachable program.server)
    (serving : program.process.main = .serving)
    (stepped : program.step parse deployment label = some next) :
    ∀ action ∈ program.acts label, action.isMain = false := by
  intro action member
  cases label with
  | process label =>
      obtain ⟨clock, own, rfl⟩ := thread_of_serving reachable serving stepped
      exact List.mem_singleton.mp member ▸ rfl
  | load index => simp [Program.acts] at member
  | io label =>
      cases label with
      | session index label =>
          simp only [Program.acts] at member
          cases moved : (program.server.sessions[index]?).bind (·.step label) with
          | none => simp [moved] at member
          | some after =>
              obtain ⟨session, actions⟩ := after
              simp only [moved, Option.map_some, Option.getD_some] at member
              unfold offerActs at member
              split at member
              · exact List.mem_singleton.mp member ▸ rfl
              · simp at member
      | _ => simp [Program.acts] at member

theorem monitored_acts {sessions : Nat} {process after : Process capacity}
    {labels : List ProcessLabel} (requests : List Request)
    (threads : ∀ label ∈ labels, label.isMain = false)
    (ran : (processMachine parse deployment redis capacity sessions workers).run process labels =
      some after) :
    (monitoredMachine parse deployment redis capacity sessions workers).run ⟨process, requests⟩
      (labels.map .process) = some ⟨after, requests⟩ := by
  induction labels generalizing process with
  | nil =>
      obtain rfl := Option.some.inj ran
      rfl
  | cons label rest ih =>
      obtain ⟨next, stepped, tail⟩ := Machine.run_cons_some.mp ran
      refine Machine.run_cons_some.mpr ⟨⟨next, requests⟩, ?_,
        ih (fun other member => threads other (List.mem_cons_of_mem _ member)) tail⟩
      change Monitored.step parse deployment ⟨process, requests⟩ (.process label) = _
      have own : label.isMain = false := threads label List.mem_cons_self
      simp only [Monitored.step, own, Bool.false_eq_true, false_and, and_false, if_false]
      exact Option.map_eq_some_iff.mpr ⟨next, stepped, rfl⟩

theorem requests_run (sessions : Nat) {program : Program capacity} {server : Server}
    {label : ServerLabel} {requests : List Request} {process : Process capacity}
    (serving : process.main = .serving) (moved : program.server.step label = some server)
    (requested : program.requested server label = some requests) :
    (monitoredMachine parse deployment redis capacity sessions workers).run
      ⟨process, program.requests⟩ (program.requestActs (.io label)) =
        some ⟨process, requests⟩ := by
  have unmoved (silent : program.requestActs (.io label) = [])
      (same : program.requests = requests) :
      (monitoredMachine parse deployment redis capacity sessions workers).run
        ⟨process, program.requests⟩ (program.requestActs (.io label)) =
          some ⟨process, requests⟩ := by
    rw [silent, same]
    rfl
  cases label with
  | runMonitorAccept index =>
      obtain rfl := Option.some.inj requested
      have connects : program.requestActs (.io (.runMonitorAccept index)) =
          List.replicate (server.scrapes.length - program.server.scrapes.length) .connect := by
        simp only [Program.requestActs, moved, Option.map_some, Option.getD_some]
      cases serverStep_move moved with
      | monitorServe _ =>
          have once : program.requestActs (.io (.runMonitorAccept index)) = [.connect] := by
            simpa using connects
          rw [once]
          refine Machine.run_cons_some.mpr
            ⟨⟨process, program.requests ++ [.reading]⟩, ?_, by simp [Machine.run]⟩
          change Monitored.step parse deployment ⟨process, program.requests⟩ .connect = _
          simp only [Monitored.step, serving, if_true]
      | monitorError _ => exact unmoved (by simpa using connects) (by simp)
  | scrapeCompletes index failed =>
      simp only [Program.requested] at requested
      split at requested
      · rename_i reading
        obtain rfl := Option.some.inj requested
        simp only [Program.requestActs]
        rw [if_pos reading]
        refine Machine.run_cons_some.mpr ⟨_, ?_, rfl⟩
        change Monitored.request ⟨process, program.requests⟩ index _ = _
        simp [Monitored.request, serving, reading]
      · rename_i later
        exact unmoved (if_neg later) (Option.some.inj requested)
  | runScrape index =>
      simp only [Program.requested, Option.ite_none_left_eq_some, Option.some.injEq] at requested
      exact unmoved rfl requested.2
  | _ => exact unmoved rfl (Option.some.inj requested)

theorem monitoredActs_run (sessions : Nat) {count : Nat} {program next : Program capacity}
    {label : ProgramLabel} (reachable : serverMachine.Reachable program.server)
    (serving : program.process.main = .serving)
    (stepped : program.step parse deployment label = some next)
    (room : next.server.sessions.length ≤ count) :
    (monitoredMachine parse deployment redis capacity sessions workers).run
      ⟨program.seated count, program.requests⟩ (program.monitoredActs label) =
        some ⟨next.seated count, next.requests⟩ := by
  have still : (next.seated count).main = .serving := serving_step reachable serving stepped
  rw [Program.monitoredActs, Machine.run_append (monitored_acts program.requests
    (acts_threads reachable serving stepped) (acts_run sessions reachable serving stepped room))]
  cases label with
  | io label =>
      obtain ⟨-, server, system, requests, moved, -, requested, rfl⟩ := programIo_cases stepped
      exact requests_run sessions still moved requested
  | load index =>
      obtain ⟨-, old, new, found, loaded, rfl⟩ := programLoad_cases stepped
      refine Machine.run_cons_some.mpr ⟨_, ?_, rfl⟩
      change Monitored.request _ index _ = _
      simp only [Monitored.request]
      rw [if_pos still, found, Option.bind_some, Option.map_eq_some_iff]
      exact ⟨new, loaded, rfl⟩
  | process label =>
      obtain ⟨-, -, process, -, rfl⟩ := programProcess_cases stepped
      rfl

theorem program_monitored {labels : List ProgramLabel} {program : Program capacity} {count : Nat}
    (reached : (programMachine parse deployment redis capacity workers).run
      (programMachine parse deployment redis capacity workers).initial labels = some program)
    (room : program.server.sessions.length ≤ count) :
    (monitoredMachine parse deployment redis capacity count workers).run
      (monitoredMachine parse deployment redis capacity count workers).initial
      ((programMachine parse deployment redis capacity workers).log Program.monitoredActs
        (programMachine parse deployment redis capacity workers).initial labels) =
      some ⟨program.seated count, program.requests⟩ := by
  let machine := programMachine parse deployment redis capacity workers
  let monitored := monitoredMachine parse deployment redis capacity count workers
  let follows (program : Program capacity) (acts : List MonitoredLabel) : Prop :=
    machine.Reachable program ∧ (program.server.sessions.length ≤ count →
      monitored.run monitored.initial acts = some ⟨program.seated count, program.requests⟩)
  have initially : follows machine.initial [] := by
    refine ⟨Machine.Reachable.start _, fun _ => ?_⟩
    rw [seated_initial]
    rfl
  have preserved (before : Program capacity) (label : ProgramLabel) (after : Program capacity)
      (acts : List MonitoredLabel) (holds : follows before acts)
      (stepped : machine.step before label = some after) :
      follows after (acts ++ before.monitoredActs label) := by
    obtain ⟨reachable, ran⟩ := holds
    refine ⟨reachable.step stepped, fun room => ?_⟩
    obtain ⟨server, serving⟩ := program_serving reachable
    rw [Machine.run_append (ran (Nat.le_trans (program_sessions stepped) room))]
    exact monitoredActs_run count server serving stepped room
  exact (Machine.run_log Program.monitoredActs follows preserved initially reached).2 room

/-- The program is a run of the io_context that never lets `main` past the join, and from
the sessions that it opens on it is the service, the process and the scrapes with as many
connections as one likes, if only all sessions find a place. -/
theorem program_refines (parse : Bytes → Option Event) (deployment : Deployment)
    (redis : CounterStore Bytes) (workers : Nat) {labels : List ProgramLabel}
    {program : Program capacity}
    (reached : (programMachine parse deployment redis capacity workers).run
      (programMachine parse deployment redis capacity workers).initial labels = some program) :
    serverMachine.run serverMachine.initial (labels.flatMap ProgramLabel.server) =
      some program.server ∧
    program.process.main = .serving ∧
    ∀ count, program.server.sessions.length ≤ count →
      (∃ service, (serviceMachine parse deployment redis capacity count workers).run
        (serviceMachine parse deployment redis capacity count workers).initial
        (labels.flatMap ProgramLabel.service) = some service ∧ Seen count program service) ∧
      (processMachine parse deployment redis capacity count workers).run
        (processMachine parse deployment redis capacity count workers).initial
        ((programMachine parse deployment redis capacity workers).log Program.acts
          (programMachine parse deployment redis capacity workers).initial labels) =
        some (program.seated count) ∧
      (monitoredMachine parse deployment redis capacity count workers).run
        (monitoredMachine parse deployment redis capacity count workers).initial
        ((programMachine parse deployment redis capacity workers).log Program.monitoredActs
          (programMachine parse deployment redis capacity workers).initial labels) =
        some ⟨program.seated count, program.requests⟩ := by
  have reachable : (programMachine parse deployment redis capacity workers).Reachable program :=
    ⟨labels, reached⟩
  refine ⟨?_, (program_serving reachable).2, fun count room => ⟨program_service reached room,
    program_process reached room, program_monitored reached room⟩⟩
  have ran := (programServer : Refinement (programMachine parse deployment redis capacity workers)
    serverMachine).run reached
  exact Machine.log_flatMap ProgramLabel.server reached ▸ ran

end

/-- A client connects, its event is read and passed on, and it closes; in between the signal
comes and a scrape. -/
def servedOnce : List ProgramLabel :=
  let body := encodeEvent (eventOf [7])
  let worker : ProgramLabel := .process (.thread 1 (.worker 0 .fails))
  [.io (.connect 0 true), .io (.runAccept 0), .io (.runAccept 0),
    .io (.session 0 (.receive (packLength body.length))), .io (.session 0 (.runRead true)),
    .io (.session 0 (.receive body)), .io (.session 0 (.runRead true)), .io .signal,
    .io .runSignal] ++ List.replicate 7 worker ++
    [.process (.thread 1 (.kafka (.produce 0 true))), worker, .io (.monitorConnect 0),
      .io (.runMonitorAccept 0), .io (.scrapeCompletes 0 false), .load 0,
      .io (.session 0 .readFails), .io (.session 0 (.runRead false))]

theorem program_refines_servedOnce : ∃ (program : Program 2) (service : Service 2),
    (programMachine sampleParse ⟨none, true, true⟩ (fun _ => none) 2 1).run
      (programMachine sampleParse ⟨none, true, true⟩ (fun _ => none) 2 1).initial servedOnce =
        some program ∧
    (serviceMachine sampleParse ⟨none, true, true⟩ (fun _ => none) 2 1 1).run
      (serviceMachine sampleParse ⟨none, true, true⟩ (fun _ => none) 2 1 1).initial
      (servedOnce.flatMap ProgramLabel.service) = some service ∧
    (monitoredMachine sampleParse ⟨none, true, true⟩ (fun _ => none) 2 1 1).Reachable
      ⟨program.process, program.requests⟩ ∧
    service.process = program.process ∧ program.process.main = .serving ∧
    program.server.acceptorOpen = false ∧ program.requests.length = 1 ∧
    (passedOn program.process.pipeline.system.shared.finished).length = 1 := by
  have serves : ((programMachine sampleParse ⟨none, true, true⟩ (fun _ => none) 2 1).run
      (programMachine sampleParse ⟨none, true, true⟩ (fun _ => none) 2 1).initial
      servedOnce).map (fun program : Program 2 =>
        (program.server.sessions.length, program.server.acceptorOpen, program.requests.length,
          (passedOn program.process.pipeline.system.shared.finished).length)) =
      some (1, false, 1, 1) := by
    decide
  obtain ⟨program, reached, summary⟩ := Option.map_eq_some_iff.mp serves
  simp only [Prod.mk.injEq] at summary
  obtain ⟨opened, closed, scraped, passed⟩ := summary
  obtain ⟨-, serving, parts⟩ :=
    program_refines sampleParse ⟨none, true, true⟩ (fun _ => none) 1 reached
  obtain ⟨⟨service, ran, seen⟩, -, monitored⟩ := parts 1 (Nat.le_of_eq opened)
  have seated : program.seated 1 = program.process := by
    rw [Program.seated, opened, Nat.sub_self, Process.seat_zero]
  rw [seated] at monitored
  exact ⟨program, service, reached, ran, ⟨_, monitored⟩, seen.process.trans seated, serving,
    closed, scraped, passed⟩

end EventCollector
