import EventCollector.Session

/-!
The idle timeout. `start()` puts one wait on the timer; the body handler moves
the deadline with `expires_after`, which cancels that wait, and starts no other.
-/

namespace EventCollector

def TimeoutArmed (connection : Connection) : Prop :=
  connection.session.cleanedUp = false →
    0 < connection.session.waits ∨ 0 < connection.session.expired

def DeadlinePassed (connection : Connection) : SessionLabel → Prop
  | .runRead _ => connection.session.read = .ready .body false →
      connection.session.cleanedUp = false → 0 < connection.session.expired
  | _ => True

instance : DecidablePred TimeoutArmed := fun _ => inferInstanceAs (Decidable (_ → _))

instance (connection : Connection) (label : SessionLabel) :
    Decidable (DeadlinePassed connection label) :=
  match label with
  | .runRead _ => inferInstanceAs (Decidable (_ → _))
  | .receive _ | .readFails | .expire | .runExpired | .runAborted => isTrue trivial

theorem armed_step {connection : Connection} {label : SessionLabel} {session : Session}
    {actions : List SessionAction} {next : Connection} (armed : TimeoutArmed connection)
    (passed : DeadlinePassed connection label)
    (moved : SessionMove connection.session label session actions)
    (reached : next.session = session) : TimeoutArmed next := by
  intro active
  rw [reached] at active ⊢
  cases moved with
  | @receive stage _ _ _ _ _ _ => cases stage <;> exact armed active
  | readFails _ => exact armed active
  | accept _ _ _ => exact armed active
  | bodyRead ready => exact Or.inr (passed ready active)
  | expire waiting => exact Or.inr (Nat.add_pos_right _ waiting)
  | aborted _ => exact armed active
  | reject _ _ => simp at active
  | closed _ => simp at active
  | timeout _ => simp at active

theorem unarmed_step {connection : Connection} {label : SessionLabel} {session : Session}
    {actions : List SessionAction} {next : Connection}
    (early : ¬ DeadlinePassed connection label)
    (moved : SessionMove connection.session label session actions)
    (reached : next.session = session) : ¬ TimeoutArmed next := by
  have handled {accepted : Bool} (same : label = .runRead accepted) :
      connection.session.read = .ready .body false ∧ connection.session.cleanedUp = false ∧
        connection.session.expired = 0 := by
    subst same
    simpa [DeadlinePassed] using early
  cases moved with
  | bodyRead _ =>
      obtain ⟨-, active, none⟩ := handled rfl
      intro armed
      rw [TimeoutArmed, reached] at armed
      simpa [none] using armed active
  | accept header _ _ => simp [(handled rfl).1] at header
  | reject header _ => simp [(handled rfl).1] at header
  | closed failed => simp [(handled rfl).1] at failed
  | _ => exact absurd trivial early

/-! What being armed is worth. -/

theorem expired_closes {connection : Connection} (queued : 0 < connection.session.expired) :
    ∃ next, connectionMachine.step connection .runExpired = some next ∧
      next.session.socketOpen = false ∧ next.session.cleanedUp = true := by
  have enabled : ∃ next, connectionMachine.step connection .runExpired = some next := by
    simp [connectionMachine, Connection.step, Session.step, queued]
  obtain ⟨next, ran⟩ := enabled
  obtain ⟨session, actions, moved, rfl⟩ := connectionStep_move ran
  refine ⟨_, ran, ?_⟩
  cases moved with
  | timeout _ => exact ⟨rfl, rfl⟩

theorem armed_closes {connection : Connection} (armed : TimeoutArmed connection)
    (active : connection.session.cleanedUp = false) :
    ∃ labels next, (∀ label ∈ labels, label = .expire ∨ label = .runExpired) ∧
      connectionMachine.run connection labels = some next ∧
      next.session.socketOpen = false ∧ next.session.cleanedUp = true := by
  rcases armed active with waiting | queued
  · let middle : Connection :=
      ⟨{ connection.session with
        waits := 0, expired := connection.session.expired + connection.session.waits },
        connection.inbound, connection.actions ++ []⟩
    have expires : connectionMachine.step connection .expire = some middle := by
      simp [connectionMachine, Connection.step, Session.step, waiting, middle]
    have due : 0 < middle.session.expired := Nat.add_pos_right _ waiting
    obtain ⟨next, ran, closed⟩ := expired_closes due
    exact ⟨[.expire, .runExpired], next, by simp, Machine.run_cons_some.mpr
      ⟨middle, expires, Machine.run_cons_some.mpr ⟨next, ran, rfl⟩⟩, closed⟩
  · obtain ⟨next, ran, closed⟩ := expired_closes queued
    exact ⟨[.runExpired], next, by simp, Machine.run_cons_some.mpr ⟨next, ran, rfl⟩, closed⟩

structure Forgotten (session : Session) : Prop where
  isOpen : session.socketOpen = true
  active : session.cleanedUp = false
  waiting : ∃ stage filled, session.read = .pending stage filled
  noWait : session.waits = 0
  noExpiry : session.expired = 0

theorem forgotten_step {connection next : Connection} {label : SessionLabel}
    (forgotten : Forgotten connection.session)
    (silent : ∀ chunk, label ≠ .receive chunk) (stays : label ≠ .readFails)
    (stepped : connectionMachine.step connection label = some next) :
    Forgotten next.session := by
  obtain ⟨session, actions, moved, rfl⟩ := connectionStep_move stepped
  obtain ⟨isOpen, active, ⟨stage, filled, pending⟩, noWait, noExpiry⟩ := forgotten
  cases moved with
  | receive _ _ _ _ => exact absurd rfl (silent _)
  | readFails _ => exact absurd rfl stays
  | accept ready _ _ => simp [pending] at ready
  | reject ready _ => simp [pending] at ready
  | bodyRead ready => simp [pending] at ready
  | closed ready => simp [pending] at ready
  | expire waiting => omega
  | timeout queued => omega
  | aborted _ => exact ⟨isOpen, active, ⟨stage, filled, pending⟩, noWait, noExpiry⟩

theorem forgotten_run {connection final : Connection} {labels : List SessionLabel}
    (forgotten : Forgotten connection.session)
    (silent : ∀ label ∈ labels, (∀ chunk, label ≠ .receive chunk) ∧ label ≠ .readFails)
    (reached : connectionMachine.run connection labels = some final) :
    Forgotten final.session := by
  induction labels generalizing connection with
  | nil =>
      simp only [Machine.run, Option.some.injEq] at reached
      exact reached ▸ forgotten
  | cons label rest ih =>
      obtain ⟨next, stepped, tail⟩ := Machine.run_cons_some.mp reached
      obtain ⟨quiet, stays⟩ := silent label (by simp)
      exact ih (forgotten_step forgotten quiet stays stepped)
        (fun other member => silent other (by simp [member])) tail

/-- The timeout stays armed along a run exactly when no body is handled before the
deadline has passed, and an armed session is closed by its timer. -/
theorem timeout_stays_armed (labels : List SessionLabel) :
    (connectionMachine.Always TimeoutArmed connectionMachine.initial labels ↔
      connectionMachine.Steps DeadlinePassed connectionMachine.initial labels) ∧
    ∀ connection, TimeoutArmed connection → connection.session.cleanedUp = false →
      ∃ labels next, (∀ label ∈ labels, label = .expire ∨ label = .runExpired) ∧
        connectionMachine.run connection labels = some next ∧
        next.session.socketOpen = false ∧ next.session.cleanedUp = true := by
  refine ⟨?_, fun _ => armed_closes⟩
  refine Machine.always_iff_steps TimeoutArmed (fun _ => id) ?_ ?_ ?_
  · intro connection label next armed passed stepped
    obtain ⟨session, actions, moved, rfl⟩ := connectionStep_move stepped
    exact armed_step armed passed moved rfl
  · intro connection label next _ early stepped
    obtain ⟨session, actions, moved, rfl⟩ := connectionStep_move stepped
    exact unarmed_step early moved rfl
  · exact fun _ => Or.inl Nat.zero_lt_one

theorem timeout_stays_armed_late : connectionMachine.Always TimeoutArmed
    connectionMachine.initial [.receive [1, 0, 0, 0], .runRead true, .receive [65], .expire,
      .runRead true, .receive [1, 0], .runExpired, .readFails, .runRead true] :=
  (timeout_stays_armed _).1.mpr (by decide)

/-- After its first event a silent client is never closed. -/
theorem timeout_disarmed_by_body : ∃ connection, connectionMachine.Reachable connection ∧
    connection.session.cleanedUp = false ∧ ¬ TimeoutArmed connection ∧
    ∀ labels final,
      (∀ label ∈ labels, (∀ chunk, label ≠ SessionLabel.receive chunk) ∧ label ≠ .readFails) →
      connectionMachine.run connection labels = some final →
      final.session.socketOpen = true ∧ final.session.cleanedUp = false := by
  let after : Connection :=
    { session :=
        { socketOpen := true, header := [1, 0, 0, 0], body := [65], read := .pending .header 0,
          waits := 0, expired := 0, aborted := 1, cleanedUp := false }
      inbound := [1, 0, 0, 0, 65]
      actions := [.offer [65]] }
  have reachable : connectionMachine.Reachable after :=
    ⟨[.receive [1, 0, 0, 0], .runRead true, .receive [65], .runRead true], rfl⟩
  have forgotten : Forgotten after.session := ⟨rfl, rfl, ⟨.header, 0, rfl⟩, rfl, rfl⟩
  refine ⟨after, reachable, rfl, fun armed => ?_, ?_⟩
  · simpa [after] using armed rfl
  · intro labels final silent reached
    have still := forgotten_run forgotten silent reached
    exact ⟨still.isOpen, still.active⟩

end EventCollector
