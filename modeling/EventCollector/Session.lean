import EventCollector.SessionCore

/-!
What one step of a session can do, and the buffers it reads into.
-/

namespace EventCollector

theorem cleanup_eq (session : Session) :
    session.cleanup = ({ session with cleanedUp := true },
      if session.cleanedUp then [] else [.release]) := by
  unfold Session.cleanup
  split
  · rename_i already
    rw [← already]
  · rfl

inductive SessionMove (session : Session) :
    SessionLabel → Session → List SessionAction → Prop
  | receive {stage : Stage} {filled : Nat} {chunk : Bytes} :
      session.read = .pending stage filled → session.socketOpen = true → chunk ≠ [] →
      filled + chunk.length ≤ (session.buffer stage).length →
      SessionMove session (.receive chunk) (session.receive stage filled chunk) []
  | readFails {stage : Stage} {filled : Nat} : session.read = .pending stage filled →
      SessionMove session .readFails { session with read := .ready stage true } []
  | accept {accepted : Bool} : session.read = .ready .header false →
      0 < (payloadLength session.header).toNat → (payloadLength session.header).toNat < 102400 →
      SessionMove session (.runRead accepted)
        { session with
          body := resize session.body (payloadLength session.header).toNat
          read := .pending .body 0 } []
  | reject {accepted : Bool} : session.read = .ready .header false →
      ¬ (0 < (payloadLength session.header).toNat ∧
        (payloadLength session.header).toNat < 102400) →
      SessionMove session (.runRead accepted)
        { session with read := .idle, socketOpen := false, cleanedUp := true }
        (.reject (payloadLength session.header) ::
          if session.cleanedUp then [] else [.release])
  | bodyRead {accepted : Bool} : session.read = .ready .body false →
      SessionMove session (.runRead accepted)
        { session with
          read := .pending .header 0
          waits := 0
          aborted := session.aborted + session.waits }
        (.offer session.body :: if accepted then [] else [.drop])
  | closed {stage : Stage} {accepted : Bool} : session.read = .ready stage true →
      SessionMove session (.runRead accepted) { session with read := .idle, cleanedUp := true }
        (if session.cleanedUp then [] else [.release])
  | expire : 0 < session.waits →
      SessionMove session .expire
        { session with waits := 0, expired := session.expired + session.waits } []
  | timeout : 0 < session.expired →
      SessionMove session .runExpired
        { session with expired := session.expired - 1, socketOpen := false, cleanedUp := true }
        (if session.cleanedUp then [] else [.release])
  | aborted : 0 < session.aborted →
      SessionMove session .runAborted { session with aborted := session.aborted - 1 } []

theorem headerRead_move {session next : Session} {actions : List SessionAction} {failed : Bool}
    {accepted : Bool} (ready : session.read = .ready .header failed)
    (ran : { session with read := .idle }.headerRead failed = (next, actions)) :
    SessionMove session (.runRead accepted) next actions := by
  cases failed with
  | true =>
      simp only [Session.headerRead, Bool.not_true, Bool.false_eq_true, if_false, cleanup_eq,
        Prod.mk.injEq] at ran
      obtain ⟨rfl, rfl⟩ := ran
      exact .closed ready
  | false =>
      simp only [Session.headerRead, Bool.not_false, if_true] at ran
      split at ran
      · rename_i valid
        simp only [Session.doReadBody, Prod.mk.injEq] at ran
        obtain ⟨rfl, rfl⟩ := ran
        exact .accept ready valid.1 valid.2
      · rename_i invalid
        simp only [cleanup_eq, Prod.mk.injEq] at ran
        obtain ⟨rfl, rfl⟩ := ran
        exact .reject ready invalid

theorem bodyRead_move {session next : Session} {actions : List SessionAction} {failed : Bool}
    {accepted : Bool} (ready : session.read = .ready .body failed)
    (ran : { session with read := .idle }.bodyRead failed accepted = (next, actions)) :
    SessionMove session (.runRead accepted) next actions := by
  cases failed with
  | true =>
      simp only [Session.bodyRead, Bool.not_true, Bool.false_eq_true, if_false, cleanup_eq,
        Prod.mk.injEq] at ran
      obtain ⟨rfl, rfl⟩ := ran
      exact .closed ready
  | false =>
      simp only [Session.bodyRead, Bool.not_false, if_true, Session.doReadHeader,
        Session.expiresAfter, Prod.mk.injEq] at ran
      obtain ⟨rfl, rfl⟩ := ran
      exact .bodyRead ready

theorem sessionStep_move {session next : Session} {label : SessionLabel}
    {actions : List SessionAction} (stepped : session.step label = some (next, actions)) :
    SessionMove session label next actions := by
  cases label with
  | receive chunk =>
      simp only [Session.step] at stepped
      split at stepped
      · rename_i stage filled reading
        simp only [Option.ite_none_right_eq_some, Option.some.injEq, Prod.mk.injEq] at stepped
        obtain ⟨⟨isOpen, some, fits⟩, rfl, rfl⟩ := stepped
        exact .receive reading isOpen some fits
      · simp at stepped
  | readFails =>
      simp only [Session.step] at stepped
      split at stepped
      · rename_i stage filled reading
        simp only [Option.some.injEq, Prod.mk.injEq] at stepped
        obtain ⟨rfl, rfl⟩ := stepped
        exact .readFails reading
      · simp at stepped
  | runRead accepted =>
      simp only [Session.step] at stepped
      split at stepped
      · rename_i failed ready
        exact headerRead_move ready (Option.some.inj stepped)
      · rename_i failed ready
        exact bodyRead_move ready (Option.some.inj stepped)
      · simp at stepped
  | expire =>
      simp only [Session.step, Option.ite_none_right_eq_some, Option.some.injEq,
        Prod.mk.injEq] at stepped
      obtain ⟨waiting, rfl, rfl⟩ := stepped
      exact .expire waiting
  | runExpired =>
      simp only [Session.step, Session.onTimeout, cleanup_eq, Option.ite_none_right_eq_some,
        Option.some.injEq, Prod.mk.injEq] at stepped
      obtain ⟨queued, rfl, rfl⟩ := stepped
      exact .timeout queued
  | runAborted =>
      simp only [Session.step, Option.ite_none_right_eq_some, Option.some.injEq,
        Prod.mk.injEq] at stepped
      obtain ⟨queued, rfl, rfl⟩ := stepped
      exact .aborted queued

/-! A step of the connection is a step of its session with its effects logged. -/

def SessionLabel.delivered : SessionLabel → Bytes
  | .receive chunk => chunk
  | _ => []

theorem connectionStep_move {connection next : Connection} {label : SessionLabel}
    (stepped : connectionMachine.step connection label = some next) :
    ∃ session actions, SessionMove connection.session label session actions ∧
      next = ⟨session, connection.inbound ++ label.delivered, connection.actions ++ actions⟩ := by
  simp only [connectionMachine, Connection.step, Option.map_eq_some_iff] at stepped
  obtain ⟨⟨session, actions⟩, moved, rfl⟩ := stepped
  refine ⟨session, actions, sessionStep_move moved, ?_⟩
  cases label <;> simp [SessionLabel.delivered]

/-! The buffers. -/

theorem overwrite_length {buffer chunk : Bytes} {offset : Nat}
    (fits : offset + chunk.length ≤ buffer.length) :
    (overwrite buffer offset chunk).length = buffer.length := by
  simp only [overwrite, List.length_append, List.length_take, List.length_drop]
  omega

theorem take_overwrite {buffer chunk : Bytes} {offset : Nat}
    (fits : offset + chunk.length ≤ buffer.length) :
    (overwrite buffer offset chunk).take (offset + chunk.length) =
      buffer.take offset ++ chunk := by
  have size : (buffer.take offset ++ chunk).length = offset + chunk.length := by
    simp only [List.length_append, List.length_take]
    omega
  rw [overwrite, ← size, List.take_left]

theorem resize_length (buffer : Bytes) (len : Nat) : (resize buffer len).length = len := by
  simp only [resize, List.length_append, List.length_take, List.length_replicate]
  omega

end EventCollector
