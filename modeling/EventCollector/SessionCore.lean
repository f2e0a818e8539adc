import EventCollector.Lib.Machine
import EventCollector.Validation

/-!
`Session` of `src/collector/collector.cpp`. Its state is what the handlers read
and write together with the operations that Asio holds for it: at most one
`async_read`, which fills its buffer in place as bytes arrive, and the waits on
the timer. A completion is queued first and its handler runs in a later step.
-/

namespace EventCollector

inductive Stage
  | header
  | body
  deriving DecidableEq

/-- `pending` has put `filled` bytes into its buffer; `ready` is a queued
completion, with or without an error. -/
inductive ReadOp
  | idle
  | pending (stage : Stage) (filled : Nat)
  | ready (stage : Stage) (failed : Bool)
  deriving DecidableEq

/-- Waits on `timer_` are outstanding, queued without an error, or queued with
`operation_aborted`. -/
structure Session where
  socketOpen : Bool
  header : Bytes
  body : Bytes
  read : ReadOp
  waits : Nat
  expired : Nat
  aborted : Nat
  cleanedUp : Bool
  deriving DecidableEq

inductive SessionAction
  | offer (data : Bytes)
  | drop
  | reject (len : UInt32)
  | release
  deriving DecidableEq

/-- `accepted` is the answer of `try_push`, read by the body handler only. -/
inductive SessionLabel
  | receive (chunk : Bytes)
  | readFails
  | runRead (accepted : Bool)
  | expire
  | runExpired
  | runAborted
  deriving DecidableEq

def payloadLength (header : Bytes) : UInt32 :=
  (header.getD 0 0).toUInt32
    ||| ((header.getD 1 0).toUInt32 <<< 8)
    ||| ((header.getD 2 0).toUInt32 <<< 16)
    ||| ((header.getD 3 0).toUInt32 <<< 24)

def overwrite (buffer : Bytes) (offset : Nat) (chunk : Bytes) : Bytes :=
  buffer.take offset ++ chunk ++ buffer.drop (offset + chunk.length)

def resize (buffer : Bytes) (len : Nat) : Bytes :=
  buffer.take len ++ List.replicate (len - buffer.length) 0

namespace Session

def buffer (session : Session) : Stage → Bytes
  | .header => session.header
  | .body => session.body

def store (session : Session) (stage : Stage) (content : Bytes) : Session :=
  match stage with
  | .header => { session with header := content }
  | .body => { session with body := content }

def cleanup (session : Session) : Session × List SessionAction :=
  if session.cleanedUp then (session, [])
  else ({ session with cleanedUp := true }, [.release])

/-- `timer_.expires_after`: cancels the outstanding waits and starts none. -/
def expiresAfter (session : Session) : Session :=
  { session with waits := 0, aborted := session.aborted + session.waits }

def startTimeout (session : Session) : Session :=
  let session := session.expiresAfter
  { session with waits := session.waits + 1 }

def doReadHeader (session : Session) : Session :=
  { session with read := .pending .header 0 }

def doReadBody (session : Session) : Session :=
  { session with read := .pending .body 0 }

def start (session : Session) : Session := session.startTimeout.doReadHeader

def onTimeout (session : Session) : Session × List SessionAction :=
  { session with socketOpen := false }.cleanup

def headerRead (session : Session) (failed : Bool) : Session × List SessionAction :=
  if !failed then
    let len := payloadLength session.header
    if len > 0 ∧ len < 102400 then
      ({ session with body := resize session.body len.toNat }.doReadBody, [])
    else
      let (session, actions) := { session with socketOpen := false }.cleanup
      (session, .reject len :: actions)
  else session.cleanup

def bodyRead (session : Session) (failed accepted : Bool) : Session × List SessionAction :=
  if !failed then
    (session.expiresAfter.doReadHeader,
      .offer session.body :: if accepted then [] else [.drop])
  else session.cleanup

def receive (session : Session) (stage : Stage) (filled : Nat) (chunk : Bytes) : Session :=
  { session.store stage (overwrite (session.buffer stage) filled chunk) with
    read := if filled + chunk.length = (session.buffer stage).length then .ready stage false
      else .pending stage (filled + chunk.length) }

def step (session : Session) : SessionLabel → Option (Session × List SessionAction)
  | .receive chunk =>
      match session.read with
      | .pending stage filled =>
          if session.socketOpen ∧ chunk ≠ [] ∧
              filled + chunk.length ≤ (session.buffer stage).length then
            some (session.receive stage filled chunk, [])
          else none
      | _ => none
  | .readFails =>
      match session.read with
      | .pending stage _ => some ({ session with read := .ready stage true }, [])
      | _ => none
  | .runRead accepted =>
      match session.read with
      | .ready .header failed => some ({ session with read := .idle }.headerRead failed)
      | .ready .body failed => some ({ session with read := .idle }.bodyRead failed accepted)
      | _ => none
  | .expire =>
      if 0 < session.waits then
        some ({ session with waits := 0, expired := session.expired + session.waits }, [])
      else none
  | .runExpired =>
      if 0 < session.expired then
        some ({ session with expired := session.expired - 1 }.onTimeout)
      else none
  | .runAborted =>
      if 0 < session.aborted then
        some ({ session with aborted := session.aborted - 1 }, [])
      else none

def opened : Session where
  socketOpen := true
  header := [0, 0, 0, 0]
  body := []
  read := .idle
  waits := 0
  expired := 0
  aborted := 0
  cleanedUp := false

end Session

structure Connection where
  session : Session
  inbound : Bytes
  actions : List SessionAction
  deriving DecidableEq

namespace Connection

def step (connection : Connection) (label : SessionLabel) : Option Connection :=
  (connection.session.step label).map fun (session, actions) =>
    { session := session
      inbound := match label with
        | .receive chunk => connection.inbound ++ chunk
        | _ => connection.inbound
      actions := connection.actions ++ actions }

end Connection

def SessionAction.offered : SessionAction → Option Bytes
  | .offer data => some data
  | _ => none

def Connection.offers (connection : Connection) : List Bytes :=
  connection.actions.filterMap SessionAction.offered

def Connection.rejected (connection : Connection) : Prop :=
  ∃ len, SessionAction.reject len ∈ connection.actions

def connectionMachine : Machine Connection SessionLabel where
  initial := ⟨Session.opened.start, [], []⟩
  step := Connection.step

end EventCollector
