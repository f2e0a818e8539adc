import EventCollector.Lib.PrefixCode
import EventCollector.Session
import Mathlib.Algebra.Group.Nat.Defs

/-!
The header and body reads as a decoder: what a session offers to the queue is
what the bytes delivered to it encode, for every way they are cut into chunks.
-/

namespace EventCollector

open PrefixCode

/-- `struct.pack('<I', len)`. -/
def packLength (len : Nat) : Bytes :=
  [UInt8.ofNat len, UInt8.ofNat (len / 256), UInt8.ofNat (len / 65536),
    UInt8.ofNat (len / 16777216)]

theorem packLength_length (len : Nat) : (packLength len).length = 4 := rfl

theorem shift_or (low high width : Nat) (small : low < 2 ^ width) :
    low ||| high <<< width = low + high * 2 ^ width := by
  rw [Nat.or_comm, ← Nat.shiftLeft_add_eq_or_of_lt small, Nat.shiftLeft_eq, Nat.add_comm]

theorem payloadLength_toNat (first second third fourth : UInt8) :
    (payloadLength [first, second, third, fourth]).toNat =
      first.toNat + second.toNat * 2 ^ 8 + third.toNat * 2 ^ 16 + fourth.toNat * 2 ^ 24 := by
  have firstSmall := first.toNat_lt
  have secondSmall := second.toNat_lt
  have thirdSmall := third.toNat_lt
  have fourthSmall := fourth.toNat_lt
  have noWrap (byte : UInt8) (width : Nat) (fits : byte.toNat * 2 ^ width < 2 ^ 32) :
      (byte.toNat <<< width) % 2 ^ 32 = byte.toNat <<< width :=
    Nat.mod_eq_of_lt (by rwa [Nat.shiftLeft_eq])
  have asNat : (payloadLength [first, second, third, fourth]).toNat =
      first.toNat ||| (second.toNat <<< 8) % 2 ^ 32 ||| (third.toNat <<< 16) % 2 ^ 32 |||
        (fourth.toNat <<< 24) % 2 ^ 32 := by
    simp [payloadLength]
  rw [asNat, noWrap second 8 (by omega), noWrap third 16 (by omega), noWrap fourth 24 (by omega),
    shift_or _ _ 8 firstSmall, shift_or _ _ 16 (by omega), shift_or _ _ 24 (by omega)]

theorem header_cases {header : Bytes} (size : header.length = 4) :
    ∃ first second third fourth, header = [first, second, third, fourth] := by
  match header, size with
  | [first, second, third, fourth], _ => exact ⟨first, second, third, fourth, rfl⟩

theorem pack_payloadLength {header : Bytes} (size : header.length = 4) :
    packLength (payloadLength header).toNat = header := by
  obtain ⟨first, second, third, fourth, rfl⟩ := header_cases size
  have firstSmall := first.toNat_lt
  have secondSmall := second.toNat_lt
  have thirdSmall := third.toNat_lt
  have fourthSmall := fourth.toNat_lt
  rw [payloadLength_toNat, packLength]
  simp only [List.cons.injEq, and_true, ← UInt8.toNat_inj, UInt8.toNat_ofNat']
  refine ⟨?_, ?_, ?_, ?_⟩ <;> omega

theorem payloadLength_pack {len : Nat} (bounded : len < 2 ^ 32) :
    (payloadLength (packLength len)).toNat = len := by
  rw [packLength, payloadLength_toNat]
  simp only [UInt8.toNat_ofNat']
  omega

/-! The frames of the protocol. -/

theorem frame_prefix {header part message : Bytes} (size : header.length = 4)
    (bounded : message.length < 2 ^ 32)
    (starts : packLength message.length ++ message <+: header ++ part) :
    message.length = (payloadLength header).toNat ∧ message <+: part := by
  obtain ⟨more, split⟩ := starts
  rw [List.append_assoc] at split
  obtain ⟨sameHeader, sameBody⟩ :=
    List.append_inj split (by rw [packLength_length, size])
  refine ⟨?_, more, sameBody⟩
  rw [← sameHeader, payloadLength_pack bounded]

def Admissible (message : Bytes) : Prop := 1 ≤ message.length ∧ message.length ≤ 102399

def frameCode : PrefixCode Bytes UInt8 where
  admissible := Admissible
  encode message := packLength message.length ++ message
  nonempty message _ empty := by
    have impossible := congrArg List.length empty
    simp [packLength_length] at impossible
  apart first second admissible admissible' starts := by
    obtain ⟨_, small⟩ := admissible
    obtain ⟨_, small'⟩ := admissible'
    obtain ⟨same, shorter⟩ := frame_prefix (packLength_length _) (by omega) starts
    rw [payloadLength_pack (by omega)] at same
    exact shorter.eq_of_length same

theorem stuck_of_short {rest : Bytes} (short : rest.length ≤ 4) : frameCode.Stuck rest := by
  intro message admissible starts
  have long := starts.length_le
  have positive : 1 ≤ message.length := admissible.1
  simp only [frameCode, List.length_append, packLength_length] at long
  omega

theorem stuck_of_header {header part : Bytes} (size : header.length = 4)
    (stuck : part.length < (payloadLength header).toNat ∨
      ¬ (0 < (payloadLength header).toNat ∧ (payloadLength header).toNat < 102400)) :
    frameCode.Stuck (header ++ part) := by
  intro message admissible starts
  obtain ⟨positive, small⟩ := admissible
  obtain ⟨same, inPart⟩ := frame_prefix size (by omega) starts
  have shorter := inPart.length_le
  omega

/-! What a session has read and not offered yet. -/

def Sized (session : Session) : Prop :=
  Admissible session.body ∧ session.body.length = (payloadLength session.header).toNat

def Reading (session : Session) (rest : Bytes) : Prop :=
  match session.read with
  | .pending .header filled => filled < 4 ∧ rest = session.header.take filled
  | .ready .header false => rest = session.header
  | .pending .body filled => Sized session ∧ filled < session.body.length ∧
      rest = session.header ++ session.body.take filled
  | .ready .body false => Sized session ∧ rest = session.header ++ session.body
  | .ready _ true | .idle => frameCode.Stuck rest

structure Framed (connection : Connection) (rest : Bytes) : Prop where
  size : connection.session.header.length = 4
  split : connection.inbound = frameCode.encodeAll connection.offers ++ rest
  admissible : ∀ message ∈ connection.offers, Admissible message
  reading : Reading connection.session rest
  rejected : connection.rejected → connection.session.read = .idle ∧
    ∀ junk, frameCode.Stuck (rest ++ junk)

theorem reading_stuck {session : Session} {rest : Bytes} (size : session.header.length = 4)
    (reading : Reading session rest) (waiting : session.read ≠ .ready .body false) :
    frameCode.Stuck rest := by
  unfold Reading at reading
  split at reading
  · obtain ⟨partial_, rfl⟩ := reading
    exact stuck_of_short (by rw [List.length_take]; omega)
  · subst reading
    exact stuck_of_short (by omega)
  · obtain ⟨sized, missing, rfl⟩ := reading
    refine stuck_of_header size (Or.inl ?_)
    rw [← sized.2, List.length_take]
    omega
  · rename_i ready
    exact absurd ready waiting
  · exact reading
  · exact reading

theorem reading_congr {session next : Session} {rest : Bytes} (reading : Reading session rest)
    (read : next.read = session.read) (header : next.header = session.header)
    (body : next.body = session.body) : Reading next rest := by
  unfold Reading Sized at reading ⊢
  rw [read, header, body]
  exact reading

theorem receive_reading {session : Session} {stage : Stage} {filled : Nat} {chunk rest : Bytes}
    (size : session.header.length = 4) (pending : session.read = .pending stage filled)
    (fits : filled + chunk.length ≤ (session.buffer stage).length)
    (reading : Reading session rest) :
    Reading (session.receive stage filled chunk) (rest ++ chunk) := by
  have kept := take_overwrite fits
  have same := overwrite_length fits
  cases stage with
  | header =>
      simp only [Reading, pending] at reading
      obtain ⟨-, rfl⟩ := reading
      simp only [Session.buffer, size] at kept same fits
      by_cases full : filled + chunk.length = 4
      · simp only [Reading, Session.receive, Session.buffer, Session.store, size, full, if_true]
        rw [← kept, full, List.take_of_length_le (by omega)]
      · simp only [Reading, Session.receive, Session.buffer, Session.store, size, full, if_false]
        exact ⟨by omega, kept.symm⟩
  | body =>
      simp only [Reading, pending] at reading
      obtain ⟨sized, -, rfl⟩ := reading
      simp only [Session.buffer] at kept same fits
      have resized : Admissible (overwrite session.body filled chunk) ∧
          (overwrite session.body filled chunk).length = (payloadLength session.header).toNat := by
        rw [Admissible, same]
        exact sized
      by_cases full : filled + chunk.length = session.body.length
      · simp only [Reading, Session.receive, Session.buffer, Session.store, full, if_true]
        refine ⟨resized, ?_⟩
        rw [List.append_assoc, ← kept, full, List.take_of_length_le (by omega)]
      · simp only [Reading, Session.receive, Session.buffer, Session.store, full, if_false]
        refine ⟨resized, by omega, ?_⟩
        rw [List.append_assoc, ← kept]

theorem receive_header {session : Session} {stage : Stage} {filled : Nat} {chunk : Bytes}
    (size : session.header.length = 4)
    (fits : filled + chunk.length ≤ (session.buffer stage).length) :
    (session.receive stage filled chunk).header.length = 4 := by
  cases stage with
  | header => exact (overwrite_length fits).trans size
  | body => exact size

theorem silent_offers {actions : List SessionAction}
    (silent : ∀ action ∈ actions, action = .release) :
    actions.filterMap SessionAction.offered = [] := by
  rw [List.filterMap_eq_nil_iff]
  intro action member
  rw [silent action member]
  rfl

theorem framed_quiet {connection : Connection} {rest rest' chunk : Bytes} {session : Session}
    {actions : List SessionAction} (holds : Framed connection rest)
    (active : connection.session.read ≠ .idle ∨ session.read = .idle ∧ chunk = [])
    (size : session.header.length = 4) (grows : rest' = rest ++ chunk)
    (reading : Reading session rest')
    (silent : ∀ action ∈ actions, action = .release) :
    Framed ⟨session, connection.inbound ++ chunk, connection.actions ++ actions⟩ rest' := by
  have offers : (connection.actions ++ actions).filterMap SessionAction.offered =
      connection.offers := by
    rw [List.filterMap_append, silent_offers silent, List.append_nil]
    rfl
  constructor
  · exact size
  · simp only [Connection.offers, offers, grows, holds.split, List.append_assoc]
  · simpa only [Connection.offers, offers] using holds.admissible
  · exact reading
  · rintro ⟨len, member⟩
    rcases List.mem_append.mp member with earlier | now
    · obtain ⟨idle, stuck⟩ := holds.rejected ⟨len, earlier⟩
      rcases active with active | ⟨still, nothing⟩
      · exact absurd idle active
      · subst nothing
        refine ⟨still, fun junk => ?_⟩
        rw [grows, List.append_nil]
        exact stuck junk
    · exact absurd (silent _ now) (by simp)

theorem offers_bodyRead (connection : Connection) (body : Bytes) (accepted : Bool) :
    (connection.actions ++ (SessionAction.offer body :: if accepted then [] else [.drop])).filterMap
      SessionAction.offered = connection.offers ++ [body] := by
  cases accepted <;>
    simp [Connection.offers, SessionAction.offered]

/-- A body that has been read in full makes a frame with its header. -/
theorem framed_ready {connection : Connection} {rest : Bytes} (holds : Framed connection rest)
    (ready : connection.session.read = .ready .body false) :
    rest = frameCode.encode connection.session.body ∧
      ∀ message ∈ connection.offers ++ [connection.session.body], Admissible message := by
  obtain ⟨sized, rfl⟩ : Sized connection.session ∧
      rest = connection.session.header ++ connection.session.body := by
    simpa only [Reading, ready] using holds.reading
  constructor
  · simp only [frameCode, sized.2, pack_payloadLength holds.size]
  · intro message member
    rcases List.mem_append.mp member with earlier | last
    · exact holds.admissible message earlier
    · exact List.mem_singleton.mp last ▸ sized.1

theorem framed_bodyRead {connection : Connection} {rest : Bytes} {session : Session}
    {accepted : Bool} (holds : Framed connection rest)
    (ready : connection.session.read = .ready .body false)
    (size : session.header.length = 4) (next : session.read = .pending .header 0) :
    Framed ⟨session, connection.inbound ++ [], connection.actions ++
      (SessionAction.offer connection.session.body :: if accepted then [] else [.drop])⟩ [] := by
  obtain ⟨frame, admissible⟩ := framed_ready holds ready
  have offers := offers_bodyRead connection connection.session.body accepted
  constructor
  · exact size
  · rw [Connection.offers, offers, encodeAll_append, encodeAll_cons, encodeAll_nil, holds.split,
      frame]
    simp only [List.append_nil]
  · rw [Connection.offers, offers]
    exact admissible
  · simp [Reading, next]
  · rintro ⟨len, member⟩
    rcases List.mem_append.mp member with earlier | now
    · simp [(holds.rejected ⟨len, earlier⟩).1] at ready
    · cases accepted <;> simp at now

theorem framed_reject {connection : Connection} {rest : Bytes} {session : Session}
    {actions : List SessionAction} {len : UInt32} (holds : Framed connection rest)
    (ready : connection.session.read = .ready .header false)
    (invalid : ¬ (0 < (payloadLength connection.session.header).toNat ∧
      (payloadLength connection.session.header).toNat < 102400))
    (size : session.header.length = 4) (idle : session.read = .idle)
    (silent : ∀ action ∈ actions, action = .release) :
    Framed ⟨session, connection.inbound ++ [],
      connection.actions ++ .reject len :: actions⟩ rest := by
  obtain rfl : rest = connection.session.header := by
    simpa only [Reading, ready] using holds.reading
  have offers : (connection.actions ++ SessionAction.reject len :: actions).filterMap
      SessionAction.offered = connection.offers := by
    rw [List.filterMap_append, List.filterMap_cons_none rfl, silent_offers silent,
      List.append_nil]
    rfl
  have stuck (junk : Bytes) : frameCode.Stuck (connection.session.header ++ junk) :=
    stuck_of_header holds.size (Or.inr invalid)
  constructor
  · exact size
  · rw [Connection.offers, offers, List.append_nil, holds.split]
  · simpa only [Connection.offers, offers] using holds.admissible
  · simp only [Reading, idle]
    simpa using stuck []
  · exact fun _ => ⟨idle, stuck⟩

theorem framed_step {connection : Connection} {rest : Bytes} {label : SessionLabel}
    {session : Session} {actions : List SessionAction} (holds : Framed connection rest)
    (moved : SessionMove connection.session label session actions) :
    ∃ rest', Framed
      ⟨session, connection.inbound ++ label.delivered, connection.actions ++ actions⟩ rest' := by
  have silent (cleanedUp : Bool) :
      ∀ action ∈ if cleanedUp then [] else [SessionAction.release], action = .release := by
    cases cleanedUp <;> simp
  have unread (still : session.read = connection.session.read) :
      connection.session.read ≠ .idle ∨ session.read = .idle ∧ ([] : Bytes) = [] := by
    by_cases idle : connection.session.read = .idle
    · exact Or.inr ⟨still.trans idle, rfl⟩
    · exact Or.inl idle
  have size := holds.size
  cases moved with
  | receive pending _ _ fits =>
      exact ⟨_, framed_quiet holds (Or.inl (by simp [pending])) (receive_header size fits) rfl
        (receive_reading size pending fits holds.reading) (by simp)⟩
  | @readFails stage _ pending =>
      have stuck := reading_stuck size holds.reading (by simp [pending])
      refine ⟨rest, framed_quiet holds (Or.inl (by simp [pending])) size
        (List.append_nil rest).symm ?_ (by simp)⟩
      cases stage <;> exact stuck
  | accept ready positive small =>
      have whole : rest = connection.session.header := by
        simpa only [Reading, ready] using holds.reading
      refine ⟨rest, framed_quiet holds (Or.inl (by simp [ready])) size
        (List.append_nil rest).symm ?_ (by simp)⟩
      simp only [Reading, Sized, Admissible, resize_length]
      refine ⟨⟨⟨by omega, by omega⟩, trivial⟩, by omega, ?_⟩
      rw [List.take_zero, List.append_nil, whole]
  | reject ready invalid =>
      exact ⟨rest, framed_reject holds ready invalid size rfl (silent _)⟩
  | bodyRead ready => exact ⟨[], framed_bodyRead holds ready size rfl⟩
  | closed ready =>
      have stuck := reading_stuck size holds.reading (by simp [ready])
      exact ⟨rest, framed_quiet holds (Or.inl (by simp [ready])) size (List.append_nil rest).symm
        stuck (silent _)⟩
  | expire _ =>
      exact ⟨rest, framed_quiet holds (unread rfl) size (List.append_nil rest).symm
        (reading_congr holds.reading rfl rfl rfl) (by simp)⟩
  | timeout _ =>
      exact ⟨rest, framed_quiet holds (unread rfl) size (List.append_nil rest).symm
        (reading_congr holds.reading rfl rfl rfl) (silent _)⟩
  | aborted _ =>
      exact ⟨rest, framed_quiet holds (unread rfl) size (List.append_nil rest).symm
        (reading_congr holds.reading rfl rfl rfl) (by simp)⟩

theorem connectionMachine_framed {connection : Connection}
    (reachable : connectionMachine.Reachable connection) :
    ∃ rest, Framed connection rest := by
  refine Machine.reachable_invariant (fun connection => ∃ rest, Framed connection rest) ?_ ?_
    reachable
  · refine ⟨[], rfl, rfl, ?_, ⟨by omega, rfl⟩, ?_⟩
    · simp [connectionMachine, Connection.offers]
    · rintro ⟨len, member⟩
      simp [connectionMachine] at member
  · rintro connection label next ⟨rest, holds⟩ stepped
    obtain ⟨session, actions, moved, rfl⟩ := connectionStep_move stepped
    exact framed_step holds moved

theorem connection_longest {connection : Connection} {rest : Bytes}
    (holds : Framed connection rest) (waiting : connection.session.read ≠ .ready .body false) :
    frameCode.Longest connection.offers connection.inbound := by
  rw [holds.split]
  exact longest_of_stuck holds.admissible (reading_stuck holds.size holds.reading waiting)

theorem rejected_longest {connection : Connection} {rest : Bytes}
    (holds : Framed connection rest) (rejected : connection.rejected) (junk : Bytes) :
    frameCode.Longest connection.offers (connection.inbound ++ junk) := by
  rw [holds.split, List.append_assoc]
  exact longest_of_stuck holds.admissible ((holds.rejected rejected).2 junk)

/-- The body that has been read in full and whose handler has still to run. Once the reads
of a connection have ended there is none. -/
def Connection.unhandled (connection : Connection) : List Bytes :=
  match connection.session.read with
  | .ready .body false => [connection.session.body]
  | _ => []

/-- With that body, the offered ones are at every moment all that the delivered bytes hold. -/
theorem unhandled_longest {connection : Connection} {rest : Bytes}
    (holds : Framed connection rest) :
    frameCode.Longest (connection.offers ++ connection.unhandled) connection.inbound := by
  unfold Connection.unhandled
  split
  · rename_i ready
    obtain ⟨frame, admissible⟩ := framed_ready holds ready
    have whole : connection.inbound =
        frameCode.encodeAll (connection.offers ++ [connection.session.body]) := by
      rw [holds.split, frame, encodeAll_append, encodeAll_cons, encodeAll_nil, List.append_nil]
    exact whole ▸ longest_encodeAll admissible
  · rename_i waiting
    rw [List.append_nil]
    exact connection_longest holds waiting

/-! Every byte string can be delivered. -/

def Listening (connection : Connection) : Prop :=
  connection.session.socketOpen = true ∧
    ∃ stage filled, connection.session.read = .pending stage filled

theorem runRead_enabled {connection : Connection} {stage : Stage} {failed : Bool}
    (ready : connection.session.read = .ready stage failed) :
    ∃ next, connectionMachine.step connection (.runRead true) = some next := by
  cases stage <;>
    simp [connectionMachine, Connection.step, Session.step, ready]

theorem runHandler_listens {connection : Connection} {stage : Stage}
    (isOpen : connection.session.socketOpen = true)
    (ready : connection.session.read = .ready stage false) :
    ∃ next, connectionMachine.step connection (.runRead true) = some next ∧
      next.inbound = connection.inbound ∧
      (Listening next ∨ next.session.read = .idle ∧ next.rejected) := by
  obtain ⟨next, ran⟩ := runRead_enabled ready
  obtain ⟨session, actions, moved, rfl⟩ := connectionStep_move ran
  refine ⟨_, ran, List.append_nil _, ?_⟩
  cases moved with
  | accept _ _ _ => exact Or.inl ⟨isOpen, .body, 0, rfl⟩
  | reject _ _ => exact Or.inr ⟨rfl, payloadLength connection.session.header, by simp⟩
  | bodyRead _ => exact Or.inl ⟨isOpen, .header, 0, rfl⟩
  | closed failed => simp [ready] at failed

theorem byte_listens {connection : Connection} {rest : Bytes} (holds : Framed connection rest)
    (listening : Listening connection) (byte : UInt8) :
    ∃ labels next, connectionMachine.run connection labels = some next ∧
      next.inbound = connection.inbound ++ [byte] ∧
      (Listening next ∨ next.session.read = .idle ∧ next.rejected) := by
  obtain ⟨isOpen, stage, filled, pending⟩ := listening
  have room : filled + 1 ≤ (connection.session.buffer stage).length := by
    have reading := holds.reading
    cases stage with
    | header =>
        simp only [Reading, pending] at reading
        simp only [Session.buffer, holds.size]
        omega
    | body =>
        simp only [Reading, pending] at reading
        exact reading.2.1
  let middle : Connection :=
    ⟨connection.session.receive stage filled [byte], connection.inbound ++ [byte],
      connection.actions ++ []⟩
  have received : connectionMachine.step connection (.receive [byte]) = some middle := by
    simp [connectionMachine, Connection.step, Session.step, pending, isOpen, room, middle]
  have stillOpen : middle.session.socketOpen = true := by
    cases stage <;> exact isOpen
  by_cases full : filled + 1 = (connection.session.buffer stage).length
  · have ready : middle.session.read = .ready stage false := by
      simp [middle, Session.receive, full]
    obtain ⟨next, ran, inbound, outcome⟩ := runHandler_listens stillOpen ready
    exact ⟨[.receive [byte], .runRead true], next, Machine.run_cons_some.mpr
      ⟨middle, received, Machine.run_cons_some.mpr ⟨next, ran, rfl⟩⟩, inbound, outcome⟩
  · have waiting : middle.session.read = .pending stage (filled + 1) := by
      simp [middle, Session.receive, full]
    exact ⟨[.receive [byte]], middle, Machine.run_cons_some.mpr ⟨middle, received, rfl⟩, rfl,
      Or.inl ⟨stillOpen, stage, filled + 1, waiting⟩⟩

theorem listening_ends {connection : Connection} (listening : Listening connection) :
    ∃ labels next, connectionMachine.run connection labels = some next ∧
      next.inbound = connection.inbound ∧ next.session.read = .idle := by
  obtain ⟨-, stage, filled, pending⟩ := listening
  let failed : Connection :=
    ⟨{ connection.session with read := .ready stage true }, connection.inbound,
      connection.actions ++ []⟩
  have fails : connectionMachine.step connection .readFails = some failed := by
    simp [connectionMachine, Connection.step, Session.step, pending, failed]
  have queued : failed.session.read = .ready stage true := rfl
  obtain ⟨next, ran⟩ := runRead_enabled queued
  obtain ⟨session, actions, moved, rfl⟩ := connectionStep_move ran
  refine ⟨[.readFails, .runRead true], _, Machine.run_cons_some.mpr
    ⟨failed, fails, Machine.run_cons_some.mpr ⟨_, ran, rfl⟩⟩, List.append_nil _, ?_⟩
  cases moved with
  | accept ready _ _ => simp [queued] at ready
  | reject ready _ => simp [queued] at ready
  | bodyRead ready => simp [queued] at ready
  | closed _ => rfl

theorem stream_delivered {connection : Connection}
    (reachable : connectionMachine.Reachable connection) (listening : Listening connection)
    (stream : Bytes) :
    ∃ next, connectionMachine.Reachable next ∧ next.session.read = .idle ∧
      ∃ unread, next.inbound ++ unread = connection.inbound ++ stream ∧
        (unread ≠ [] → next.rejected) := by
  induction stream generalizing connection with
  | nil =>
      obtain ⟨labels, next, reached, inbound, idle⟩ := listening_ends listening
      exact ⟨next, reachable.run reached, idle, [], by rw [inbound], by simp⟩
  | cons byte stream ih =>
      obtain ⟨rest, holds⟩ := connectionMachine_framed reachable
      obtain ⟨labels, middle, reached, inbound, outcome⟩ := byte_listens holds listening byte
      have onward := reachable.run reached
      rcases outcome with listens | ⟨idle, rejected⟩
      · obtain ⟨next, final, idle, unread, split, rejects⟩ := ih onward listens
        refine ⟨next, final, idle, unread, ?_, rejects⟩
        rw [split, inbound, List.append_assoc, List.singleton_append]
      · refine ⟨middle, onward, idle, stream, ?_, fun _ => rejected⟩
        rw [inbound, List.append_assoc, List.singleton_append]

/-- The bodies offered are the longest list of admissible messages whose frames
begin the delivered bytes: at any moment but between the completion of a body and
its handler, so in particular when the connection has ended. -/
theorem connectionMachine_framesExactly :
    (∀ connection, connectionMachine.Reachable connection →
      connection.session.read ≠ .ready .body false →
      frameCode.Longest connection.offers connection.inbound ∧
      (connection.rejected → ∀ junk,
        frameCode.Longest connection.offers (connection.inbound ++ junk)) ∧
      (∀ messages, (∀ message ∈ messages, Admissible message) →
        connection.inbound = frameCode.encodeAll messages → connection.offers = messages) ∧
      (∀ messages message cut, (∀ message ∈ messages, Admissible message) →
        Admissible message → cut <+: frameCode.encode message →
        cut ≠ frameCode.encode message →
        connection.inbound = frameCode.encodeAll messages ++ cut →
        connection.offers = messages)) ∧
    (∀ stream, ∃ connection, connectionMachine.Reachable connection ∧
      connection.session.read = .idle ∧
      frameCode.Longest connection.offers stream ∧
      ∃ unread, connection.inbound ++ unread = stream ∧
        (unread ≠ [] → connection.rejected)) := by
  refine ⟨?_, ?_⟩
  · intro connection reachable waiting
    obtain ⟨rest, holds⟩ := connectionMachine_framed reachable
    have longest := connection_longest holds waiting
    refine ⟨longest, rejected_longest holds, ?_, ?_⟩
    · intro messages admissible encoded
      rw [encoded] at longest
      exact longest.eq (longest_encodeAll admissible)
    · intro messages message cut admissible last starts proper encoded
      rw [encoded] at longest
      exact longest.eq (longest_of_stuck admissible (stuck_of_truncated last starts proper))
  · intro stream
    obtain ⟨next, reachable, idle, unread, split, rejects⟩ :=
      stream_delivered (Machine.Reachable.start connectionMachine) ⟨rfl, .header, 0, rfl⟩ stream
    obtain ⟨rest, holds⟩ := connectionMachine_framed reachable
    rw [show connectionMachine.initial.inbound = [] from rfl, List.nil_append] at split
    refine ⟨next, reachable, idle, ?_, unread, split, rejects⟩
    rw [← split]
    by_cases all : unread = []
    · rw [all, List.append_nil]
      exact connection_longest holds (by simp [idle])
    · exact rejected_longest holds (rejects all) unread

theorem connectionMachine_framesExactly_chunked : frameCode.Longest [[65, 66], [67]]
    [2, 0, 0, 0, 65, 66, 1, 0, 0, 0, 67, 0, 0, 0, 0, 1, 0, 0, 0, 68] := by
  let final : Connection :=
    { session :=
        { socketOpen := false, header := [0, 0, 0, 0], body := [67], read := .idle, waits := 0,
          expired := 0, aborted := 1, cleanedUp := true }
      inbound := [2, 0, 0, 0, 65, 66, 1, 0, 0, 0, 67, 0, 0, 0, 0]
      actions := [.offer [65, 66], .offer [67], .drop, .reject 0, .release] }
  have reachable : connectionMachine.Reachable final :=
    ⟨[.receive [2, 0, 0], .receive [0], .runRead true, .receive [65], .receive [66],
      .runRead true, .receive [1], .receive [0, 0, 0], .runRead true, .receive [67],
      .runRead false, .receive [0, 0, 0, 0], .runRead true], rfl⟩
  exact ((connectionMachine_framesExactly.1 final reachable (by decide)).2.1
    ⟨0, by decide⟩) [1, 0, 0, 0, 68]

end EventCollector
