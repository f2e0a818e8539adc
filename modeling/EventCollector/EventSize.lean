import EventCollector.EventEncoding
import EventCollector.SessionFraming

/-!
The frame cap of `src/collector/collector.cpp` beside the field limits of
`src/processor/validation.cpp`: how long the encoding of a valid event can be, and
that `do_read_header` lets its frame pass.
-/

namespace EventCollector

open PrefixCode

/-! Lengths of the parts of an encoding. -/

theorem varintGroups_pos (left value : Nat) : 1 ≤ (varintGroups left value).length := by
  cases left with
  | zero => exact Nat.le_refl 1
  | succ left =>
      simp only [varintGroups]
      split <;> simp

theorem varintGroups_length_le {more left value : Nat} (bounded : value < 128 ^ (more + 1)) :
    (varintGroups left value).length ≤ more + 1 := by
  induction left generalizing more value with
  | zero => simp [varintGroups]
  | succ left ih =>
      simp only [varintGroups]
      by_cases small : value < 128
      · simp [small]
      · cases more with
        | zero => exact absurd bounded small
        | succ more =>
            have rest : value / 128 < 128 ^ (more + 1) :=
              Nat.div_lt_of_lt_mul (by rwa [Nat.mul_comm, ← Nat.pow_succ])
            have shorter := ih rest
            simp only [small, if_false, List.length_cons]
            omega

theorem le_varintGroups_length {more left value : Nat} (room : more ≤ left)
    (large : 128 ^ more ≤ value) : more + 1 ≤ (varintGroups left value).length := by
  induction more generalizing left value with
  | zero => exact varintGroups_pos left value
  | succ more ih =>
      obtain ⟨left, rfl⟩ : ∃ fewer, left = fewer + 1 := ⟨left - 1, by omega⟩
      have whole : 128 ^ more * 128 ≤ value := by rwa [Nat.pow_succ] at large
      have positive : 0 < 128 ^ more := Nat.pow_pos (by omega)
      have notSmall : ¬ value < 128 := by omega
      have longer := ih (Nat.le_of_succ_le_succ room)
        ((Nat.le_div_iff_mul_le (by omega)).mpr whole)
      simp only [varintGroups, notSmall, if_false, List.length_cons]
      omega

theorem varint_length_le {more : Nat} {value : UInt64} (bounded : value.toNat < 128 ^ (more + 1)) :
    (varint value).length ≤ more + 1 :=
  varintGroups_length_le bounded

theorem le_varint_length {more : Nat} {value : UInt64} (room : more ≤ 9)
    (large : 128 ^ more ≤ value.toNat) : more + 1 ≤ (varint value).length :=
  le_varintGroups_length room large

/-- `more` is the number of bytes that the length takes after its first one. -/
theorem lengthDelimited_length_le {limit : Nat} (more : Nat) (number : UInt8) {content : Bytes}
    (short : content.length ≤ limit) (bounded : limit < 128 ^ (more + 1)) :
    (lengthDelimited number content).length ≤ limit + more + 2 := by
  by_cases empty : content.isEmpty
  · simp [lengthDelimited, empty]
  · have wrapped : (UInt64.ofNat content.length).toNat ≤ content.length :=
      Nat.mod_le content.length (2 ^ 64)
    have sized : (varint (UInt64.ofNat content.length)).length ≤ more + 1 :=
      varint_length_le (Nat.lt_of_le_of_lt (Nat.le_trans wrapped short) bounded)
    simp only [lengthDelimited, empty, Bool.false_eq_true, if_false, List.length_append,
      List.length_cons]
    omega

theorem le_lengthDelimited_length (more : Nat) (number : UInt8) (content : Bytes)
    (room : more ≤ 9) (large : 128 ^ more ≤ content.length) (small : content.length < 2 ^ 64) :
    content.length + more + 2 ≤ (lengthDelimited number content).length := by
  have filled : content ≠ [] := by
    rintro rfl
    have positive : 0 < 128 ^ more := Nat.pow_pos (by omega)
    simp only [List.length_nil] at large
    omega
  have exactly : (UInt64.ofNat content.length).toNat = content.length := Nat.mod_eq_of_lt small
  have sized : more + 1 ≤ (varint (UInt64.ofNat content.length)).length :=
    le_varint_length room (by rwa [exactly])
  simp only [lengthDelimited, List.isEmpty_iff, filled, if_false, List.length_append,
    List.length_cons]
  omega

theorem varintField_length_le {more : Nat} (number : UInt8) {value : UInt64}
    (bounded : value.toNat < 128 ^ (more + 1)) :
    (varintField number value).length ≤ more + 2 := by
  by_cases zero : value = 0
  · simp [varintField, zero]
  · have sized := varint_length_le bounded
    simp only [varintField, zero, if_false, List.length_cons]
    omega

theorem le_varintField_length {more : Nat} (number : UInt8) {value : UInt64} (room : more ≤ 9)
    (large : 128 ^ more ≤ value.toNat) : more + 2 ≤ (varintField number value).length := by
  have positive : 0 < 128 ^ more := Nat.pow_pos (by omega)
  have filled : value ≠ 0 := by
    rintro rfl
    simp only [UInt64.toNat_zero] at large
    omega
  have sized := le_varint_length room large
  simp only [varintField, filled, if_false, List.length_cons]
  omega

/-! The whole message. -/

theorem encodeEvent_length (evt : Event) : (encodeEvent evt).length =
    (lengthDelimited 1 evt.eventId).length + (lengthDelimited 2 evt.userId).length +
      (lengthDelimited 3 evt.platform).length + (lengthDelimited 4 evt.eventType).length +
      (varintField 5 evt.ts.toUInt64).length + (lengthDelimited 6 evt.payload).length := by
  simp only [encodeEvent, List.length_append]

theorem Acceptable.encoded_le {clock : Int} {evt : Event} (acceptable : Acceptable clock evt)
    (short : evt.eventId.length ≤ 36261) : (encodeEvent evt).length ≤ 102399 := by
  have eventId := lengthDelimited_length_le 2 1 short (by decide)
  have userId := lengthDelimited_length_le 1 2 acceptable.userId.2 (by decide)
  have platform := lengthDelimited_length_le 0 3 acceptable.platform (by decide)
  have eventType := lengthDelimited_length_le 1 4 acceptable.eventType.2 (by decide)
  have payload := lengthDelimited_length_le 2 6 acceptable.payload (by decide)
  have fits : evt.ts.toUInt64.toNat < 128 ^ (8 + 1) := by
    have upper := evt.ts.toInt_lt
    have same := acceptable.unsigned
    omega
  have ts := varintField_length_le 5 fits
  rw [encodeEvent_length]
  omega

theorem Acceptable.encoded_pos {clock : Int} {evt : Event} (acceptable : Acceptable clock evt) :
    1 ≤ (encodeEvent evt).length := by
  have filled : ¬ evt.userId.isEmpty := by
    rw [List.isEmpty_iff_length_eq_zero]
    exact Nat.ne_of_gt acceptable.userId.1
  have present : 1 ≤ (lengthDelimited 2 evt.userId).length := by
    simp [lengthDelimited, filled]
  rw [encodeEvent_length]
  omega

/-- The cap cannot be lowered: with every field at its limit and a time stamp of nine
groups the frame is as long as the collector allows. -/
theorem encodeEvent_largest {evt : Event} (eventId : evt.eventId.length = 36261)
    (userId : evt.userId.length = 256) (platform : evt.platform.length = 64)
    (eventType : evt.eventType.length = 256) (payload : evt.payload.length = 65536)
    (late : 2 ^ 56 ≤ evt.ts.toUInt64.toNat) : 102399 ≤ (encodeEvent evt).length := by
  have eventId := le_lengthDelimited_length 2 1 evt.eventId (by omega) (by omega) (by omega)
  have userId := le_lengthDelimited_length 1 2 evt.userId (by omega) (by omega) (by omega)
  have platform := le_lengthDelimited_length 0 3 evt.platform (by omega) (by omega) (by omega)
  have eventType := le_lengthDelimited_length 1 4 evt.eventType (by omega) (by omega) (by omega)
  have payload := le_lengthDelimited_length 2 6 evt.payload (by omega) (by omega) (by omega)
  have ts := le_varintField_length 5 (by omega) (show 128 ^ 8 ≤ evt.ts.toUInt64.toNat by omega)
  rw [encodeEvent_length]
  omega

/-! Its frame in front of the collector. -/

theorem headerRead_accepts {session : Session} {len : Nat} (positive : 1 ≤ len)
    (small : len ≤ 102399) (header : session.header = packLength len) :
    session.headerRead false =
      ({ session with body := resize session.body len }.doReadBody, []) := by
  have size : (payloadLength session.header).toNat = len := by
    rw [header, payloadLength_pack (by omega)]
  have passes : payloadLength session.header > 0 ∧ payloadLength session.header < 102400 := by
    rw [gt_iff_lt, UInt32.lt_iff_toNat_lt, UInt32.lt_iff_toNat_lt, size]
    exact ⟨positive, Nat.lt_succ_of_le small⟩
  simp only [Session.headerRead, Bool.not_false, if_true, passes, and_self, size]

/-- While what has arrived is the start of frames of admissible lengths, none is refused. -/
theorem admissible_not_rejected {connection : Connection} {messages : List Bytes}
    (reachable : connectionMachine.Reachable connection)
    (admissible : ∀ message ∈ messages, Admissible message)
    (starts : connection.inbound <+: frameCode.encodeAll messages) : ¬ connection.rejected := by
  intro rejected
  obtain ⟨rest, holds⟩ := connectionMachine_framed reachable
  obtain ⟨later, whole⟩ := starts
  have longest := rejected_longest holds rejected later
  rw [whole] at longest
  have offered : connection.offers = messages := longest.eq (longest_encodeAll admissible)
  have nothing : rest = [] := by
    rw [holds.split, offered, List.append_assoc, List.append_right_eq_self,
      List.append_eq_nil_iff] at whole
    exact whole.1
  have stuck := (holds.rejected rejected).2 (frameCode.encode [0])
  rw [nothing, List.nil_append] at stuck
  exact stuck [0] (by simp [frameCode, Admissible]) List.prefix_rfl

/-- A valid event with an id of at most 36261 bytes has a frame that the collector
reads on after its header, whatever admissible frames came before it. -/
theorem validEvent_frame_passes (clock : Int) (evt : Event)
    (accepted : validateEvent clock evt = true) (short : evt.eventId.length ≤ 36261) :
    (1 ≤ (encodeEvent evt).length ∧ (encodeEvent evt).length ≤ 102399) ∧
    (∀ session : Session, session.header = packLength (encodeEvent evt).length →
      session.headerRead false =
        ({ session with body := resize session.body (encodeEvent evt).length }.doReadBody, [])) ∧
    ∀ earlier connection, (∀ message ∈ earlier, Admissible message) →
      connectionMachine.Reachable connection →
      connection.inbound <+: frameCode.encodeAll (earlier ++ [encodeEvent evt]) →
      ¬ connection.rejected := by
  have acceptable := (validateEvent_iff clock evt).mp accepted
  have positive := acceptable.encoded_pos
  have small := acceptable.encoded_le short
  refine ⟨⟨positive, small⟩, ?_, ?_⟩
  · intro session header
    exact headerRead_accepts positive small header
  · intro earlier connection admissible reachable starts
    refine admissible_not_rejected reachable ?_ starts
    intro message member
    rcases List.mem_append.mp member with before | now
    · exact admissible message before
    · exact List.mem_singleton.mp now ▸ ⟨positive, small⟩

/-- Every field at its limit, and the time stamp far in the future. -/
def largestEvent : Event where
  eventId := List.replicate 36261 105
  userId := List.replicate 256 117
  platform := List.replicate 64 112
  eventType := List.replicate 256 116
  ts := 144115188075855000
  payload := List.replicate 65536 120

theorem validEvent_frame_passes_largest : validateEvent 144115188075855 largestEvent = true ∧
    (encodeEvent largestEvent).length = 102399 := by
  have accepted : validateEvent 144115188075855 largestEvent = true := by
    rw [validateEvent_iff]
    constructor <;> simp only [largestEvent, List.length_replicate] <;> decide
  refine ⟨accepted, Nat.le_antisymm ?_ ?_⟩
  · exact (validEvent_frame_passes 144115188075855 largestEvent accepted
      (by simp only [largestEvent, List.length_replicate]; decide)).1.2
  · apply encodeEvent_largest <;> simp only [largestEvent, List.length_replicate]
    decide

end EventCollector
