/-! `proto/event.proto`, `src/processor/validation.cpp` and the verdict of
`RateLimiter::allow`. -/

namespace EventCollector

abbrev Bytes := List UInt8

structure Event where
  eventId : Bytes
  userId : Bytes
  platform : Bytes
  eventType : Bytes
  ts : Int64
  payload : Bytes
  deriving DecidableEq

/-- `clock` is `std::time(nullptr)`. The comparisons are those of the `int64`
code wherever `now - 30 days` and `now + 1 day` are representable. -/
def validateEvent (clock : Int) (evt : Event) : Bool :=
  if evt.userId.isEmpty || evt.userId.length > 256 then false
  else if evt.eventType.isEmpty || evt.eventType.length > 256 then false
  else if evt.platform.length > 64 then false
  else if evt.payload.length > 65536 then false
  else if evt.ts.toInt ≤ 0 then false
  else
    let now := clock * 1000
    if evt.ts.toInt < now - 86400000 * 30 then false
    else if evt.ts.toInt > now + 86400000 * 1 then false
    else true

/-- What `validate_event` lets pass. -/
structure Acceptable (clock : Int) (evt : Event) : Prop where
  userId : 0 < evt.userId.length ∧ evt.userId.length ≤ 256
  eventType : 0 < evt.eventType.length ∧ evt.eventType.length ≤ 256
  platform : evt.platform.length ≤ 64
  payload : evt.payload.length ≤ 65536
  ts : 0 < evt.ts.toInt
  recent : clock * 1000 - 86400000 * 30 ≤ evt.ts.toInt
  notAhead : evt.ts.toInt ≤ clock * 1000 + 86400000

theorem validateEvent_iff (clock : Int) (evt : Event) :
    validateEvent clock evt = true ↔ Acceptable clock evt := by
  simp only [validateEvent, Bool.or_eq_true, List.isEmpty_iff_length_eq_zero, decide_eq_true_eq,
    Bool.if_false_left, Bool.and_eq_true, Bool.not_eq_true', decide_eq_false_iff_not, Bool.and_true]
  constructor
  · rintro ⟨user, kind, platform, payload, positive, recent, ahead⟩
    constructor <;> omega
  · rintro ⟨user, kind, platform, payload, positive, recent, ahead⟩
    omega

/-- `static_cast<uint64_t>` keeps the value of a time stamp that passed. -/
theorem Acceptable.unsigned {clock : Int} {evt : Event} (acceptable : Acceptable clock evt) :
    (evt.ts.toUInt64.toNat : Int) = evt.ts.toInt := by
  have nonneg : 0 ≤ evt.ts := Int64.le_iff_toInt_le.mpr (Int.le_of_lt acceptable.ts)
  rw [Int64.toNat_toUInt64_of_le nonneg, ← Int64.toNat_toInt,
    Int.toNat_of_nonneg (Int.le_of_lt acceptable.ts)]

/-- What `redis_->eval` gives: the script's `long long`, or an exception. -/
inductive RedisReply
  | count (value : Int64)
  | error
  deriving DecidableEq

def allow (limitPerMin : UInt64) : RedisReply → Bool
  | .count value => value.toUInt64 ≤ limitPerMin
  | .error => true

end EventCollector
