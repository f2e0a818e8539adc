import EventCollector.Lib.CounterStore
import EventCollector.Lib.Machine
import EventCollector.Validation

/-!
`src/processor/rate_limiter.cpp`: the script as Redis runs it, atomically and at one
moment of its clock (in milliseconds), and the calls of `allow` that all workers of
all servers make, in the order in which their scripts run.
-/

namespace EventCollector

def windowSecs : Nat := 60

/-- `"rl:" + user_id` -/
def rateKey (userId : Bytes) : Bytes := [114, 108, 58] ++ userId

/-- `INCR`, and `EXPIRE` when the count is 1; the reply is the count. -/
def rateScript (now : Nat) (key : Bytes) (store : CounterStore Bytes) :
    RedisReply × CounterStore Bytes :=
  match store.incr now key with
  | none => (.error, store)
  | some (cnt, store) =>
      (.count (Int64.ofNat cnt),
        if cnt = 1 then store.expire key (now + windowSecs * 1000) else store)

structure AllowCall where
  time : Nat
  userId : Bytes
  deriving DecidableEq

structure AllowEntry where
  call : AllowCall
  found : Bool
  reply : RedisReply
  allowed : Bool
  deriving DecidableEq

/-- `trace` records the calls with their answers and whether they found the key. -/
structure Limiter where
  store : CounterStore Bytes
  time : Nat
  trace : List AllowEntry

namespace Limiter

def entry (limitPerMin : UInt64) (store : CounterStore Bytes) (call : AllowCall) : AllowEntry where
  call := call
  found := (store.lookup call.time (rateKey call.userId)).isSome
  reply := (rateScript call.time (rateKey call.userId) store).1
  allowed := allow limitPerMin (rateScript call.time (rateKey call.userId) store).1

def step (limitPerMin : UInt64) (limiter : Limiter) (call : AllowCall) : Option Limiter :=
  if limiter.time ≤ call.time then
    some {
      store := (rateScript call.time (rateKey call.userId) limiter.store).2
      time := call.time
      trace := limiter.trace ++ [entry limitPerMin limiter.store call] }
  else none

end Limiter

/-- `others` is what Redis holds under other keys at the start. -/
def limiterMachine (limitPerMin : UInt64) (others : CounterStore Bytes) :
    Machine Limiter AllowCall where
  initial := ⟨others, 0, []⟩
  step := Limiter.step limitPerMin

end EventCollector
