import EventCollector.Lib.Windows
import EventCollector.RateLimiterCore

/-!
The limiter counts in windows of 60 seconds per user: a call that finds no key opens
one, and the calls that find the key are the later calls of the same window.
-/

namespace EventCollector

open CounterStore Windows

theorem rateKey_injective {first second : Bytes} (same : rateKey first = rateKey second) :
    first = second := List.append_cancel_left same

theorem allow_count {count : Nat} (small : count < 2 ^ 63) (limitPerMin : UInt64) :
    allow limitPerMin (.count (Int64.ofNat count)) = decide (count ≤ limitPerMin.toNat) := by
  have exact_ : (Int64.ofNat count).toUInt64.toNat = count := by
    rw [Int64.toUInt64_ofNat', UInt64.toNat_ofNat']
    omega
  simp only [allow, UInt64.le_iff_toNat_le, exact_]

/-! What one script does to the key of its user, and that it touches no other. -/

theorem rateScript_other {store : CounterStore Bytes} {now : Nat} {key other : Bytes}
    (different : other ≠ key) : (rateScript now key store).2 other = store other := by
  unfold rateScript
  cases counted : store.incr now key with
  | none => rfl
  | some result =>
      obtain ⟨cnt, next⟩ := result
      simp only
      split
      · rw [expire_other next _ different]
        exact incr_other counted different
      · exact incr_other counted different

theorem rateScript_opens {store : CounterStore Bytes} {now : Nat} {key : Bytes}
    (absent : store.lookup now key = none) :
    rateScript now key store = (.count (Int64.ofNat 1),
      store.put key ⟨1, some (now + windowSecs * 1000)⟩) := by
  simp [rateScript, incr, absent, expire]

theorem rateScript_counts {store : CounterStore Bytes} {now value expiry : Nat} {key : Bytes}
    (live : store.lookup now key = some ⟨value, some expiry⟩) (positive : 0 < value) :
    (value + 1 < 2 ^ 63 ∧ rateScript now key store = (.count (Int64.ofNat (value + 1)),
      store.put key ⟨value + 1, some expiry⟩)) ∨
    rateScript now key store = (.error, store) := by
  by_cases small : value + 1 < 2 ^ 63
  · have counted : store.incr now key =
        some (value + 1, store.put key ⟨value + 1, some expiry⟩) := by
      simp only [incr, live]
      rw [if_pos small]
    refine Or.inl ⟨small, ?_⟩
    simp only [rateScript, counted]
    rw [if_neg (by omega)]
  · have counted : store.incr now key = none := by
      simp only [incr, live]
      rw [if_neg small]
    simp only [rateScript, counted, or_true]

/-! One user's calls, in the windows they fall into. -/

abbrev RateWindow := Window AllowEntry (fun entry => entry.call.time) (windowSecs * 1000)

/-- The first call finds no key and the others do; the first `limit` are allowed. -/
structure Ranked (limit : Nat) (window : RateWindow) : Prop where
  opens : ∃ first rest, window.items = first :: rest ∧ first.found = false ∧
    ∀ entry ∈ rest, entry.found = true
  answers : window.items.map AllowEntry.allowed =
    (List.range window.items.length).map fun rank => decide (rank < limit)

def Limiter.own (limiter : Limiter) (userId : Bytes) : List AllowEntry :=
  limiter.trace.filter fun entry => entry.call.userId = userId

/-- `last` is the window that the key stands for. -/
structure Windowed (limit : Nat) (userId : Bytes) (limiter : Limiter) (earlier : List RateWindow)
    (last : RateWindow) : Prop where
  calls : limiter.own userId = (earlier ++ [last]).flatMap Window.items
  spaced : Spaced (earlier ++ [last])
  ranked : ∀ window ∈ earlier ++ [last], Ranked limit window
  started : last.start ≤ limiter.time
  key : limiter.store (rateKey userId) =
    some ⟨last.items.length, some (last.start + windowSecs * 1000)⟩

def Limited (limit : Nat) (userId : Bytes) (limiter : Limiter) : Prop :=
  (limiter.own userId = [] ∧ limiter.store (rateKey userId) = none) ∨
    ∃ earlier last, Windowed limit userId limiter earlier last

theorem Ranked.nonempty {limit : Nat} {window : RateWindow} (ranked : Ranked limit window) :
    0 < window.items.length := by
  obtain ⟨first, rest, shape, -⟩ := ranked.opens
  rw [shape, List.length_cons]
  omega

/-- Of the calls of a window exactly `min` of their number and the limit are allowed. -/
theorem Ranked.allowed {limit : Nat} {window : RateWindow} (ranked : Ranked limit window) :
    window.items.countP AllowEntry.allowed = min window.items.length limit := by
  have counted (calls : Nat) :
      ((List.range calls).map fun rank => decide (rank < limit)).countP id = min calls limit := by
    induction calls with
    | zero => simp
    | succ calls ih =>
        rw [List.range_succ, List.map_append, List.countP_append, ih]
        by_cases below : calls < limit <;> simp [below] <;> omega
  rw [← counted, ← ranked.answers, List.countP_map]
  rfl

def opened (entry : AllowEntry) : RateWindow where
  start := entry.call.time
  items := [entry]
  inside := by
    intro item member
    rw [List.mem_singleton.mp member]
    exact ⟨Nat.le_refl _, by simp only [windowSecs]; omega⟩

theorem opened_ranked {limit : Nat} {entry : AllowEntry} (missed : entry.found = false)
    (answer : entry.allowed = decide (0 < limit)) : Ranked limit (opened entry) :=
  ⟨⟨entry, [], rfl, missed, by simp⟩, by simp [opened, answer]⟩

def extended (window : RateWindow) (entry : AllowEntry) (after : window.start ≤ entry.call.time)
    (before : entry.call.time < window.start + windowSecs * 1000) : RateWindow where
  start := window.start
  items := window.items ++ [entry]
  inside := by
    intro item member
    rcases List.mem_append.mp member with earlier | last
    · exact window.inside item earlier
    · rw [List.mem_singleton.mp last]
      exact ⟨after, before⟩

theorem extended_ranked {limit : Nat} {window : RateWindow} {entry : AllowEntry}
    {after : window.start ≤ entry.call.time}
    {before : entry.call.time < window.start + windowSecs * 1000} (ranked : Ranked limit window)
    (hit : entry.found = true) (answer : entry.allowed = decide (window.items.length < limit)) :
    Ranked limit (extended window entry after before) := by
  obtain ⟨first, rest, shape, missed, hits⟩ := ranked.opens
  constructor
  · refine ⟨first, rest ++ [entry], by simp [extended, shape], missed, ?_⟩
    intro item member
    rcases List.mem_append.mp member with earlier | last
    · exact hits item earlier
    · rw [List.mem_singleton.mp last]
      exact hit
  · simp only [extended, List.map_append, ranked.answers, List.length_append,
      List.length_singleton, List.range_succ, List.map_cons, List.map_nil, answer]

/-! One call. -/

def Limiter.next (limitPerMin : UInt64) (limiter : Limiter) (call : AllowCall) : Limiter where
  store := (rateScript call.time (rateKey call.userId) limiter.store).2
  time := call.time
  trace := limiter.trace ++ [entry limitPerMin limiter.store call]

theorem limiterStep_next {limitPerMin : UInt64} {limiter next : Limiter} {call : AllowCall}
    (stepped : limiter.step limitPerMin call = some next) :
    limiter.time ≤ call.time ∧ next = limiter.next limitPerMin call := by
  simp only [Limiter.step, Option.ite_none_right_eq_some, Option.some.injEq] at stepped
  exact ⟨stepped.1, stepped.2.symm⟩

theorem next_other (limitPerMin : UInt64) (limiter : Limiter) {call : AllowCall}
    {userId : Bytes} (different : userId ≠ call.userId) :
    (limiter.next limitPerMin call).own userId = limiter.own userId ∧
      (limiter.next limitPerMin call).store (rateKey userId) =
        limiter.store (rateKey userId) := by
  constructor
  · simp [Limiter.own, Limiter.next, Limiter.entry, different.symm]
  · exact rateScript_other fun same => different (rateKey_injective same)

theorem next_own (limitPerMin : UInt64) (limiter : Limiter) (call : AllowCall) :
    (limiter.next limitPerMin call).own call.userId =
      limiter.own call.userId ++ [Limiter.entry limitPerMin limiter.store call] := by
  simp [Limiter.own, Limiter.next, Limiter.entry]

theorem limited_opens {limitPerMin : UInt64} {limiter : Limiter} {call : AllowCall}
    (absent : limiter.store.lookup call.time (rateKey call.userId) = none)
    {windows : List RateWindow} (calls : limiter.own call.userId = windows.flatMap Window.items)
    (spaced : Spaced windows) (ranked : ∀ window ∈ windows, Ranked limitPerMin.toNat window)
    (ended : ∀ window ∈ windows, window.start + windowSecs * 1000 ≤ call.time) :
    Limited limitPerMin.toNat call.userId (limiter.next limitPerMin call) := by
  let entry := Limiter.entry limitPerMin limiter.store call
  have script := rateScript_opens absent
  have answer : entry.allowed = decide (0 < limitPerMin.toNat) :=
    (congrArg (allow limitPerMin) (congrArg Prod.fst script)).trans
      (allow_count (by omega) limitPerMin)
  refine Or.inr ⟨windows, opened entry, ?_, ?_, ?_, Nat.le_refl _, ?_⟩
  · rw [next_own, calls, List.flatMap_append, List.flatMap_singleton]
    rfl
  · refine List.pairwise_append.mpr ⟨spaced, List.pairwise_singleton _ _, ?_⟩
    intro window member last same
    rw [List.mem_singleton.mp same]
    exact ended window member
  · intro window member
    rcases List.mem_append.mp member with earlier | last
    · exact ranked window earlier
    · rw [List.mem_singleton.mp last]
      exact opened_ranked (by simp [entry, Limiter.entry, absent]) answer
  · simp only [Limiter.next, script, put_same, opened, List.length_singleton, entry,
      Limiter.entry]

theorem limited_joins {limitPerMin : UInt64} {limiter : Limiter} {call : AllowCall}
    {earlier : List RateWindow} {last : RateWindow}
    (windowed : Windowed limitPerMin.toNat call.userId limiter earlier last)
    (later : limiter.time ≤ call.time)
    (live : call.time < last.start + windowSecs * 1000)
    (answered : (Limiter.entry limitPerMin limiter.store call).reply ≠ .error) :
    Limited limitPerMin.toNat call.userId (limiter.next limitPerMin call) := by
  let entry := Limiter.entry limitPerMin limiter.store call
  have found := lookup_live windowed.key live
  have lastRanked := windowed.ranked last (by simp)
  have after : last.start ≤ call.time := le_trans windowed.started later
  rcases rateScript_counts found lastRanked.nonempty with ⟨small, script⟩ | script
  · have answer : entry.allowed = decide (last.items.length < limitPerMin.toNat) :=
      (congrArg (allow limitPerMin) (congrArg Prod.fst script)).trans
        (allow_count small limitPerMin)
    refine Or.inr ⟨earlier, extended last entry after live, ?_, ?_, ?_, after, ?_⟩
    · rw [next_own, windowed.calls, List.flatMap_append, List.flatMap_append,
        List.flatMap_singleton, List.flatMap_singleton, List.append_assoc]
      rfl
    · obtain ⟨before, -, gaps⟩ := List.pairwise_append.mp windowed.spaced
      refine List.pairwise_append.mpr ⟨before, List.pairwise_singleton _ _, ?_⟩
      intro window member other same
      rw [List.mem_singleton.mp same]
      exact gaps window member last (by simp)
    · intro window member
      rcases List.mem_append.mp member with early | newest
      · exact windowed.ranked window (List.mem_append_left _ early)
      · rw [List.mem_singleton.mp newest]
        exact extended_ranked lastRanked (by simp [entry, Limiter.entry, found]) answer
    · simp only [Limiter.next, script, put_same, extended, List.length_append,
        List.length_singleton]
  · exact absurd (congrArg Prod.fst script) answered

theorem limited_step {limitPerMin : UInt64} {limiter : Limiter} {call : AllowCall}
    {userId : Bytes} (holds : Limited limitPerMin.toNat userId limiter)
    (later : limiter.time ≤ call.time)
    (answered : (Limiter.entry limitPerMin limiter.store call).reply ≠ .error) :
    Limited limitPerMin.toNat userId (limiter.next limitPerMin call) := by
  by_cases mine : userId = call.userId
  · subst mine
    rcases holds with ⟨none, absent⟩ | ⟨earlier, last, windowed⟩
    · have noWindow : limiter.own call.userId = ([] : List RateWindow).flatMap Window.items := none
      exact limited_opens (lookup_absent absent call.time) noWindow List.Pairwise.nil (by simp)
        (by simp)
    · rcases Nat.lt_or_ge call.time (last.start + windowSecs * 1000) with live | late
      · exact limited_joins windowed later live answered
      · refine limited_opens (lookup_expired windowed.key late) windowed.calls
          windowed.spaced windowed.ranked ?_
        intro window member
        rcases List.mem_append.mp member with early | newest
        · have gap := (List.pairwise_append.mp windowed.spaced).2.2 window early last (by simp)
          exact le_trans gap (le_trans (Nat.le_add_right _ _) late)
        · exact List.mem_singleton.mp newest ▸ late
  · obtain ⟨calls, key⟩ := next_other limitPerMin limiter mine
    rcases holds with ⟨none, absent⟩ | ⟨earlier, last, windowed⟩
    · exact Or.inl ⟨calls.trans none, key.trans absent⟩
    · exact Or.inr ⟨earlier, last, calls.trans windowed.calls, windowed.spaced, windowed.ranked,
        le_trans windowed.started later, key.trans windowed.key⟩

theorem limiterMachine_limited {limitPerMin : UInt64} {others : CounterStore Bytes}
    (fresh : ∀ userId, others (rateKey userId) = none) {limiter : Limiter}
    (reachable : (limiterMachine limitPerMin others).Reachable limiter)
    (answered : ∀ entry ∈ limiter.trace, entry.reply ≠ .error) (userId : Bytes) :
    Limited limitPerMin.toNat userId limiter := by
  refine Machine.reachable_invariant (fun limiter => (∀ entry ∈ limiter.trace,
    entry.reply ≠ .error) → Limited limitPerMin.toNat userId limiter) ?_ ?_ reachable answered
  · exact fun _ => Or.inl ⟨rfl, fresh userId⟩
  · intro before call after holds stepped answered
    obtain ⟨later, rfl⟩ := limiterStep_next stepped
    refine limited_step (holds fun entry member => ?_) later ?_
    · exact answered entry (List.mem_append_left _ member)
    · exact answered _ (List.mem_append_right _ (List.mem_singleton_self _))

/-! What a user is answered is decided by that user's own calls. -/

theorem rateScript_congr (store store' : CounterStore Bytes) (key : Bytes)
    (same : store key = store' key) (now : Nat) :
    store.lookup now key = store'.lookup now key ∧
      (rateScript now key store).1 = (rateScript now key store').1 ∧
      (rateScript now key store).2 key = (rateScript now key store').2 key := by
  have found : store.lookup now key = store'.lookup now key := by
    simp only [lookup, same]
  refine ⟨found, ?_⟩
  simp only [rateScript, incr, found]
  cases store'.lookup now key with
  | none => simp [expire]
  | some counter =>
      by_cases small : counter.value + 1 < 2 ^ 63
      · simp only [small, if_true, true_and]
        split <;> simp [expire]
      · simp only [small, if_false, true_and, same]

def Limiter.view (limiter : Limiter) (userId : Bytes) : List AllowEntry × Option Counter :=
  (limiter.own userId, limiter.store (rateKey userId))

def ownNext (limitPerMin : UInt64) (view : List AllowEntry × Option Counter)
    (call : AllowCall) : List AllowEntry × Option Counter :=
  (view.1 ++ [Limiter.entry limitPerMin (fun _ => view.2) call],
    (rateScript call.time (rateKey call.userId) fun _ => view.2).2 (rateKey call.userId))

theorem next_view (limitPerMin : UInt64) (limiter : Limiter) (call : AllowCall) :
    (limiter.next limitPerMin call).view call.userId =
      ownNext limitPerMin (limiter.view call.userId) call := by
  obtain ⟨found, reply, key⟩ := rateScript_congr limiter.store
    (fun _ => limiter.store (rateKey call.userId)) (rateKey call.userId) rfl call.time
  simp only [Limiter.view, ownNext, next_own, Prod.mk.injEq]
  refine ⟨?_, key⟩
  simp only [Limiter.entry, found, reply]

theorem run_view {limitPerMin : UInt64} {others : CounterStore Bytes} {calls : List AllowCall}
    {limiter final : Limiter}
    (reached : (limiterMachine limitPerMin others).run limiter calls = some final)
    (userId : Bytes) :
    final.view userId = (calls.filter fun call => call.userId = userId).foldl
      (ownNext limitPerMin) (limiter.view userId) := by
  induction calls generalizing limiter with
  | nil =>
      simp only [Machine.run, Option.some.injEq] at reached
      rw [reached, List.filter_nil, List.foldl_nil]
  | cons call rest ih =>
      obtain ⟨next, stepped, tail⟩ := Machine.run_cons_some.mp reached
      obtain ⟨-, rfl⟩ := limiterStep_next stepped
      rw [ih tail]
      by_cases mine : call.userId = userId
      · subst mine
        rw [List.filter_cons_of_pos (by simp), List.foldl_cons, next_view]
      · obtain ⟨calls, key⟩ := next_other limitPerMin limiter (Ne.symm mine)
        rw [List.filter_cons_of_neg (by simpa using mine), Limiter.view, calls, key]
        rfl

/-- Along every history of calls without a Redis error: a key has an expiry at most
60 s ahead; a user's calls are windows of which the first `limit` calls each are
allowed; any 60 s allow at most twice the limit; and what a user is answered depends
on that user's calls only. -/
theorem limiterMachine_windows (limitPerMin : UInt64) (others : CounterStore Bytes)
    (fresh : ∀ userId, others (rateKey userId) = none) {calls : List AllowCall}
    {limiter : Limiter} (reached : (limiterMachine limitPerMin others).run
      (limiterMachine limitPerMin others).initial calls = some limiter)
    (answered : ∀ entry ∈ limiter.trace, entry.reply ≠ .error) (userId : Bytes) :
    (∀ counter, limiter.store (rateKey userId) = some counter →
      ∃ expiry, counter.expiry = some expiry ∧ expiry ≤ limiter.time + 60 * 1000) ∧
    (∃ windows : List RateWindow, limiter.own userId = windows.flatMap Window.items ∧
      ∀ window ∈ windows, Ranked limitPerMin.toNat window ∧
        window.items.countP AllowEntry.allowed = min window.items.length limitPerMin.toNat) ∧
    (∀ start, (limiter.own userId).countP (fun entry => entry.allowed &&
        within (fun entry => entry.call.time) (60 * 1000) start entry) ≤
      2 * limitPerMin.toNat) ∧
    (∀ others' calls' limiter', others' (rateKey userId) = none →
      (limiterMachine limitPerMin others').run (limiterMachine limitPerMin others').initial
        calls' = some limiter' →
      (calls'.filter fun call => call.userId = userId) =
        (calls.filter fun call => call.userId = userId) →
      limiter'.own userId = limiter.own userId) := by
  have limited := limiterMachine_limited fresh ⟨calls, reached⟩ answered userId
  obtain ⟨windows, own, spaced, ranked, key⟩ : ∃ windows : List RateWindow,
      limiter.own userId = windows.flatMap Window.items ∧ Spaced windows ∧
      (∀ window ∈ windows, Ranked limitPerMin.toNat window) ∧
      (∀ counter, limiter.store (rateKey userId) = some counter →
        ∃ expiry, counter.expiry = some expiry ∧ expiry ≤ limiter.time + windowSecs * 1000) := by
    rcases limited with ⟨none, absent⟩ | ⟨earlier, last, windowed⟩
    · exact ⟨[], none, List.Pairwise.nil, by simp, by simp [absent]⟩
    · refine ⟨earlier ++ [last], windowed.calls, windowed.spaced, windowed.ranked, ?_⟩
      intro counter found
      rw [windowed.key, Option.some.injEq] at found
      exact ⟨_, found ▸ rfl, Nat.add_le_add_right windowed.started _⟩
  have bounded (window : RateWindow) (member : window ∈ windows) :
      window.items.countP AllowEntry.allowed ≤ limitPerMin.toNat := by
    rw [(ranked window member).allowed]
    exact min_le_right _ _
  refine ⟨key, ⟨windows, own, fun window member =>
    ⟨ranked window member, (ranked window member).allowed⟩⟩, ?_, ?_⟩
  · intro start
    rw [own]
    exact countP_interval_le AllowEntry.allowed start spaced bounded
  · intro others' calls' limiter' fresh' reached' same
    have view := run_view reached userId
    have view' := run_view reached' userId
    have start : (limiterMachine limitPerMin others').initial.view userId =
        (limiterMachine limitPerMin others).initial.view userId := by
      simp only [Limiter.view, limiterMachine, fresh', fresh userId, Limiter.own, List.filter_nil]
    rw [same, start, ← view] at view'
    exact congrArg Prod.fst view'

def reopened : List AllowCall :=
  [⟨0, [117]⟩, ⟨1, [118]⟩, ⟨5, [117]⟩, ⟨59999, [117]⟩, ⟨60000, [117]⟩]

theorem limiterMachine_windows_reopened : ∃ limiter : Limiter,
    (limiterMachine 2 fun _ => none).run (limiterMachine 2 fun _ => none).initial reopened =
      some limiter ∧
    limiter.trace.map AllowEntry.allowed = [true, true, true, false, true] ∧
    ∃ windows : List RateWindow, limiter.own [117] = windows.flatMap Window.items ∧
      ∀ window ∈ windows, Ranked 2 window ∧
        window.items.countP AllowEntry.allowed = min window.items.length 2 := by
  obtain ⟨limiter, reached, answers⟩ : ∃ limiter : Limiter,
      (limiterMachine 2 fun _ => none).run (limiterMachine 2 fun _ => none).initial reopened =
        some limiter ∧
      limiter.trace.map (fun entry => (entry.allowed, entry.reply)) =
        [(true, .count 1), (true, .count 1), (true, .count 2), (false, .count 3),
          (true, .count 1)] := ⟨_, rfl, by decide⟩
  have answered : ∀ entry ∈ limiter.trace, entry.reply ≠ .error := by
    intro entry member failed
    have among := List.mem_map_of_mem (f := fun entry : AllowEntry => (entry.allowed, entry.reply))
      member
    rw [answers] at among
    simp [failed] at among
  have allowed := congrArg (List.map Prod.fst) answers
  rw [List.map_map] at allowed
  exact ⟨limiter, reached, allowed,
    (limiterMachine_windows 2 (fun _ => none) (fun _ => rfl) reached answered [117]).2.1⟩

end EventCollector
