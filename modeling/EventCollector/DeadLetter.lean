import EventCollector.DeadLetterCore
import EventCollector.Storage

/-!
What becomes of the records of one flush, and which counter says so.
-/

namespace EventCollector

def FlushOutcome.inserted (outcome : FlushOutcome) : Prop :=
  ∃ retry < 3, outcome.inserts retry = true

instance (outcome : FlushOutcome) : Decidable outcome.inserted :=
  inferInstanceAs (Decidable (∃ _ < _, _))

def Sink.countStored (sink : Sink) (batch : List Bytes) : Sink :=
  { sink with metrics.totalStored := sink.metrics.totalStored + batch.length }

theorem insertRetries_eq (inserts : Nat → Bool) (sink : Sink) (batch : List Bytes)
    (left retry : Nat) : insertRetries inserts sink batch left retry =
      if ∃ attempt < left, inserts (retry + attempt) = true then some (sink.countStored batch)
      else none := by
  induction left generalizing retry with
  | zero => simp [insertRetries]
  | succ left ih =>
      simp only [insertRetries]
      by_cases now : inserts retry = true
      · rw [if_pos now, if_pos ⟨0, by omega, now⟩]
        rfl
      · rw [if_neg now, ih]
        congr 1
        refine propext ⟨?_, ?_⟩
        · rintro ⟨attempt, bound, works⟩
          exact ⟨attempt + 1, by omega, by rwa [Nat.add_comm attempt, ← Nat.add_assoc]⟩
        · rintro ⟨attempt, bound, works⟩
          cases attempt with
          | zero => exact absurd works now
          | succ attempt =>
              exact ⟨attempt, by omega, by rwa [Nat.add_comm attempt, ← Nat.add_assoc] at works⟩

theorem doFlush_cases (outcome : FlushOutcome) (sink : Sink) (batch : List Bytes) :
    (batch = [] ∧ doFlush outcome sink batch = sink) ∨
    (batch ≠ [] ∧ outcome.inserted ∧ doFlush outcome sink batch = sink.countStored batch) ∨
    (batch ≠ [] ∧ ¬ outcome.inserted ∧
      doFlush outcome sink batch = writeDeadLetter outcome.disk sink batch) := by
  by_cases empty : batch = []
  · exact Or.inl ⟨empty, by simp [doFlush, empty]⟩
  · have retries : insertRetries outcome.inserts sink batch 3 0 =
        if outcome.inserted then some (sink.countStored batch) else none := by
      rw [insertRetries_eq]
      simp only [Nat.zero_add]
      rfl
    by_cases works : outcome.inserted
    · rw [if_pos works] at retries
      exact Or.inr (Or.inl ⟨empty, works, by simp [doFlush, empty, retries]⟩)
    · rw [if_neg works] at retries
      exact Or.inr (Or.inr ⟨empty, works, by simp [doFlush, empty, retries]⟩)

/-! The accounting that the counters promise. -/

inductive StoreCounter
  | stored
  | storeFail
  | storeDead

def StoreCounter.add (metrics : Metrics) (amount : Nat) : StoreCounter → Metrics
  | .stored => { metrics with totalStored := metrics.totalStored + amount }
  | .storeFail => { metrics with totalStoreFail := metrics.totalStoreFail + amount }
  | .storeDead => { metrics with totalStoreDead := metrics.totalStoreDead + amount }

theorem StoreCounter.add_total (counter : StoreCounter) (metrics : Metrics) (amount : Nat) :
    (counter.add metrics amount).totalStored + (counter.add metrics amount).totalStoreFail +
        (counter.add metrics amount).totalStoreDead =
      metrics.totalStored + metrics.totalStoreFail + metrics.totalStoreDead + amount := by
  cases counter with
  | stored =>
      simp only [StoreCounter.add]
      omega
  | storeFail =>
      simp only [StoreCounter.add]
      omega
  | storeDead =>
      simp only [StoreCounter.add]
      omega

structure FlushAccounted (outcome : FlushOutcome) (before : Sink) (batch : List Bytes)
    (after : Sink) : Prop where
  counted : ∃ counter : StoreCounter, after.metrics = counter.add before.metrics batch.length
  stored : before.metrics.totalStored < after.metrics.totalStored → outcome.inserted
  dead : before.metrics.totalStoreDead < after.metrics.totalStoreDead → ¬ outcome.inserted ∧
    after.directory.find .log =
      some (((rotate outcome.disk before.directory).find .log).getD [] ++ deadLetterText batch)

/-- An insert returned, or the log took the whole batch. -/
def Lands (outcome : FlushOutcome) (batch : List Bytes) : Prop :=
  batch = [] ∨ outcome.inserted ∨
    outcome.disk.opens = true ∧ (deadLetterText batch).length ≤ outcome.disk.room

/-- An insert returned, or the log could at least be opened. -/
def Counts (outcome : FlushOutcome) (batch : List Bytes) : Prop :=
  batch = [] ∨ outcome.inserted ∨ outcome.disk.opens = true

theorem writeDeadLetter_opens {outcome : DiskOutcome} (opens : outcome.opens = true) (sink : Sink)
    (batch : List Bytes) : writeDeadLetter outcome sink batch =
      { directory := (rotate outcome sink.directory).append .log
          ((deadLetterText batch).take outcome.room)
        metrics := { sink.metrics with
          totalStoreDead := sink.metrics.totalStoreDead + batch.length } } := by
  simp [writeDeadLetter, opens]

theorem writeDeadLetter_refused {outcome : DiskOutcome} (refused : outcome.opens = false)
    (sink : Sink) (batch : List Bytes) : writeDeadLetter outcome sink batch =
      { sink with directory := rotate outcome sink.directory } := by
  simp [writeDeadLetter, refused]

theorem writeDeadLetter_log {outcome : DiskOutcome} (opens : outcome.opens = true) (sink : Sink)
    (batch : List Bytes) : (writeDeadLetter outcome sink batch).directory.find .log =
      some (((rotate outcome sink.directory).find .log).getD [] ++
        (deadLetterText batch).take outcome.room) := by
  rw [writeDeadLetter_opens opens]
  exact Directory.find_put_same ..

theorem deadLetter_accounted {outcome : FlushOutcome} {sink : Sink} {batch : List Bytes}
    (filled : batch ≠ []) (fails : ¬ outcome.inserted) :
    FlushAccounted outcome sink batch (writeDeadLetter outcome.disk sink batch) ↔
      outcome.disk.opens = true ∧ (deadLetterText batch).length ≤ outcome.disk.room := by
  have size : 0 < batch.length := List.length_pos_iff.mpr filled
  cases opens : outcome.disk.opens with
  | false =>
      simp only [Bool.false_eq_true, false_and, iff_false]
      intro accounted
      obtain ⟨counter, same⟩ := accounted.counted
      have grown := counter.add_total sink.metrics batch.length
      rw [← same, writeDeadLetter_refused opens] at grown
      simp only at grown
      omega
  | true =>
      have written := writeDeadLetter_opens opens sink batch
      have logged := writeDeadLetter_log opens sink batch
      simp only [true_and]
      constructor
      · intro accounted
        have grows : sink.metrics.totalStoreDead <
            (writeDeadLetter outcome.disk sink batch).metrics.totalStoreDead := by
          rw [written]
          simp only
          omega
        have whole := (accounted.dead grows).2
        rw [logged, Option.some.injEq, List.append_cancel_left_eq] at whole
        have shorter := congrArg List.length whole
        rw [List.length_take] at shorter
        omega
      · intro room
        refine ⟨⟨.storeDead, by rw [written]; rfl⟩, ?_, fun _ => ⟨fails, ?_⟩⟩
        · intro grows
          rw [written] at grows
          simp at grows
        · rw [logged, List.take_of_length_le room]

theorem flush_accounted (outcome : FlushOutcome) (sink : Sink) (batch : List Bytes) :
    FlushAccounted outcome sink batch (doFlush outcome sink batch) ↔ Lands outcome batch := by
  rcases doFlush_cases outcome sink batch with ⟨rfl, same⟩ | ⟨filled, works, same⟩ |
    ⟨filled, fails, same⟩
  · rw [same]
    refine iff_of_true ⟨⟨.stored, rfl⟩, ?_, ?_⟩ (Or.inl rfl)
    · exact fun grows => absurd grows (Nat.lt_irrefl _)
    · exact fun grows => absurd grows (Nat.lt_irrefl _)
  · rw [same]
    refine iff_of_true ⟨⟨.stored, rfl⟩, fun _ => works, ?_⟩ (Or.inr (Or.inl works))
    exact fun grows => absurd grows (Nat.lt_irrefl _)
  · rw [same, deadLetter_accounted filled fails]
    simp only [Lands, filled, fails, false_or]

/-! Any number of flushes, one after the other. -/

def flushAll (flushes : List (FlushOutcome × List Bytes)) (sink : Sink) : Sink :=
  flushes.foldl (fun sink flush => doFlush flush.1 sink flush.2) sink

def Sink.accounted (sink : Sink) : Nat :=
  sink.metrics.totalStored + sink.metrics.totalStoreFail + sink.metrics.totalStoreDead

def flushed (flushes : List (FlushOutcome × List Bytes)) : Nat :=
  (flushes.flatMap Prod.snd).length

theorem doFlush_accounted (outcome : FlushOutcome) (sink : Sink) (batch : List Bytes) :
    (Counts outcome batch ∧
      (doFlush outcome sink batch).accounted = sink.accounted + batch.length) ∨
    (¬ Counts outcome batch ∧ 0 < batch.length ∧
      (doFlush outcome sink batch).accounted = sink.accounted) := by
  rcases doFlush_cases outcome sink batch with ⟨rfl, same⟩ | ⟨filled, works, same⟩ |
    ⟨filled, fails, same⟩
  · exact Or.inl ⟨Or.inl rfl, by rw [same]; rfl⟩
  · refine Or.inl ⟨Or.inr (Or.inl works), ?_⟩
    rw [same]
    simp only [Sink.accounted, Sink.countStored]
    omega
  · rw [same]
    cases opens : outcome.disk.opens with
    | true =>
        refine Or.inl ⟨Or.inr (Or.inr opens), ?_⟩
        rw [writeDeadLetter_opens opens]
        simp only [Sink.accounted]
        omega
    | false =>
        refine Or.inr ⟨?_, List.length_pos_iff.mpr filled, ?_⟩
        · simp [Counts, filled, fails, opens]
        · rw [writeDeadLetter_refused opens]
          rfl

theorem flushAll_accounted (flushes : List (FlushOutcome × List Bytes)) (sink : Sink) :
    (flushAll flushes sink).accounted ≤ sink.accounted + flushed flushes ∧
    ((flushAll flushes sink).accounted = sink.accounted + flushed flushes ↔
      ∀ flush ∈ flushes, Counts flush.1 flush.2) := by
  induction flushes generalizing sink with
  | nil => exact ⟨Nat.le_refl _, by simp [flushAll, flushed]⟩
  | cons flush rest ih =>
      obtain ⟨bound, exact_⟩ := ih (doFlush flush.1 sink flush.2)
      have split : flushed (flush :: rest) = flush.2.length + flushed rest := by
        simp [flushed]
      have onward : flushAll (flush :: rest) sink =
        flushAll rest (doFlush flush.1 sink flush.2) := rfl
      rw [List.forall_mem_cons, ← exact_, onward, split]
      rcases doFlush_accounted flush.1 sink flush.2 with ⟨counts, grown⟩ | ⟨loses, size, kept⟩
      · simp only [counts, true_and]
        omega
      · simp only [loses, false_and, iff_false]
        omega

theorem doFlush_accountsRecords (outcome : FlushOutcome) (sink : Sink) (batch : List Bytes)
    (flushes : List (FlushOutcome × List Bytes)) :
    (FlushAccounted outcome sink batch (doFlush outcome sink batch) ↔ Lands outcome batch) ∧
    ((flushAll flushes sink).accounted = sink.accounted + flushed flushes ↔
      ∀ flush ∈ flushes, Counts flush.1 flush.2) :=
  ⟨flush_accounted outcome sink batch, (flushAll_accounted flushes sink).2⟩

/-- Every insert throws and the log cannot be opened. -/
def refusedFlush : FlushOutcome := ⟨fun _ => false, ⟨true, true, false, 0, 0⟩⟩

/-- Every insert throws and the disk is full. -/
def fullDiskFlush : FlushOutcome := ⟨fun _ => false, ⟨true, true, true, 0, 0⟩⟩

theorem flush_loses_records :
    let fresh : Sink := ⟨.empty FileName Bytes, {}⟩
    (doFlush refusedFlush fresh [[1]]).accounted ≠ fresh.accounted + 1 ∧
    (doFlush fullDiskFlush fresh [[1]]).metrics.totalStoreDead = 1 ∧
    (doFlush fullDiskFlush fresh [[1]]).directory.find .log = some [] ∧
    ¬ (∀ (outcome : FlushOutcome) (sink : Sink) (batch : List Bytes),
      FlushAccounted outcome sink batch (doFlush outcome sink batch)) := by
  refine ⟨by decide, by decide, by decide, ?_⟩
  intro all
  have lands := (flush_accounted fullDiskFlush _ _).mp
    (all fullDiskFlush ⟨.empty FileName Bytes, {}⟩ [[1]])
  simp [Lands, FlushOutcome.inserted, fullDiskFlush, deadLetterText, separator] at lands

/-! `doFlush` is what a thread of the storage does from the moment it holds a batch. -/

section

variable (callers : Nat) {thread : Nat} {role : StorageRole} {batch : List Bytes}

theorem storage_advance {system next : StorageSystem} {pc : StoragePc} (outcome : Bool)
    (found : system.threads[thread]? = some pc)
    (advanced : system.advance thread outcome pc = some next) :
    (storageMachine callers).step system (.advance thread outcome) = some next := by
  simp only [storageMachine, StorageSystem.step, found, Option.bind_some, advanced]

theorem place_found {system : StorageSystem} {pc : StoragePc} (next : StoragePc)
    (found : system.threads[thread]? = some pc) :
    (system.place thread next).threads[thread]? = some next := by
  obtain ⟨bound, _⟩ := List.getElem?_eq_some_iff.mp found
  simp [StorageSystem.place, bound]

theorem place_place (system : StorageSystem) (first second : StoragePc) :
    (system.place thread first).place thread second = system.place thread second := by
  simp only [StorageSystem.place, List.set_set]

theorem attempt_run {system : StorageSystem} {retry : Nat} (works : Bool)
    (found : system.threads[thread]? = some (.trying role batch retry)) :
    (storageMachine callers).run system ([false, works].map (StorageLabel.advance thread)) =
      some (system.place thread (if works then .inserted role batch
        else if retry + 1 < 3 then .trying role batch (retry + 1)
        else .deadLetter role batch)) := by
  have begins := storage_advance callers false found rfl
  have ends := storage_advance callers works
    (place_found (.inserting role batch retry) found) rfl
  rw [place_place] at ends
  exact Machine.run_cons_some.mpr ⟨_, begins, Machine.run_cons_some.mpr ⟨_, ends, rfl⟩⟩

theorem retries_run (system : StorageSystem) {sink : Sink} {retry : Nat} (inserts : Nat → Bool)
    (same : sink.metrics = system.metrics) (left : Nat) (sum : retry + (left + 1) = 3)
    (found : system.threads[thread]? = some (.trying role batch retry)) :
    ∃ outcomes : List Bool,
      (storageMachine callers).run system (outcomes.map (StorageLabel.advance thread)) = some
        (match insertRetries inserts sink batch (left + 1) retry with
        | some flushed => { system with metrics := flushed.metrics }.place thread role.resume
        | none => system.place thread (.deadLetter role batch)) := by
  have attempted := attempt_run callers (inserts retry) found
  cases works : inserts retry with
  | true =>
      rw [works, if_pos rfl] at attempted
      have counts := storage_advance callers true
        (place_found (.inserted role batch) found) rfl
      refine ⟨[false, true] ++ [true], ?_⟩
      rw [List.map_append, Machine.run_append attempted]
      refine Machine.run_cons_some.mpr ⟨_, counts, ?_⟩
      simp only [insertRetries, works, if_true, same]
      exact congrArg some (place_place { system with metrics := _ } _ _)
  | false =>
      rw [works, if_neg Bool.false_ne_true] at attempted
      cases left with
      | zero =>
          rw [if_neg (by omega)] at attempted
          exact ⟨[false, false], by simpa [insertRetries, works] using attempted⟩
      | succ left =>
          rw [if_pos (by omega)] at attempted
          obtain ⟨outcomes, rest⟩ := retries_run (system.place thread _) inserts same left (by omega)
            (place_found (.trying role batch (retry + 1)) found)
          refine ⟨[false, false] ++ outcomes, ?_⟩
          have onward : insertRetries inserts sink batch (left + 2) retry =
              insertRetries inserts sink batch (left + 1) (retry + 1) := by
            conv => lhs; rw [insertRetries, if_neg (by simp [works])]
          rw [List.map_append, Machine.run_append attempted, rest, onward]
          congr 1
          cases insertRetries inserts sink batch (left + 1) (retry + 1) with
          | none => exact place_place system _ _
          | some flushed => exact place_place { system with metrics := flushed.metrics } _ _

theorem deadLetter_run (system : StorageSystem) {sink : Sink} {pc : StoragePc}
    (outcome : DiskOutcome) (same : sink.metrics = system.metrics)
    (found : system.threads[thread]? = some pc) :
    (storageMachine callers).run (system.place thread (.deadLetter role batch))
        [.advance thread outcome.opens] =
      some ({ system with metrics := (writeDeadLetter outcome sink batch).metrics }.place thread
        role.resume) := by
  have writes := storage_advance callers outcome.opens
    (place_found (.deadLetter role batch) found) rfl
  refine Machine.run_cons_some.mpr ⟨_, writes, ?_⟩
  cases opens : outcome.opens with
  | true =>
      rw [writeDeadLetter_opens opens, same]
      exact congrArg some (place_place { system with metrics := _ } _ _)
  | false =>
      rw [writeDeadLetter_refused opens, same]
      exact congrArg some (place_place system _ _)

/-- The steps a thread takes from there to its return change the counters as
`doFlush` does. -/
theorem storage_flush_run {system : StorageSystem} {sink : Sink} (outcome : FlushOutcome)
    (same : sink.metrics = system.metrics)
    (found : system.threads[thread]? = some (.swapped role batch)) :
    ∃ outcomes : List Bool,
      (storageMachine callers).run system (outcomes.map (StorageLabel.advance thread)) = some
        ({ system with
          metrics := (doFlush outcome sink batch).metrics
          given := system.given ++ [batch] }.place thread role.resume) := by
  have called := storage_advance callers false found rfl
  by_cases empty : batch = []
  · refine ⟨[false], ?_⟩
    rw [List.map_singleton, Machine.run_cons_some.mpr ⟨_, called, rfl⟩]
    simp [empty, doFlush, same]
  · have filled : batch.isEmpty = false := by simpa using empty
    rw [filled, if_neg Bool.false_ne_true] at called
    obtain ⟨outcomes, tried⟩ := retries_run callers
      ({ system with given := system.given ++ [batch] }.place thread (.trying role batch 0))
      outcome.inserts same 2 rfl (place_found (.trying role batch 0) found)
    have tried := Machine.run_cons_some.mpr ⟨_, called, tried⟩
    cases retries : insertRetries outcome.inserts sink batch 3 0 with
    | some flushed =>
        refine ⟨false :: outcomes, ?_⟩
        rw [List.map_cons, tried, retries]
        simp only [doFlush, filled, retries, Bool.false_eq_true, if_false]
        exact congrArg some (place_place { system with metrics := _, given := _ } _ _)
    | none =>
        rw [retries, place_place] at tried
        refine ⟨(false :: outcomes) ++ [outcome.disk.opens], ?_⟩
        rw [List.map_append, List.map_cons, Machine.run_append tried, List.map_singleton,
          deadLetter_run callers { system with given := system.given ++ [batch] } outcome.disk
            same found]
        simp only [doFlush, filled, retries, Bool.false_eq_true, if_false]

end

end EventCollector
