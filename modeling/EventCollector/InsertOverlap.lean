import EventCollector.Storage

/-!
Who uses the one ClickHouse connection. Batches are flushed outside
`buffer_mutex_`, so `Insert` calls of different threads overlap as soon as a
second batch is swapped out while a first one is still on its way.
-/

namespace EventCollector

open Ledger

namespace StoragePc

def usesClient : StoragePc → Bool
  | .inserting _ _ _ => true
  | _ => false

def inFlight : StoragePc → Bool
  | .swapped _ _ | .trying _ _ _ | .inserting _ _ _ => true
  | _ => false

end StoragePc

def OneUser (system : StorageSystem) : Prop :=
  system.threads.countP StoragePc.usesClient ≤ 1

instance : DecidablePred OneUser := fun _ => inferInstanceAs (Decidable (_ ≤ _))

def StorageSystem.takesBatch (system : StorageSystem) : StorageLabel → Bool
  | .save _ _ => batchSize ≤ system.buffer.length + 1
  | .flushAndStop _ | .lastFlush _ => system.buffer ≠ []
  | .advance thread _ => system.threads[thread]? = some .asleep ∧ system.buffer ≠ []
  | .destroy | .join | .finish => false

def OneBatch (system : StorageSystem) (label : StorageLabel) : Prop :=
  system.takesBatch label = true → ∀ pc ∈ system.threads, pc.inFlight = false

instance (system : StorageSystem) (label : StorageLabel) : Decidable (OneBatch system label) :=
  inferInstanceAs (Decidable (_ → _))

theorem takeAll_taken {system : StorageSystem} (thread : Nat) (role : StorageRole)
    (empty : system.buffer = []) : (system.takeAll thread role).taken = system.taken := by
  simp [StorageSystem.takeAll, empty, StorageSystem.place]

theorem takeAll_threads {system : StorageSystem} (thread : Nat) (role : StorageRole)
    (filled : system.buffer ≠ []) : (system.takeAll thread role).threads =
      system.threads.set thread (.swapped role system.buffer) := by
  simp [StorageSystem.takeAll, filled, StorageSystem.swap, StorageSystem.place]

theorem taken_of_takesBatch {system next : StorageSystem} {label : StorageLabel}
    (stepped : system.step label = some next) (none : system.takesBatch label = false) :
    next.taken = system.taken := by
  cases label with
  | save thread record =>
      simp only [StorageSystem.takesBatch, decide_eq_false_iff_not] at none
      simp only [StorageSystem.step, Option.ite_none_right_eq_some] at stepped
      obtain ⟨_, pushed⟩ := stepped
      rw [if_pos (by simpa using none), Option.some.injEq] at pushed
      rw [← pushed]
      rfl
  | flushAndStop thread =>
      have empty : system.buffer = [] := by simpa [StorageSystem.takesBatch] using none
      simp only [StorageSystem.step, Option.ite_none_right_eq_some, Option.some.injEq] at stepped
      rw [← stepped.2, takeAll_taken thread .caller empty]
  | advance thread outcome =>
      simp only [StorageSystem.step, Option.bind_eq_some_iff] at stepped
      obtain ⟨old, found, advanced⟩ := stepped
      cases old with
      | asleep =>
          have empty : system.buffer = [] := by
            simpa [StorageSystem.takesBatch, found] using none
          simp only [StorageSystem.advance, Option.some.injEq] at advanced
          rw [← advanced, takeAll_taken thread .flusher empty]
      | idle => simp [StorageSystem.advance] at advanced
      | exited => simp [StorageSystem.advance] at advanced
      | _ =>
          simp only [StorageSystem.advance, Option.some.injEq] at advanced
          rw [← advanced]
          rfl
  | lastFlush thread =>
      have empty : system.buffer = [] := by simpa [StorageSystem.takesBatch] using none
      simp only [StorageSystem.step, Option.ite_none_right_eq_some, Option.some.injEq] at stepped
      rw [← stepped.2]
      exact takeAll_taken thread .caller empty
  | destroy | join | finish =>
      simp only [StorageSystem.step, Option.ite_none_right_eq_some, Option.some.injEq] at stepped
      rw [← stepped.2]

/-! As long as no batch is taken while one is in flight, there is at most one. -/

@[simp] theorem resume_inFlight (role : StorageRole) : role.resume.inFlight = false := by
  cases role <;> rfl

theorem taker_inFlight {system : StorageSystem} {old : StoragePc} {role : StorageRole}
    {phase : Destruction} (taker : Taker system old role phase) : old.inFlight = false := by
  cases taker <;> rfl

theorem flushMove_inFlight {system : StorageSystem} {old new : StoragePc}
    {given : List (List Bytes)} {metrics : Metrics}
    (moved : FlushMove system old given metrics new) :
    indicator StoragePc.inFlight new ≤ indicator StoragePc.inFlight old := by
  cases moved with
  | callEmpty => simp [indicator]
  | stored => simp [indicator]
  | logged => simp [indicator]
  | lost => simp [indicator]
  | _ => simp [indicator, StoragePc.inFlight]

theorem inFlight_step {system next : StorageSystem}
    (holds : system.threads.countP StoragePc.inFlight ≤ 1)
    (alone : next.taken ≠ system.taken → ∀ pc ∈ system.threads, pc.inFlight = false)
    (moved : StorageMove system next) : next.threads.countP StoragePc.inFlight ≤ 1 := by
  have swapped (thread : Nat) (old new : StoragePc) (taken : next.taken ≠ system.taken)
      (found : system.threads[thread]? = some old) :
      (system.threads.set thread new).countP StoragePc.inFlight ≤ 1 := by
    have changed := countP_set StoragePc.inFlight new found
    have before : system.threads.countP StoragePc.inFlight = 0 :=
      List.countP_eq_zero.mpr fun pc member => by simp [alone taken pc member]
    have bound : indicator StoragePc.inFlight new ≤ 1 := by
      unfold indicator
      split <;> omega
    omega
  cases moved with
  | push _ _ _ => exact holds
  | fill _ found _ => exact swapped _ _ _ (by simp [StorageSystem.push]) found
  | take found _ _ => exact swapped _ _ _ (by simp) found
  | @skip thread old role phase found taker empty =>
      have changed := countP_set StoragePc.inFlight role.resume found
      simp only [indicator, resume_inFlight, taker_inFlight taker, Bool.false_eq_true,
        if_false] at changed
      change (system.threads.set thread role.resume).countP StoragePc.inFlight ≤ 1
      omega
  | @flush thread old new given metrics found moved =>
      have changed := countP_set StoragePc.inFlight new found
      have shrinks := flushMove_inFlight moved
      change (system.threads.set thread new).countP StoragePc.inFlight ≤ 1
      omega
  | destroy _ _ => exact holds
  | join _ _ => exact holds
  | finish _ _ => exact holds

theorem oneUser_of_inFlight {system : StorageSystem}
    (holds : system.threads.countP StoragePc.inFlight ≤ 1) : OneUser system := by
  refine le_trans (List.countP_mono_left ?_) holds
  intro pc _ inserting
  cases pc with
  | inserting role batch retry => rfl
  | _ => simp [StoragePc.usesClient] at inserting

/-! Conversely, two batches in flight can always be driven into `Insert` at the
same time. -/

theorem storageMachine_filled {callers : Nat} {system : StorageSystem}
    (reachable : (storageMachine callers).Reachable system) {role : StorageRole}
    {batch : List Bytes} (member : StoragePc.swapped role batch ∈ system.threads) :
    batch ≠ [] := by
  have holds := storageMachine_batched reachable
  have taken : batch ∈ bag system.taken := by
    rw [holds.held, Multiset.mem_add]
    exact Or.inr (mem_tally member (Multiset.mem_singleton_self batch))
  exact List.ne_nil_of_length_pos (holds.sized batch taken).1

theorem begin_insert (callers : Nat) {system : StorageSystem} {thread : Nat} {role : StorageRole}
    {batch : List Bytes} {retry : Nat}
    (found : system.threads[thread]? = some (.trying role batch retry)) :
    (storageMachine callers).step system (.advance thread true) =
      some (system.place thread (.inserting role batch retry)) := by
  simp [storageMachine, StorageSystem.step, StorageSystem.advance, found]

theorem drive_to_insert (callers : Nat) {system : StorageSystem} {thread : Nat} {pc : StoragePc}
    (found : system.threads[thread]? = some pc) (flying : pc.inFlight = true)
    (filled : ∀ role batch, pc = .swapped role batch → batch ≠ []) :
    ∃ labels final role batch retry,
      (storageMachine callers).run system labels = some final ∧
      final.threads = system.threads.set thread (.inserting role batch retry) := by
  obtain ⟨bound, placed⟩ := List.getElem?_eq_some_iff.mp found
  cases pc with
  | swapped role batch =>
      let middle : StorageSystem :=
        { system with given := system.given ++ [batch] }.place thread (.trying role batch 0)
      have called : (storageMachine callers).step system (.advance thread true) = some middle := by
        simp [storageMachine, StorageSystem.step, StorageSystem.advance, found,
          filled role batch rfl, middle]
      have ready : middle.threads[thread]? = some (.trying role batch 0) :=
        List.getElem?_set_self bound
      have begun := begin_insert callers ready
      refine ⟨[.advance thread true, .advance thread true], _, role, batch, 0,
        Machine.run_cons_some.mpr ⟨middle, called, Machine.run_cons_some.mpr ⟨_, begun, rfl⟩⟩, ?_⟩
      exact List.set_set ..
  | trying role batch retry =>
      have begun := begin_insert callers found
      exact ⟨[.advance thread true], _, role, batch, retry,
        Machine.run_cons_some.mpr ⟨_, begun, rfl⟩, rfl⟩
  | inserting role batch retry =>
      refine ⟨[], system, role, batch, retry, rfl, ?_⟩
      rw [← placed, List.set_getElem_self]
  | _ => simp [StoragePc.inFlight] at flying

theorem overlap_of_two {callers : Nat} {system : StorageSystem}
    (reachable : (storageMachine callers).Reachable system) {first second : Nat}
    {one other : StoragePc} (different : first ≠ second)
    (foundOne : system.threads[first]? = some one)
    (foundOther : system.threads[second]? = some other) (flyingOne : one.inFlight = true)
    (flyingOther : other.inFlight = true) :
    ∃ labels final, (storageMachine callers).run system labels = some final ∧ ¬ OneUser final := by
  have filled {thread : Nat} {pc : StoragePc} (found : system.threads[thread]? = some pc)
      (role : StorageRole) (batch : List Bytes) (same : pc = .swapped role batch) : batch ≠ [] :=
    storageMachine_filled reachable (same ▸ List.mem_of_getElem? found)
  obtain ⟨labels, middle, role, batch, retry, reached, threads⟩ :=
    drive_to_insert callers foundOne flyingOne (filled foundOne)
  have stillOther : middle.threads[second]? = some other := by
    rw [threads, List.getElem?_set_ne different]
    exact foundOther
  obtain ⟨more, final, role', batch', retry', finished, threads'⟩ :=
    drive_to_insert callers stillOther flyingOther (filled foundOther)
  refine ⟨labels ++ more, final, by rw [Machine.run_append reached, finished], ?_⟩
  have firstBound : first < system.threads.length := (List.getElem?_eq_some_iff.mp foundOne).1
  have secondBound : second < middle.threads.length :=
    (List.getElem?_eq_some_iff.mp stillOther).1
  have atOne : final.threads[first]? = some (.inserting role batch retry) := by
    rw [threads', List.getElem?_set_ne different.symm, threads, List.getElem?_set_self firstBound]
  have atOther : final.threads[second]? = some (.inserting role' batch' retry') := by
    rw [threads', List.getElem?_set_self secondBound]
  have two : 2 ≤ final.threads.countP StoragePc.usesClient :=
    two_le_countP .idle different atOne atOther rfl rfl rfl
  unfold OneUser
  omega

theorem takesBatch_flying {system next : StorageSystem} {label : StorageLabel}
    (stepped : system.step label = some next) (takes : system.takesBatch label = true) :
    ∃ thread old role batch, system.threads[thread]? = some old ∧ old.inFlight = false ∧
      next.threads = system.threads.set thread (.swapped role batch) := by
  cases label with
  | save thread record =>
      simp only [StorageSystem.takesBatch, decide_eq_true_eq] at takes
      simp only [StorageSystem.step, Option.ite_none_right_eq_some] at stepped
      obtain ⟨ready, swapped⟩ := stepped
      rw [if_neg (by simpa using takes), Option.some.injEq] at swapped
      exact ⟨thread, .idle, .caller, _, ready.2, rfl, by rw [← swapped]; rfl⟩
  | flushAndStop thread =>
      have filled : system.buffer ≠ [] := by simpa [StorageSystem.takesBatch] using takes
      simp only [StorageSystem.step, Option.ite_none_right_eq_some, Option.some.injEq] at stepped
      obtain ⟨ready, rfl⟩ := stepped
      exact ⟨thread, .idle, .caller, _, ready.2, rfl, takeAll_threads thread .caller filled⟩
  | advance thread outcome =>
      simp only [StorageSystem.takesBatch, decide_eq_true_eq] at takes
      obtain ⟨asleep, filled⟩ := takes
      simp only [StorageSystem.step, asleep, Option.bind_some, StorageSystem.advance,
        Option.some.injEq] at stepped
      subst next
      exact ⟨thread, .asleep, .flusher, _, asleep, rfl, takeAll_threads thread .flusher filled⟩
  | lastFlush thread =>
      have filled : system.buffer ≠ [] := by simpa [StorageSystem.takesBatch] using takes
      simp only [StorageSystem.step, Option.ite_none_right_eq_some, Option.some.injEq] at stepped
      obtain ⟨ready, rfl⟩ := stepped
      exact ⟨thread, .idle, .caller, _, ready.2, rfl, takeAll_threads thread .caller filled⟩
  | destroy | join | finish => simp [StorageSystem.takesBatch] at takes

theorem oneUser_of_oneBatch (callers : Nat) {labels : List StorageLabel}
    (guarded : (storageMachine callers).Steps OneBatch (storageMachine callers).initial labels) :
    (storageMachine callers).Always OneUser (storageMachine callers).initial labels := by
  refine Machine.always_of_steps (fun system => system.threads.countP StoragePc.inFlight ≤ 1)
    (fun _ => oneUser_of_inFlight) ?_ ?_ guarded
  · intro system label next holds alone stepped
    refine inFlight_step holds ?_ (storageStep_move stepped)
    intro changed
    refine alone ?_
    by_contra none
    exact changed (taken_of_takesBatch stepped (by simpa using none))
  · simp [storageMachine, List.countP_replicate, StoragePc.inFlight]

theorem overlap_of_second_batch {callers : Nat} {system next : StorageSystem}
    {label : StorageLabel} (reachable : (storageMachine callers).Reachable system)
    (stepped : (storageMachine callers).step system label = some next)
    (second : ¬ OneBatch system label) :
    ∃ labels final, (storageMachine callers).run next labels = some final ∧ ¬ OneUser final := by
  simp only [OneBatch, Classical.not_imp, not_forall, Bool.not_eq_false] at second
  obtain ⟨takes, pc, member, flying⟩ := second
  obtain ⟨taker, old, role, batch, found, grounded, threads⟩ := takesBatch_flying stepped takes
  obtain ⟨other, bound, placed⟩ := List.getElem_of_mem member
  have foundOther : system.threads[other]? = some pc := by
    rw [← placed]
    exact List.getElem?_eq_getElem bound
  have different : taker ≠ other := by
    rintro rfl
    rw [found, Option.some.injEq] at foundOther
    simp [← foundOther, grounded] at flying
  have takerBound : taker < system.threads.length := (List.getElem?_eq_some_iff.mp found).1
  have atTaker : next.threads[taker]? = some (.swapped role batch) := by
    rw [threads, List.getElem?_set_self takerBound]
  have atOther : next.threads[other]? = some pc := by
    rw [threads, List.getElem?_set_ne different]
    exact foundOther
  exact overlap_of_two (reachable.step stepped) different atTaker atOther rfl flying

/-- `Insert` calls stay apart in every run that takes no batch while another is in
flight, and every step that does take one can be continued to an overlap. -/
theorem insert_alone_while_oneBatch (callers : Nat) :
    (∀ labels, (storageMachine callers).Steps OneBatch (storageMachine callers).initial labels →
      (storageMachine callers).Always OneUser (storageMachine callers).initial labels) ∧
    (∀ system label next, (storageMachine callers).Reachable system →
      (storageMachine callers).step system label = some next → ¬ OneBatch system label →
      ∃ labels final, (storageMachine callers).run next labels = some final ∧ ¬ OneUser final) :=
  ⟨fun _ => oneUser_of_oneBatch callers,
    fun _ _ _ reachable stepped => overlap_of_second_batch reachable stepped⟩

theorem insert_alone_while_oneBatch_spaced :
    (storageMachine 2).Always OneUser (storageMachine 2).initial
      [.save 1 [1], .flushAndStop 2, .advance 2 true, .save 1 [2], .advance 2 true,
        .advance 2 true, .flushAndStop 1, .advance 1 true, .advance 1 true] :=
  (insert_alone_while_oneBatch 2).1 _ (by decide)

def overlapping : StorageSystem where
  buffer := []
  running := true
  metrics := {}
  threads := [.inserting .flusher [[1]] 0, .inserting .caller [[2]] 0, .idle]
  destruction := .alive
  saved := [[1], [2]]
  taken := [[[1]], [[2]]]
  given := [[[1]], [[2]]]

theorem insert_overlaps : (storageMachine 2).Reachable overlapping ∧ ¬ OneUser overlapping :=
  ⟨⟨[.save 2 [1], .advance 0 true, .advance 0 true, .advance 0 true, .advance 0 true,
    .save 2 [2], .flushAndStop 1, .advance 1 true, .advance 1 true], rfl⟩, by decide⟩

end EventCollector
