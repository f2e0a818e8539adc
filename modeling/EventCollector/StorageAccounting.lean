import EventCollector.Storage

/-!
How many records are where: every record that `save` has been given is in the buffer, in
a batch that some thread is flushing, counted as stored or as dead, or lost with a
`dead_letter.log` that did not open.
-/

namespace EventCollector

open Ledger

/-- Without a batch. -/
def StoragePc.handsFree : StoragePc → Bool
  | .idle | .check | .asleep | .exited => true
  | _ => false

def StoragePc.carried : StoragePc → Nat
  | .swapped _ batch | .trying _ batch _ | .inserting _ batch _ | .inserted _ batch
  | .deadLetter _ batch => batch.length
  | .idle | .check | .asleep | .exited => 0

/-- The records that a step gives up. -/
def StorageSystem.loses (system : StorageSystem) : StorageLabel → Nat
  | .advance thread false =>
      match system.threads[thread]? with
      | some (.deadLetter _ batch) => batch.length
      | _ => 0
  | _ => 0

/-! What comes of the records, in the order in which it is decided. -/

inductive Fate
  | inserted
  | dead
  | lost
  deriving DecidableEq

/-- An `Insert` returns, a batch goes to the log, or the log does not open. -/
def StorageSystem.decides (system : StorageSystem) : StorageLabel → List (Fate × Bytes)
  | .advance thread outcome =>
      match system.threads[thread]? with
      | some (.inserting _ batch _) => if outcome then batch.map (.inserted, ·) else []
      | some (.deadLetter _ batch) => batch.map (if outcome then .dead else .lost, ·)
      | _ => []
  | _ => []

def Fate.count (fate : Fate) (decided : List (Fate × Bytes)) : Nat :=
  decided.countP fun decision => decision.1 = fate

/-- The batch of a thread that may still turn out either way. -/
def StoragePc.undecided : StoragePc → Multiset Bytes
  | .swapped _ batch | .trying _ batch _ | .inserting _ batch _ | .deadLetter _ batch => bag batch
  | .idle | .check | .asleep | .inserted _ _ | .exited => 0

/-- The records that are inserted and not counted yet. -/
def StoragePc.uncounted : StoragePc → Nat
  | .inserted _ batch => batch.length
  | _ => 0

structure Fated (system : StorageSystem) (decided : List (Fate × Bytes)) : Prop where
  records : bag system.saved = bag system.buffer + bag (decided.map Prod.snd) +
    tally StoragePc.undecided system.threads
  stored : Fate.inserted.count decided =
    system.metrics.totalStored + tally StoragePc.uncounted system.threads
  dead : Fate.dead.count decided = system.metrics.totalStoreDead

@[simp] theorem resume_carried (role : StorageRole) : role.resume.carried = 0 := by
  cases role <;> rfl

@[simp] theorem resume_undecided (role : StorageRole) : role.resume.undecided = 0 := by
  cases role <;> rfl

@[simp] theorem resume_uncounted (role : StorageRole) : role.resume.uncounted = 0 := by
  cases role <;> rfl

theorem free_undecided {pc : StoragePc} (free : pc.handsFree = true) : pc.undecided = 0 := by
  cases pc <;> simp [StoragePc.handsFree] at free <;> rfl

theorem free_uncounted {pc : StoragePc} (free : pc.handsFree = true) : pc.uncounted = 0 := by
  cases pc <;> simp [StoragePc.handsFree] at free <;> rfl

@[simp] theorem count_nil (fate : Fate) : fate.count [] = 0 := rfl

@[simp] theorem count_append (fate : Fate) (first second : List (Fate × Bytes)) :
    fate.count (first ++ second) = fate.count first + fate.count second :=
  List.countP_append

@[simp] theorem count_batch (fate other : Fate) (batch : List Bytes) :
    fate.count (batch.map (other, ·)) = if other = fate then batch.length else 0 := by
  unfold Fate.count
  split
  · rename_i same
    rw [List.countP_map, List.countP_eq_length.mpr (by simp [same])]
  · rename_i different
    rw [List.countP_eq_zero.mpr]
    simp [different]

@[simp] theorem batch_records (fate : Fate) (batch : List Bytes) :
    (batch.map (fate, ·)).map Prod.snd = batch := by
  rw [List.map_map]
  exact List.map_id batch

theorem fated_push {system : StorageSystem} {decided : List (Fate × Bytes)} (record : Bytes)
    (fated : Fated system decided) : Fated (system.push record) decided := by
  refine ⟨?_, fated.stored, fated.dead⟩
  simp only [StorageSystem.push, bag_append, fated.records]
  ac_rfl

/-- A thread moves on and counts, and `more` is decided by that. -/
theorem fated_counts {system : StorageSystem} {decided more : List (Fate × Bytes)} {thread : Nat}
    {old new : StoragePc} {metrics : Metrics} (fated : Fated system decided)
    (found : system.threads[thread]? = some old)
    (records : bag (more.map Prod.snd) + new.undecided = old.undecided)
    (stored : metrics.totalStored + new.uncounted =
      system.metrics.totalStored + old.uncounted + Fate.inserted.count more)
    (dead : metrics.totalStoreDead = system.metrics.totalStoreDead + Fate.dead.count more) :
    Fated ({ system with metrics := metrics }.place thread new) (decided ++ more) := by
  have exchanged := tally_set StoragePc.uncounted new found
  have counted := fated.stored
  have buried := fated.dead
  refine ⟨?_, ?_, ?_⟩
  · refine account_set fated.records found ?_
    rw [List.map_append, bag_append, ← records]
    simp only [StorageSystem.place]
    ac_rfl
  · simp only [StorageSystem.place, count_append]
    omega
  · rw [count_append, buried]
    exact dead.symm

/-- A thread moves on. -/
theorem fated_place {system : StorageSystem} {decided : List (Fate × Bytes)} {thread : Nat}
    {old new : StoragePc} (fated : Fated system decided)
    (found : system.threads[thread]? = some old) (undecided : new.undecided = old.undecided)
    (uncounted : new.uncounted = old.uncounted) : Fated (system.place thread new) decided := by
  have moved : Fated (system.place thread new) (decided ++ []) :=
    fated_counts fated found (by simp [undecided]) (by simp [uncounted]) (by simp)
  rwa [List.append_nil] at moved

theorem fated_swap {system : StorageSystem} {decided : List (Fate × Bytes)} {thread : Nat}
    {old : StoragePc} (role : StorageRole) (fated : Fated system decided)
    (found : system.threads[thread]? = some old) (free : old.handsFree = true) :
    Fated (system.swap thread role) decided := by
  have held : tally StoragePc.undecided (system.threads.set thread (.swapped role system.buffer)) =
      tally StoragePc.undecided system.threads + bag system.buffer := by
    have exchanged := tally_set StoragePc.undecided (.swapped role system.buffer) found
    rwa [free_undecided free, add_zero] at exchanged
  have counted := tally_set StoragePc.uncounted (.swapped role system.buffer) found
  have stored := fated.stored
  rw [free_uncounted free] at counted
  refine ⟨?_, ?_, fated.dead⟩
  · have taken : bag system.saved = bag [] + bag (decided.map Prod.snd) +
        (tally StoragePc.undecided system.threads + bag system.buffer) := by
      rw [fated.records, bag_nil, zero_add]
      ac_rfl
    exact taken.trans (by rw [← held]; rfl)
  · simp only [StorageSystem.swap, StorageSystem.place, StoragePc.uncounted] at counted ⊢
    omega

theorem fated_takeAll {system : StorageSystem} {decided : List (Fate × Bytes)} {thread : Nat}
    {old : StoragePc} (role : StorageRole) (fated : Fated system decided)
    (found : system.threads[thread]? = some old) (free : old.handsFree = true) :
    Fated (system.takeAll thread role) decided := by
  unfold StorageSystem.takeAll
  split
  · exact fated_place fated found (by rw [resume_undecided, free_undecided free])
      (by rw [resume_uncounted, free_uncounted free])
  · exact fated_swap role fated found free

theorem fated_advance {system next : StorageSystem} {decided : List (Fate × Bytes)}
    {thread : Nat} {outcome : Bool} (fated : Fated system decided)
    (stepped : system.step (.advance thread outcome) = some next) :
    Fated next (decided ++ system.decides (.advance thread outcome)) := by
  obtain ⟨pc, found, advanced⟩ := Option.bind_eq_some_iff.mp stepped
  simp only [StorageSystem.decides, found]
  cases pc with
  | idle => simp [StorageSystem.advance] at advanced
  | exited => simp [StorageSystem.advance] at advanced
  | check =>
      obtain rfl := Option.some.inj advanced
      rw [List.append_nil]
      exact fated_place fated found (by split <;> rfl) (by split <;> rfl)
  | asleep =>
      obtain rfl := Option.some.inj advanced
      rw [List.append_nil]
      exact fated_takeAll .flusher fated found rfl
  | swapped role batch =>
      obtain rfl := Option.some.inj advanced
      rw [List.append_nil]
      have given : Fated { system with given := system.given ++ [batch] } decided :=
        ⟨fated.records, fated.stored, fated.dead⟩
      refine fated_place given found ?_ ?_
      · split
        · rename_i empty
          rw [List.isEmpty_iff.mp empty]
          exact resume_undecided role
        · rfl
      · split
        · exact resume_uncounted role
        · rfl
  | trying role batch retry =>
      obtain rfl := Option.some.inj advanced
      rw [List.append_nil]
      exact fated_place fated found rfl rfl
  | inserting role batch retry =>
      obtain rfl := Option.some.inj advanced
      cases outcome with
      | true =>
          refine fated_counts fated found ?_ ?_ ?_
          · simp [StoragePc.undecided]
          · simp [StoragePc.uncounted]
          · simp
      | false =>
          simp only [Bool.false_eq_true, if_false, List.append_nil]
          exact fated_place fated found (by split <;> rfl) (by split <;> rfl)
  | inserted role batch =>
      obtain rfl := Option.some.inj advanced
      refine fated_counts fated found ?_ ?_ rfl
      · rw [resume_undecided]
        rfl
      · rw [resume_uncounted]
        rfl
  | deadLetter role batch =>
      obtain rfl := Option.some.inj advanced
      refine fated_counts fated found ?_ ?_ ?_
      · rw [resume_undecided, batch_records, add_zero]
        rfl
      · rw [resume_uncounted]
        cases outcome <;> simp [StoragePc.uncounted]
      · cases outcome <;> simp

/-- One section under the mutex, one `Insert` or one append moves records from one place
to another and forgets none of them. -/
theorem fated_step {system next : StorageSystem} {decided : List (Fate × Bytes)}
    {label : StorageLabel} (fated : Fated system decided)
    (stepped : system.step label = some next) : Fated next (decided ++ system.decides label) := by
  cases label with
  | advance thread outcome => exact fated_advance fated stepped
  | save thread record =>
      change Fated next (decided ++ [])
      rw [List.append_nil]
      simp only [StorageSystem.step, Option.ite_none_right_eq_some] at stepped
      obtain ⟨⟨-, found⟩, stepped⟩ := stepped
      have pushed := fated_push record fated
      split at stepped
      · exact Option.some.inj stepped ▸ pushed
      · exact Option.some.inj stepped ▸ fated_swap .caller pushed found rfl
  | flushAndStop thread =>
      change Fated next (decided ++ [])
      rw [List.append_nil]
      simp only [StorageSystem.step, Option.ite_none_right_eq_some, Option.some.injEq] at stepped
      obtain ⟨⟨-, found⟩, rfl⟩ := stepped
      exact fated_takeAll .caller fated found rfl
  | lastFlush thread =>
      change Fated next (decided ++ [])
      rw [List.append_nil]
      simp only [StorageSystem.step, Option.ite_none_right_eq_some, Option.some.injEq] at stepped
      obtain ⟨⟨-, found⟩, rfl⟩ := stepped
      have taken := fated_takeAll .caller fated found rfl
      exact ⟨taken.records, taken.stored, taken.dead⟩
  | _ =>
      change Fated next (decided ++ [])
      rw [List.append_nil]
      simp only [StorageSystem.step, Option.ite_none_right_eq_some, Option.some.injEq] at stepped
      obtain ⟨-, rfl⟩ := stepped
      exact ⟨fated.records, fated.stored, fated.dead⟩

theorem fated_initial (callers : Nat) : Fated (storageMachine callers).initial [] := by
  have idle : ∀ pc ∈ (storageMachine callers).initial.threads, pc.handsFree = true := by
    intro pc member
    rcases List.mem_cons.mp member with rfl | caller
    · rfl
    · rw [List.eq_of_mem_replicate caller]
      rfl
  have undecided := tally_eq_zero fun pc member => free_undecided (idle pc member)
  have uncounted := tally_eq_zero fun pc member => free_uncounted (idle pc member)
  refine ⟨?_, ?_, rfl⟩
  · rw [undecided]
    rfl
  · rw [uncounted]
    rfl

/-! The same in numbers. -/

theorem carried_eq (threads : List StoragePc) : tally StoragePc.carried threads =
    (tally StoragePc.undecided threads).card + tally StoragePc.uncounted threads := by
  rw [card_tally]
  induction threads with
  | nil => rfl
  | cons pc rest ih =>
      have own : pc.carried = pc.undecided.card + pc.uncounted := by
        cases pc <;> simp [StoragePc.carried, StoragePc.undecided, StoragePc.uncounted, bag]
      simp only [tally_cons, ih, own]
      omega

theorem fates_length (decided : List (Fate × Bytes)) : decided.length =
    Fate.inserted.count decided + Fate.dead.count decided + Fate.lost.count decided := by
  induction decided with
  | nil => rfl
  | cons decision rest ih =>
      obtain ⟨fate, record⟩ := decision
      simp only [Fate.count, List.length_cons, List.countP_cons] at ih ⊢
      cases fate <;> simp <;> omega

theorem loses_eq (system : StorageSystem) (label : StorageLabel) :
    system.loses label = Fate.lost.count (system.decides label) := by
  cases label with
  | advance thread outcome =>
      cases found : system.threads[thread]? with
      | none => cases outcome <;> simp [StorageSystem.loses, StorageSystem.decides, found]
      | some pc =>
          cases outcome <;> cases pc <;>
            simp [StorageSystem.loses, StorageSystem.decides, found]
  | _ => rfl

theorem fated_lengths {system : StorageSystem} {decided : List (Fate × Bytes)}
    (fated : Fated system decided) : system.saved.length = system.buffer.length +
      system.metrics.totalStored + system.metrics.totalStoreDead + Fate.lost.count decided +
      tally StoragePc.carried system.threads := by
  have sizes := congrArg Multiset.card fated.records
  have saved : (bag system.saved).card = system.saved.length := rfl
  have buffer : (bag system.buffer).card = system.buffer.length := rfl
  have records : (bag (decided.map Prod.snd)).card = decided.length := List.length_map _
  rw [Multiset.card_add, Multiset.card_add, saved, buffer, records, fates_length] at sizes
  have stored := fated.stored
  have dead := fated.dead
  have carried := carried_eq system.threads
  omega

/-! When nobody holds a batch and nothing is buffered. -/

structure Flushed (system : StorageSystem) : Prop where
  buffer : system.buffer = []
  free : ∀ pc ∈ system.threads, pc.handsFree = true

theorem flushed_carried {system : StorageSystem} (flushed : Flushed system) :
    tally StoragePc.carried system.threads = 0 := by
  refine tally_eq_zero fun pc member => ?_
  have free := flushed.free pc member
  cases pc <;> simp [StoragePc.handsFree] at free <;> rfl

theorem flushed_pending {system : StorageSystem} (flushed : Flushed system) :
    tally StoragePc.pending system.threads = 0 := by
  refine tally_eq_zero fun pc member => ?_
  have free := flushed.free pc member
  cases pc <;> simp [StoragePc.handsFree] at free <;> rfl

theorem flushed_given {system : StorageSystem} (batched : Batched system)
    (flushed : Flushed system) : system.given.flatten.Perm system.saved := by
  have held := batched.held
  have ordered := batched.ordered
  rw [flushed_pending flushed, add_zero] at held
  rw [flushed.buffer, List.append_nil] at ordered
  exact ordered ▸ (bag_eq_bag.mp held.symm).flatten

theorem returned_flushed {system : StorageSystem} (batched : Batched system)
    (returned : system.destruction = .returned) : Flushed system := by
  refine ⟨batched.emptied (Or.inr returned), fun pc member => ?_⟩
  have quiet := batched.quiet (Or.inr (Or.inr returned)) pc member
  have joined := batched.joined (Or.inr (Or.inr returned)) pc member
  cases pc with
  | idle => rfl
  | check => rfl
  | asleep => rfl
  | exited => rfl
  | swapped role batch | trying role batch retry | inserting role batch retry
  | inserted role batch | deadLetter role batch =>
      cases role <;> simp [StoragePc.inCall, StoragePc.inPeriodicFlush] at quiet joined

end EventCollector
