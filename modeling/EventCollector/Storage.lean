import EventCollector.Lib.Ledger
import EventCollector.StorageCore

/-!
Custody of every saved record: in the buffer, in a batch that a thread has
swapped out and not flushed yet, or given to `do_flush`.
-/

namespace EventCollector

open Ledger

inductive FlushMove (system : StorageSystem) :
    StoragePc → List (List Bytes) → Metrics → StoragePc → Prop
  | look : FlushMove system .check [] system.metrics .asleep
  | leave : FlushMove system .check [] system.metrics .exited
  | call {role : StorageRole} {batch : List Bytes} : batch ≠ [] →
      FlushMove system (.swapped role batch) [batch] system.metrics (.trying role batch 0)
  | callEmpty {role : StorageRole} :
      FlushMove system (.swapped role []) [[]] system.metrics role.resume
  | begin {role : StorageRole} {batch : List Bytes} {retry : Nat} :
      FlushMove system (.trying role batch retry) [] system.metrics (.inserting role batch retry)
  | returns {role : StorageRole} {batch : List Bytes} {retry : Nat} :
      FlushMove system (.inserting role batch retry) [] system.metrics (.inserted role batch)
  | retry {role : StorageRole} {batch : List Bytes} {retry : Nat} :
      FlushMove system (.inserting role batch retry) [] system.metrics
        (.trying role batch (retry + 1))
  | giveUp {role : StorageRole} {batch : List Bytes} {retry : Nat} :
      FlushMove system (.inserting role batch retry) [] system.metrics (.deadLetter role batch)
  | stored {role : StorageRole} {batch : List Bytes} :
      FlushMove system (.inserted role batch) []
        { system.metrics with totalStored := system.metrics.totalStored + batch.length }
        role.resume
  | logged {role : StorageRole} {batch : List Bytes} :
      FlushMove system (.deadLetter role batch) []
        { system.metrics with totalStoreDead := system.metrics.totalStoreDead + batch.length }
        role.resume
  | lost {role : StorageRole} {batch : List Bytes} :
      FlushMove system (.deadLetter role batch) [] system.metrics role.resume

inductive Taker (system : StorageSystem) : StoragePc → StorageRole → Destruction → Prop
  | flushAndStop : system.destruction = .alive → Taker system .idle .caller .alive
  | periodic : Taker system .asleep .flusher system.destruction
  | last : system.destruction = .joined → Taker system .idle .caller .flushing

inductive StorageMove (system : StorageSystem) : StorageSystem → Prop
  | push {thread : Nat} {record : Bytes} : system.destruction = .alive →
      system.threads[thread]? = some .idle → system.buffer.length + 1 < batchSize →
      StorageMove system (system.push record)
  | fill {thread : Nat} {record : Bytes} : system.destruction = .alive →
      system.threads[thread]? = some .idle → batchSize ≤ system.buffer.length + 1 →
      StorageMove system ((system.push record).swap thread .caller)
  | skip {thread : Nat} {old : StoragePc} {role : StorageRole} {phase : Destruction} :
      system.threads[thread]? = some old → Taker system old role phase → system.buffer = [] →
      StorageMove system { system.place thread role.resume with destruction := phase }
  | take {thread : Nat} {old : StoragePc} {role : StorageRole} {phase : Destruction} :
      system.threads[thread]? = some old → Taker system old role phase → system.buffer ≠ [] →
      StorageMove system { system.swap thread role with destruction := phase }
  | flush {thread : Nat} {old new : StoragePc} {given : List (List Bytes)} {metrics : Metrics} :
      system.threads[thread]? = some old → FlushMove system old given metrics new →
      StorageMove system
        ({ system with given := system.given ++ given, metrics := metrics }.place thread new)
  | destroy : system.destruction = .alive → (∀ pc ∈ system.threads, pc.inCall = false) →
      StorageMove system { system with running := false, destruction := .joining }
  | join : system.destruction = .joining →
      (∀ pc ∈ system.threads, pc.inPeriodicFlush = false) →
      StorageMove system { system with destruction := .joined }
  | finish : system.destruction = .flushing → (∀ pc ∈ system.threads, pc.inCall = false) →
      StorageMove system { system with destruction := .returned }

theorem takeAll_move {system : StorageSystem} {thread : Nat} {old : StoragePc}
    {role : StorageRole} {phase : Destruction} (found : system.threads[thread]? = some old)
    (taker : Taker system old role phase) :
    StorageMove system { system.takeAll thread role with destruction := phase } := by
  unfold StorageSystem.takeAll
  split
  · rename_i empty
    exact .skip found taker (by simpa using empty)
  · rename_i filled
    exact .take found taker (by simpa using filled)

theorem takeAll_phase (system : StorageSystem) (thread : Nat) (role : StorageRole) :
    { system.takeAll thread role with destruction := system.destruction } =
      system.takeAll thread role := by
  unfold StorageSystem.takeAll
  split <;> rfl

theorem advance_move {system next : StorageSystem} {thread : Nat} {outcome : Bool}
    {old : StoragePc} (found : system.threads[thread]? = some old)
    (stepped : system.advance thread outcome old = some next) : StorageMove system next := by
  have moved {given : List (List Bytes)} {metrics : Metrics} {new : StoragePc}
      (move : FlushMove system old given metrics new) :=
    StorageMove.flush found move
  cases old with
  | idle => simp [StorageSystem.advance] at stepped
  | exited => simp [StorageSystem.advance] at stepped
  | check =>
      simp only [StorageSystem.advance, Option.some.injEq] at stepped
      subst next
      split
      · simpa using moved .look
      · simpa using moved .leave
  | asleep =>
      simp only [StorageSystem.advance, Option.some.injEq] at stepped
      subst next
      have taken := takeAll_move found .periodic
      rw [takeAll_phase] at taken
      exact taken
  | swapped role batch =>
      simp only [StorageSystem.advance, Option.some.injEq] at stepped
      subst next
      split
      · rename_i empty
        obtain rfl : batch = [] := by simpa using empty
        exact moved .callEmpty
      · rename_i filled
        exact moved (.call (by simpa using filled))
  | trying role batch retry =>
      simp only [StorageSystem.advance, Option.some.injEq] at stepped
      subst next
      simpa using moved .begin
  | inserting role batch retry =>
      simp only [StorageSystem.advance, Option.some.injEq] at stepped
      subst next
      split
      · simpa using moved .returns
      · split
        · simpa using moved .retry
        · simpa using moved .giveUp
  | inserted role batch =>
      simp only [StorageSystem.advance, Option.some.injEq] at stepped
      subst next
      simpa using moved .stored
  | deadLetter role batch =>
      simp only [StorageSystem.advance, Option.some.injEq] at stepped
      subst next
      cases outcome with
      | true => simpa using moved .logged
      | false => simpa using moved .lost

theorem storageStep_move {system next : StorageSystem} {label : StorageLabel}
    (stepped : system.step label = some next) : StorageMove system next := by
  cases label with
  | save thread record =>
      simp only [StorageSystem.step, Option.ite_none_right_eq_some] at stepped
      obtain ⟨⟨alive, found⟩, stepped⟩ := stepped
      split at stepped
      · rename_i small
        simp only [Option.some.injEq] at stepped
        subst next
        exact .push alive found (by simpa [StorageSystem.push] using small)
      · rename_i full
        simp only [Option.some.injEq] at stepped
        subst next
        exact .fill alive found (by simpa [StorageSystem.push] using full)
  | flushAndStop thread =>
      simp only [StorageSystem.step, Option.ite_none_right_eq_some, Option.some.injEq] at stepped
      obtain ⟨⟨alive, found⟩, rfl⟩ := stepped
      have taken := takeAll_move found (.flushAndStop alive)
      rw [← alive, takeAll_phase] at taken
      exact taken
  | advance thread outcome =>
      simp only [StorageSystem.step, Option.bind_eq_some_iff] at stepped
      obtain ⟨old, found, advanced⟩ := stepped
      exact advance_move found advanced
  | destroy =>
      simp only [StorageSystem.step, Option.ite_none_right_eq_some, Option.some.injEq] at stepped
      obtain ⟨⟨alive, quiet⟩, rfl⟩ := stepped
      exact .destroy alive quiet
  | join =>
      simp only [StorageSystem.step, Option.ite_none_right_eq_some, Option.some.injEq] at stepped
      obtain ⟨⟨joining, ended⟩, rfl⟩ := stepped
      exact .join joining ended
  | lastFlush thread =>
      simp only [StorageSystem.step, Option.ite_none_right_eq_some, Option.some.injEq] at stepped
      obtain ⟨⟨joined, found⟩, rfl⟩ := stepped
      exact takeAll_move found (.last joined)
  | finish =>
      simp only [StorageSystem.step, Option.ite_none_right_eq_some, Option.some.injEq] at stepped
      obtain ⟨⟨flushing, quiet⟩, rfl⟩ := stepped
      exact .finish flushing quiet

@[simp] theorem swap_buffer (system : StorageSystem) (thread : Nat) (role : StorageRole) :
    (system.swap thread role).buffer = [] := rfl

@[simp] theorem swap_taken (system : StorageSystem) (thread : Nat) (role : StorageRole) :
    (system.swap thread role).taken = system.taken ++ [system.buffer] := rfl

@[simp] theorem push_buffer (system : StorageSystem) (record : Bytes) :
    (system.push record).buffer = system.buffer ++ [record] := rfl

theorem push_ordered {system : StorageSystem} (record : Bytes)
    (holds : system.taken.flatten ++ system.buffer = system.saved) :
    (system.push record).taken.flatten ++ (system.push record).buffer =
      (system.push record).saved := by
  simp [StorageSystem.push, ← holds]

/-! Custody of the batches. -/

namespace StoragePc

def pending : StoragePc → Multiset (List Bytes)
  | .swapped _ batch => {batch}
  | _ => 0

end StoragePc

@[simp] theorem swapped_pending (role : StorageRole) (batch : List Bytes) :
    (StoragePc.swapped role batch).pending = {batch} := rfl

@[simp] theorem resume_pending (role : StorageRole) : role.resume.pending = 0 := by
  cases role <;> rfl

@[simp] theorem resume_inCall (role : StorageRole) : role.resume.inCall = false := by
  cases role <;> rfl

theorem resume_inPeriodicFlush {role : StorageRole} {batch : List Bytes}
    (outside : (StoragePc.swapped role batch).inPeriodicFlush = false) :
    role.resume.inPeriodicFlush = false := by
  cases role with
  | caller => rfl
  | flusher => simp [StoragePc.inPeriodicFlush] at outside

structure Batched (system : StorageSystem) : Prop where
  ordered : system.taken.flatten ++ system.buffer = system.saved
  small : system.buffer.length < batchSize
  sized : ∀ batch ∈ system.taken, 1 ≤ batch.length ∧ batch.length ≤ batchSize
  held : bag system.taken = bag system.given + tally StoragePc.pending system.threads
  quiet : system.destruction = .joining ∨ system.destruction = .joined ∨
    system.destruction = .returned → ∀ pc ∈ system.threads, pc.inCall = false
  joined : system.destruction = .joined ∨ system.destruction = .flushing ∨
    system.destruction = .returned → ∀ pc ∈ system.threads, pc.inPeriodicFlush = false
  emptied : system.destruction = .flushing ∨ system.destruction = .returned → system.buffer = []

theorem flushMove_pending {system : StorageSystem} {old new : StoragePc}
    {given : List (List Bytes)} {metrics : Metrics}
    (moved : FlushMove system old given metrics new) : bag given + new.pending = old.pending := by
  cases moved with
  | call _ => exact add_zero _
  | callEmpty => rw [resume_pending, add_zero, swapped_pending, bag_singleton]
  | stored => exact (zero_add _).trans (resume_pending _)
  | logged => exact (zero_add _).trans (resume_pending _)
  | lost => exact (zero_add _).trans (resume_pending _)
  | _ => rfl

theorem flushMove_place {system : StorageSystem} {old new : StoragePc}
    {given : List (List Bytes)} {metrics : Metrics}
    (moved : FlushMove system old given metrics new) :
    (old.inCall = false → new.inCall = false) ∧
    (old.inPeriodicFlush = false → new.inPeriodicFlush = false) := by
  cases moved with
  | look => exact ⟨id, id⟩
  | leave => exact ⟨id, fun _ => rfl⟩
  | callEmpty => exact ⟨fun _ => resume_inCall _, resume_inPeriodicFlush⟩
  | @stored role _ | @logged role _ | @lost role _ =>
      cases role <;> simp [StorageRole.resume, StoragePc.inCall, StoragePc.inPeriodicFlush]
  | @call role _ _ | @begin role _ _ | @returns role _ _ | @retry role _ _ | @giveUp role _ _ =>
      cases role <;> exact ⟨id, id⟩

theorem taker_pending {system : StorageSystem} {old : StoragePc} {role : StorageRole}
    {phase : Destruction} (taker : Taker system old role phase) : old.pending = 0 := by
  cases taker <;> rfl

theorem swap_held (system : StorageSystem) {thread : Nat} {old : StoragePc} (role : StorageRole)
    (holds : bag system.taken = bag system.given + tally StoragePc.pending system.threads)
    (found : system.threads[thread]? = some old) (empty : old.pending = 0) :
    bag (system.swap thread role).taken =
      bag system.given + tally StoragePc.pending (system.swap thread role).threads := by
  refine account_set holds found ?_
  rw [swap_taken, bag_append, bag_singleton, swapped_pending, empty]
  ac_rfl

theorem swap_ordered (system : StorageSystem) (thread : Nat) (role : StorageRole)
    (holds : system.taken.flatten ++ system.buffer = system.saved) :
    (system.swap thread role).taken.flatten ++ (system.swap thread role).buffer =
      system.saved := by
  simpa using holds

theorem swap_sized (system : StorageSystem) (thread : Nat) (role : StorageRole)
    (holds : ∀ batch ∈ system.taken, 1 ≤ batch.length ∧ batch.length ≤ batchSize)
    (filled : 1 ≤ system.buffer.length) (bounded : system.buffer.length ≤ batchSize) :
    ∀ batch ∈ (system.swap thread role).taken, 1 ≤ batch.length ∧ batch.length ≤ batchSize := by
  intro batch member
  rw [swap_taken, List.mem_append, List.mem_singleton] at member
  rcases member with old | rfl
  · exact holds batch old
  · exact ⟨filled, bounded⟩

theorem taker_phase {system : StorageSystem} (holds : Batched system) {thread : Nat}
    {old new : StoragePc} {role : StorageRole} {phase : Destruction}
    (found : system.threads[thread]? = some old) (taker : Taker system old role phase)
    (placed : new = role.resume ∨ ∃ batch, new = .swapped role batch) :
    (phase = .joining ∨ phase = .joined ∨ phase = .returned →
      ∀ pc ∈ system.threads.set thread new, pc.inCall = false) ∧
    (phase = .joined ∨ phase = .flushing ∨ phase = .returned →
      ∀ pc ∈ system.threads.set thread new, pc.inPeriodicFlush = false) ∧
    (phase = .flushing ∨ phase = .returned → system.destruction = .joined) := by
  have member := List.mem_of_getElem? found
  cases taker with
  | flushAndStop alive => simp
  | periodic =>
      have working : system.destruction ≠ .joined ∧ system.destruction ≠ .flushing ∧
          system.destruction ≠ .returned := by
        refine ⟨fun phase => ?_, fun phase => ?_, fun phase => ?_⟩
        · simpa [StoragePc.inPeriodicFlush] using holds.joined (by simp [phase]) _ member
        · simpa [StoragePc.inPeriodicFlush] using holds.joined (by simp [phase]) _ member
        · simpa [StoragePc.inPeriodicFlush] using holds.joined (by simp [phase]) _ member
      refine ⟨fun reached => forall_set (holds.quiet reached) ?_, ?_, ?_⟩
      · rcases placed with rfl | ⟨batch, rfl⟩ <;> rfl
      · simp [working]
      · simp [working]
  | last reached =>
      refine ⟨by simp, fun _ => forall_set (holds.joined (Or.inl reached)) ?_, fun _ => reached⟩
      rcases placed with rfl | ⟨batch, rfl⟩ <;> rfl

theorem batchSize_pos : 0 < batchSize := by
  decide

theorem batched_step {system next : StorageSystem} (holds : Batched system)
    (moved : StorageMove system next) : Batched next := by
  have small := holds.small
  cases moved with
  | @push thread record alive found room =>
      refine ⟨push_ordered record holds.ordered, ?_, holds.sized, holds.held, holds.quiet,
        holds.joined, ?_⟩
      · rw [push_buffer, List.length_append, List.length_singleton]
        exact room
      · simp [StorageSystem.push, alive]
  | @fill thread record alive found full =>
      refine ⟨swap_ordered _ thread .caller (push_ordered record holds.ordered), batchSize_pos, ?_,
        swap_held (system.push record) .caller holds.held found rfl, ?_, ?_, fun _ => rfl⟩
      · refine swap_sized (system.push record) thread .caller holds.sized ?_ ?_ <;>
          rw [push_buffer, List.length_append, List.length_singleton] <;> omega
      · simp [StorageSystem.swap, StorageSystem.place, StorageSystem.push, alive]
      · simp [StorageSystem.swap, StorageSystem.place, StorageSystem.push, alive]
  | skip found taker empty =>
      obtain ⟨quiet, joined, -⟩ := taker_phase holds found taker (Or.inl rfl)
      refine ⟨holds.ordered, small, holds.sized, ?_, quiet, joined, fun _ => empty⟩
      refine account_set holds.held found ?_
      rw [resume_pending, taker_pending taker]
      rfl
  | @take thread old role phase found taker filled =>
      obtain ⟨quiet, joined, -⟩ := taker_phase holds found taker (Or.inr ⟨system.buffer, rfl⟩)
      have positive := List.length_pos_of_ne_nil filled
      exact ⟨swap_ordered system thread role holds.ordered, batchSize_pos,
        swap_sized system thread role holds.sized (by omega) (by omega),
        swap_held system role holds.held found (taker_pending taker), quiet, joined, fun _ => rfl⟩
  | @flush thread old new given metrics found moved =>
      obtain ⟨quiet, periodic⟩ := flushMove_place moved
      have member := List.mem_of_getElem? found
      refine ⟨holds.ordered, small, holds.sized, ?_, ?_, ?_, holds.emptied⟩
      · refine account_set holds.held found ?_
        change bag (system.given ++ given) + new.pending + bag system.taken =
          bag system.given + old.pending + bag system.taken
        rw [bag_append, ← flushMove_pending moved]
        ac_rfl
      · exact fun reached =>
          forall_set (holds.quiet reached) (quiet (holds.quiet reached _ member))
      · exact fun reached =>
          forall_set (holds.joined reached) (periodic (holds.joined reached _ member))
  | destroy alive quiet =>
      exact ⟨holds.ordered, small, holds.sized, holds.held, fun _ => quiet, by simp, by simp⟩
  | join joining exited =>
      exact ⟨holds.ordered, small, holds.sized, holds.held,
        fun _ => holds.quiet (Or.inl joining), fun _ => exited, by simp⟩
  | finish flushing quiet =>
      exact ⟨holds.ordered, small, holds.sized, holds.held, fun _ => quiet,
        fun _ => holds.joined (Or.inr (Or.inl flushing)),
        fun _ => holds.emptied (Or.inl flushing)⟩

theorem batched_initial (callers : Nat) : Batched (storageMachine callers).initial := by
  have nothing := tally_replicate_zero StoragePc.pending .idle rfl callers
  refine ⟨rfl, batchSize_pos, ?_, ?_, ?_, ?_, fun _ => rfl⟩
  · simp [storageMachine]
  · change 0 = 0 + (0 + tally StoragePc.pending (List.replicate callers .idle))
    rw [nothing]
    rfl
  · simp [storageMachine]
  · simp [storageMachine]

theorem storageMachine_batched {callers : Nat} {system : StorageSystem}
    (reachable : (storageMachine callers).Reachable system) : Batched system :=
  Machine.reachable_invariant Batched (batched_initial callers)
    (fun _ _ _ holds stepped => batched_step holds (storageStep_move stepped)) reachable

theorem returned_pending {system : StorageSystem} (holds : Batched system)
    (returned : system.destruction = .returned) :
    tally StoragePc.pending system.threads = 0 := by
  refine tally_eq_zero fun pc member => ?_
  have quiet := holds.quiet (Or.inr (Or.inr returned)) pc member
  have joined := holds.joined (Or.inr (Or.inr returned)) pc member
  cases pc with
  | swapped role batch => cases role <;> simp_all [StoragePc.inCall, StoragePc.inPeriodicFlush]
  | _ => rfl

/-- No saved record is lost, duplicated or reordered on its way into a batch, and
once `~Storage` has returned every batch has been given to `do_flush` once. -/
theorem storageMachine_keepsRecords (callers : Nat) {system : StorageSystem}
    (reachable : (storageMachine callers).Reachable system) :
    system.taken.flatten ++ system.buffer = system.saved ∧
    system.buffer.length < 1000 ∧
    (∀ batch ∈ system.given, 1 ≤ batch.length ∧ batch.length ≤ 1000) ∧
    (system.destruction = .returned → system.buffer = [] ∧ system.given.Perm system.taken ∧
      system.given.flatten.Perm system.saved) := by
  have holds := storageMachine_batched reachable
  refine ⟨holds.ordered, holds.small, ?_, ?_⟩
  · intro batch member
    have handed : batch ∈ bag system.taken := by
      rw [holds.held]
      exact Multiset.mem_add.mpr (Or.inl member)
    exact holds.sized batch handed
  · intro returned
    have empty := holds.emptied (Or.inr returned)
    have held := holds.held
    rw [returned_pending holds returned, add_zero] at held
    have once : system.given.Perm system.taken := (bag_eq_bag.mp held).symm
    refine ⟨empty, once, ?_⟩
    have ordered := holds.ordered
    rw [empty, List.append_nil] at ordered
    rw [← ordered]
    exact once.flatten

theorem storageMachine_keepsRecords_late : ∃ system : StorageSystem,
    system.destruction = .returned ∧ system.saved = [[1], [2]] ∧
    system.given.flatten.Perm system.saved ∧ system.metrics.totalStored = 2 := by
  let labels : List StorageLabel :=
    [.save 1 [1], .advance 0 true, .advance 0 true, .save 1 [2], .destroy, .advance 0 true,
      .advance 0 true, .advance 0 true, .advance 0 true, .advance 0 true, .join, .lastFlush 1,
      .advance 1 true, .advance 1 true, .advance 1 true, .advance 1 true, .finish]
  have reachable : (storageMachine 1).Reachable
      ⟨[], false, { totalStored := 2 }, [.exited, .idle], .returned, [[1], [2]], [[[1]], [[2]]],
        [[[1]], [[2]]]⟩ := ⟨labels, rfl⟩
  have kept := storageMachine_keepsRecords 1 reachable
  exact ⟨_, rfl, rfl, (kept.2.2.2 rfl).2.2, rfl⟩

end EventCollector
