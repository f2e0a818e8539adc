import EventCollector.DeadLetterFormat
import EventCollector.DeadLetterRotation
import EventCollector.ProcessExit

/-!
The whole process with the files that `write_dead_letter` leaves. Whichever thread flushes
and however the system calls of a write turn out, every record that was passed on is in a
finished `Insert`, can be read back from one of the files, or was in a batch for which the
log did not open.
-/

namespace EventCollector

open Ledger

variable {capacity : Nat}

structure Filed (capacity : Nat) where
  process : Process capacity
  directory : Directory FileName Bytes

/-- `disk` is read in a step that runs `write_dead_letter`. -/
structure FiledLabel where
  process : ProcessLabel
  disk : DiskOutcome
  deriving DecidableEq

/-- The batch with which the thread that moves is in `write_dead_letter`, and whether the
step says that the log opens. -/
def Process.writes (process : Process capacity) : ProcessLabel → Option (List Bytes × Bool)
  | .thread _ (.storage thread outcome) =>
      match process.pipeline.storage.threads[thread]? with
      | some (.deadLetter _ batch) => some (batch, outcome)
      | _ => none
  | _ => none

def Filed.step (parse : Bytes → Option Event) (deployment : Deployment) (filed : Filed capacity)
    (label : FiledLabel) : Option (Filed capacity) :=
  match filed.process.writes label.process with
  | none =>
      (filed.process.step parse deployment label.process).map fun process =>
        { filed with process := process }
  | some (batch, opens) =>
      if opens = label.disk.opens then
        (filed.process.step parse deployment label.process).map fun process =>
          { process := process
            directory := (writeDeadLetter label.disk
              ⟨filed.directory, filed.process.pipeline.storage.metrics⟩ batch).directory }
      else none

/-- `directory` is what earlier runs have left. -/
def filedMachine (parse : Bytes → Option Event) (deployment : Deployment)
    (redis : CounterStore Bytes) (directory : Directory FileName Bytes)
    (capacity sessions workers : Nat) : Machine (Filed capacity) FiledLabel where
  initial :=
    { process := (processMachine parse deployment redis capacity sessions workers).initial
      directory := directory }
  step := Filed.step parse deployment

def Filed.decides (filed : Filed capacity) (label : FiledLabel) : List (Fate × Bytes) :=
  filed.process.decides label.process

/-- The records of which it was decided so. -/
def Fate.records (fate : Fate) (decided : List (Fate × Bytes)) : List Bytes :=
  (decided.filter fun decision => decision.1 = fate).map Prod.snd

/-- A reader of a file splits it at the separators. -/
def readLog (content : Bytes) : List Bytes := (Split.split separator content).dropLast

section

variable {parse : Bytes → Option Event} {deployment : Deployment}

/-! One step. -/

theorem filedStep_process {filed next : Filed capacity} {label : FiledLabel}
    (stepped : filed.step parse deployment label = some next) :
    filed.process.step parse deployment label.process = some next.process := by
  unfold Filed.step at stepped
  split at stepped
  · obtain ⟨process, moved, rfl⟩ := Option.map_eq_some_iff.mp stepped
    exact moved
  · split at stepped
    · obtain ⟨process, moved, rfl⟩ := Option.map_eq_some_iff.mp stepped
      exact moved
    · cases stepped

/-- Only `write_dead_letter` touches the files. -/
theorem filedStep_files {filed next : Filed capacity} {label : FiledLabel}
    (stepped : filed.step parse deployment label = some next) :
    (filed.process.writes label.process = none ∧ next.directory = filed.directory) ∨
    ∃ batch, filed.process.writes label.process = some (batch, label.disk.opens) ∧
      next.directory = (writeDeadLetter label.disk
        ⟨filed.directory, filed.process.pipeline.storage.metrics⟩ batch).directory := by
  unfold Filed.step at stepped
  split at stepped
  · rename_i quiet
    obtain ⟨process, -, rfl⟩ := Option.map_eq_some_iff.mp stepped
    exact Or.inl ⟨quiet, rfl⟩
  · rename_i batch opens writes
    simp only [Option.ite_none_right_eq_some, Option.map_eq_some_iff] at stepped
    obtain ⟨rfl, process, -, rfl⟩ := stepped
    exact Or.inr ⟨batch, writes, rfl⟩

@[simp] theorem records_append (fate : Fate) (first second : List (Fate × Bytes)) :
    fate.records (first ++ second) = fate.records first ++ fate.records second := by
  simp only [Fate.records, List.filter_append, List.map_append]

@[simp] theorem records_batch (fate other : Fate) (batch : List Bytes) :
    fate.records (batch.map (other, ·)) = if other = fate then batch else [] := by
  unfold Fate.records
  split
  · rename_i same
    rw [List.filter_eq_self.mpr (by simp [same])]
    exact batch_records other batch
  · rename_i different
    rw [List.filter_eq_nil_iff.mpr (by simp [different])]
    rfl

/-- A step adds to the dead letters what it writes to an open log. -/
theorem decides_dead (process : Process capacity) (label : ProcessLabel) :
    Fate.dead.records (process.decides label) =
      match process.writes label with
      | some (batch, true) => batch
      | _ => [] := by
  cases label with
  | main input => rfl
  | thread clock label =>
      cases label with
      | storage thread outcome =>
          simp only [Process.decides, Process.writes, StorageSystem.decides]
          cases process.pipeline.storage.threads[thread]? with
          | none => rfl
          | some pc =>
              cases pc with
              | inserting role batch retry => cases outcome <;> simp [Fate.records]
              | deadLetter role batch => cases outcome <;> simp
              | _ => rfl
      | _ => rfl

/-! The files as lists of records. -/

/-- The records that the files hold, in the form in which they were written. -/
def Holds (directory : Directory FileName Bytes) (records : Multiset Bytes) : Prop :=
  ∃ entries : Directory FileName (List Bytes),
    entries.map deadLetterText = directory ∧ entries.total bag = records

/-- The renaming of a log that has grown too large replaces nothing. -/
def Spares (disk : DiskOutcome) (directory : Directory FileName Bytes) : Prop :=
  disk.statOk = true → disk.renameOk = true → Overgrown directory →
    directory.find (.rotated disk.time) = none

theorem overgrown_length (directory : Directory FileName Bytes) :
    Overgrown directory ↔ maxLogSize < ((directory.find .log).getD []).length := by
  unfold Overgrown
  cases directory.find .log with
  | none => simp
  | some content => simp

instance (directory : Directory FileName Bytes) : Decidable (Overgrown directory) :=
  decidable_of_iff _ (overgrown_length directory).symm

instance (disk : DiskOutcome) (directory : Directory FileName Bytes) :
    Decidable (Spares disk directory) :=
  inferInstanceAs (Decidable (_ → _ → _ → _))

theorem holds_rotate {directory : Directory FileName Bytes} {records : Multiset Bytes}
    {disk : DiskOutcome} (holds : Holds directory records) (spares : Spares disk directory) :
    Holds (rotate disk directory) records := by
  obtain ⟨entries, read, held⟩ := holds
  unfold rotate
  split
  · exact ⟨entries, read, held⟩
  · rename_i content found
    split
    · rename_i renamed
      have free := spares renamed.1 renamed.2.2 ⟨content, found, renamed.2.1⟩
      rw [← read, Directory.find_map] at found free
      obtain ⟨logged, own, -⟩ := Option.map_eq_some_iff.mp found
      refine ⟨entries.rename .log (.rotated disk.time), by rw [← Directory.rename_map, read], ?_⟩
      have moved := Directory.total_rename bag
        (show FileName.log ≠ .rotated disk.time by simp) own
      rw [Option.map_eq_none_iff.mp free] at moved
      simpa [Directory.held, held] using moved
    · exact ⟨entries, read, held⟩

/-- A write that fits adds its batch if the log opens, and nothing otherwise. -/
theorem holds_write {directory : Directory FileName Bytes} {records : Multiset Bytes}
    {disk : DiskOutcome} {metrics : Metrics} {batch : List Bytes}
    (holds : Holds directory records) (spares : Spares disk directory)
    (fits : disk.opens = true → (deadLetterText batch).length ≤ disk.room) :
    Holds (writeDeadLetter disk ⟨directory, metrics⟩ batch).directory
      (records + bag (if disk.opens then batch else [])) := by
  obtain ⟨entries, read, held⟩ := holds_rotate holds spares
  cases opens : disk.opens with
  | false =>
      rw [writeDeadLetter_refused opens]
      exact ⟨entries, read, by simp [held]⟩
  | true =>
      rw [writeDeadLetter_opens opens, List.take_of_length_le (fits opens)]
      refine ⟨entries.append .log batch, ?_, ?_⟩
      · rw [← Directory.append_map deadLetterText rfl deadLetterText_append, read]
      · rw [Directory.total_append bag bag_nil bag_append, held]
        rfl

/-- What a step of a run must be like for its files to keep everything. -/
def Landing (filed : Filed capacity) (label : FiledLabel) : Prop :=
  match filed.process.writes label.process with
  | none => True
  | some (batch, opens) => Spares label.disk filed.directory ∧
      (opens = true → (deadLetterText batch).length ≤ label.disk.room)

instance (filed : Filed capacity) (label : FiledLabel) : Decidable (Landing filed label) :=
  match writes : filed.process.writes label.process with
  | none => isTrue (by simp [Landing, writes])
  | some (batch, opens) =>
      decidable_of_iff (Spares label.disk filed.directory ∧
        (opens = true → (deadLetterText batch).length ≤ label.disk.room)) (by
          simp [Landing, writes])

theorem holds_step {filed next : Filed capacity} {label : FiledLabel} {records : Multiset Bytes}
    (holds : Holds filed.directory records) (landing : Landing filed label)
    (stepped : filed.step parse deployment label = some next) :
    Holds next.directory (records + bag (Fate.dead.records (filed.decides label))) := by
  simp only [Filed.decides, decides_dead]
  rcases filedStep_files stepped with ⟨quiet, same⟩ | ⟨batch, writes, written⟩
  · rw [quiet, same]
    simpa using holds
  · simp only [Landing, writes] at landing
    obtain ⟨spares, fits⟩ := landing
    have after : Holds (writeDeadLetter label.disk
        ⟨filed.directory, filed.process.pipeline.storage.metrics⟩ batch).directory
        (records + bag (if label.disk.opens then batch else [])) := holds_write holds spares fits
    rw [writes, written]
    cases opens : label.disk.opens <;> simpa [opens] using after

/-! Reading the files back. -/

theorem readLog_text {batch : List Bytes} (intact : ∀ record ∈ batch, Intact record) :
    readLog (deadLetterText batch) = batch := by
  have pieces : Split.split separator (deadLetterText batch) = batch ++ [[]] :=
    (Split.split_terminate separator_nonempty batch).mpr fun record member =>
      (clean_separator record).mpr (intact record member)
  rw [readLog, pieces, List.dropLast_concat]

theorem holds_read {directory : Directory FileName Bytes} {records : Multiset Bytes}
    (holds : Holds directory records) (intact : ∀ record ∈ records, Intact record) :
    (directory.total fun content => bag (readLog content)) = records := by
  obtain ⟨entries, rfl, rfl⟩ := holds
  rw [Directory.total_map]
  refine Directory.total_congr fun file member => ?_
  rw [readLog_text]
  intro record among
  refine intact record ?_
  have held : record ∈ bag file.2 := among
  exact mem_tally member held

/-! A whole run. -/

variable {redis : CounterStore Bytes} {directory : Directory FileName Bytes}
  {sessions workers : Nat} {labels : List FiledLabel} {final : Filed capacity}

theorem filed_fated
    (reached : (filedMachine parse deployment redis directory capacity sessions workers).run
      (filedMachine parse deployment redis directory capacity sessions workers).initial labels =
        some final) :
    Fated final.process.pipeline.storage
      ((filedMachine parse deployment redis directory capacity sessions workers).log Filed.decides
        (filedMachine parse deployment redis directory capacity sessions workers).initial labels) :=
  Machine.run_log Filed.decides
    (fun filed decided => Fated filed.process.pipeline.storage decided)
    (fun _ _ _ _ fated stepped => fated_processStep fated (filedStep_process stepped))
    (fated_initial (workers + 1)) reached

theorem filed_holds {earlier : Multiset Bytes} (kept : Holds directory earlier)
    (landing : (filedMachine parse deployment redis directory capacity sessions workers).Steps
      Landing (filedMachine parse deployment redis directory capacity sessions workers).initial
      labels)
    (reached : (filedMachine parse deployment redis directory capacity sessions workers).run
      (filedMachine parse deployment redis directory capacity sessions workers).initial labels =
        some final) :
    Holds final.directory (earlier + bag (Fate.dead.records
      ((filedMachine parse deployment redis directory capacity sessions workers).log Filed.decides
        (filedMachine parse deployment redis directory capacity sessions workers).initial
        labels))) := by
  have start : Holds directory (earlier + bag (Fate.dead.records [])) := by
    simpa [Fate.records] using kept
  have whole := Machine.run_log_guarded Filed.decides Landing
    (fun filed decided => Holds filed.directory (earlier + bag (Fate.dead.records decided)))
    (fun filed label next decided holds lands stepped => by
      rw [records_append, bag_append, ← add_assoc]
      exact holds_step holds lands stepped) start landing reached
  rwa [List.nil_append] at whole

theorem filed_reachable
    (reached : (filedMachine parse deployment redis directory capacity sessions workers).run
      (filedMachine parse deployment redis directory capacity sessions workers).initial labels =
        some final) :
    (processMachine parse deployment redis capacity sessions workers).Reachable
      final.process := by
  refine Machine.run_invariant
    (fun filed : Filed capacity => (processMachine parse deployment redis capacity sessions
      workers).Reachable filed.process) ?_ (Machine.Reachable.start _) reached
  intro filed label next reachable stepped
  have moved : (processMachine parse deployment redis capacity sessions workers).step
      filed.process label.process = some next.process := filedStep_process stepped
  exact reachable.step moved

theorem fates_records (decided : List (Fate × Bytes)) : bag (decided.map Prod.snd) =
    bag (Fate.inserted.records decided) + bag (Fate.dead.records decided) +
      bag (Fate.lost.records decided) := by
  induction decided with
  | nil => rfl
  | cons decision rest ih =>
      obtain ⟨fate, record⟩ := decision
      have whole : bag (((fate, record) :: rest).map Prod.snd) =
          bag [record] + bag (rest.map Prod.snd) := bag_append [record] _
      have front (other : Fate) : bag (other.records ((fate, record) :: rest)) =
          bag (other.records [(fate, record)]) + bag (other.records rest) := by
        rw [← bag_append, ← records_append]
        rfl
      rw [whole, ih, front, front, front]
      cases fate <;> simp [Fate.records]

theorem records_length (fate : Fate) (decided : List (Fate × Bytes)) :
    (fate.records decided).length = fate.count decided := by
  rw [Fate.records, List.length_map, Fate.count, List.countP_eq_length_filter]

/-- `earlier` are the records that the files held before the run, `decided` what came of
those that were passed on in it. -/
structure Restored (deployment : Deployment) (earlier : Multiset Bytes)
    (decided : List (Fate × Bytes)) (filed : Filed capacity) : Prop where
  holds : Holds filed.directory (earlier + bag (Fate.dead.records decided))
  counted : filed.process.pipeline.metrics.totalStoreDead = (Fate.dead.records decided).length
  read : (∀ record ∈ earlier + bag (Fate.dead.records decided), Intact record) →
    (filed.directory.total fun content => bag (readLog content)) =
      earlier + bag (Fate.dead.records decided)
  stored : deployment.storage = true → filed.process.main = .exited →
    filed.process.pipeline.metrics.totalStored = (Fate.inserted.records decided).length
  complete : deployment.storage = true → filed.process.main = .exited →
    bag ((passedOn filed.process.pipeline.system.shared.finished).map Message.data) =
      bag (Fate.inserted.records decided) + bag (Fate.dead.records decided) +
        bag (Fate.lost.records decided)

/-- In a run whose rotations replace no file and whose writes fit on the disk, the files
hold at every moment what they held before and every record counted as dead since, and a
reader gets these back if each is intact. When the io threads have ended and `main` returns,
what was passed on is in the finished `Insert`s, in the files or in the batches for which
the log did not open. -/
theorem deadLetters_restore (parse : Bytes → Option Event) (deployment : Deployment)
    (redis : CounterStore Bytes) (sessions workers : Nat) {directory : Directory FileName Bytes}
    {earlier : Multiset Bytes} {labels : List FiledLabel} {final : Filed capacity}
    (kept : Holds directory earlier)
    (reached : (filedMachine parse deployment redis directory capacity sessions workers).run
      (filedMachine parse deployment redis directory capacity sessions workers).initial labels =
        some final)
    (landing : (filedMachine parse deployment redis directory capacity sessions workers).Steps
      Landing (filedMachine parse deployment redis directory capacity sessions workers).initial
      labels) :
    Restored deployment earlier
      ((filedMachine parse deployment redis directory capacity sessions workers).log Filed.decides
        (filedMachine parse deployment redis directory capacity sessions workers).initial labels)
      final := by
  have fated := filed_fated reached
  have holds := filed_holds kept landing reached
  have flushed (enabled : deployment.storage = true) (exited : final.process.main = .exited) :
      Flushed final.process.pipeline.storage :=
    (exited_resting (filed_reachable reached) exited).storage enabled
  refine ⟨holds, ?_, holds_read holds, ?_, ?_⟩
  · rw [records_length]
    exact fated.dead.symm
  · intro enabled exited
    have uncounted : tally StoragePc.uncounted final.process.pipeline.storage.threads = 0 :=
      tally_eq_zero fun pc member => free_uncounted ((flushed enabled exited).free pc member)
    rw [records_length, fated.stored, uncounted, Nat.add_zero]
    rfl
  · intro enabled exited
    have undecided : tally StoragePc.undecided final.process.pipeline.storage.threads = 0 :=
      tally_eq_zero fun pc member => free_undecided ((flushed enabled exited).free pc member)
    have saved := resting_saved (filed_reachable reached)
      (exited_resting (filed_reachable reached) exited) enabled
    rw [← saved, fated.records, undecided, (flushed enabled exited).buffer, bag_nil, zero_add,
      add_zero, fates_records]

end

def spareDisk : DiskOutcome := ⟨true, true, true, 1000, 0⟩

/-- All three `Insert`s of the drained event throw, and its record goes to a log that
holds another. -/
def restoredRun : List FiledLabel :=
  let main : ProcessLabel := .main ⟨1, [0]⟩
  let insertFails : List ProcessLabel :=
    [.thread 1 (.storage 2 true), .thread 1 (.storage 2 false)]
  let labels := [.thread 1 (.offer 0 (encodeEvent (eventOf [7]))), main,
    .thread 1 (.worker 0 .fails), main, main, main, main, main, .thread 1 (.storage 2 true)] ++
    insertFails ++ insertFails ++ insertFails ++
    [.thread 1 (.storage 2 true), main, main, .thread 1 (.storage 0 true), main, main, main]
  labels.map (⟨·, spareDisk⟩)

def startedLog : Directory FileName Bytes :=
  (Directory.empty FileName Bytes).put .log (deadLetterText [[1]])

theorem restoredRun_ends :
    ((filedMachine sampleParse ⟨none, false, true⟩ (fun _ => none) startedLog 1 1 1).run
      (filedMachine sampleParse ⟨none, false, true⟩ (fun _ => none) startedLog 1 1 1).initial
      restoredRun).map (fun filed : Filed 1 => filed.process.main) = some .exited := by decide

theorem deadLetters_restore_failing : ∃ final : Filed 1,
    (filedMachine sampleParse ⟨none, false, true⟩ (fun _ => none) startedLog 1 1 1).run
      (filedMachine sampleParse ⟨none, false, true⟩ (fun _ => none) startedLog 1 1 1).initial
      restoredRun = some final ∧
    (final.directory.total fun content => bag (readLog content)) =
      bag [[1], encodeEvent (eventOf [7])] ∧
    bag ((passedOn final.process.pipeline.system.shared.finished).map Message.data) =
      bag [encodeEvent (eventOf [7])] := by
  obtain ⟨final, reached, exited⟩ := Option.map_eq_some_iff.mp restoredRun_ends
  have decided : (filedMachine sampleParse ⟨none, false, true⟩ (fun _ => none) startedLog
      1 1 1).log Filed.decides (filedMachine sampleParse ⟨none, false, true⟩ (fun _ => none)
        startedLog 1 1 1).initial restoredRun = [(.dead, encodeEvent (eventOf [7]))] := by decide
  have kept : Holds startedLog (bag [[1]]) :=
    ⟨(Directory.empty FileName (List Bytes)).put .log [[1]], rfl, rfl⟩
  have restored := deadLetters_restore sampleParse ⟨none, false, true⟩ (fun _ => none) 1 1 kept
    reached (by decide)
  rw [decided] at restored
  exact ⟨final, reached, restored.read (by decide), restored.complete rfl exited⟩

end EventCollector
