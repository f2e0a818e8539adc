import EventCollector.DeadLetter
import Mathlib.Algebra.BigOperators.Group.Multiset.Basic

/-!
Any number of `write_dead_letter` calls at non-decreasing times: which records the log
and its rotated files hold.
-/

namespace EventCollector

open Ledger

/-- `written` records what the calls were given, `time` when the last of them ran. -/
structure DeadLetters where
  sink : Sink
  time : Int
  written : List Bytes

def DeadLetterCall.Sized (call : DeadLetterCall) : Prop :=
  1 ≤ call.batch.length ∧ call.batch.length ≤ 1000 ∧
    ∀ record ∈ call.batch, 1 ≤ record.length ∧ record.length ≤ 102399

instance (call : DeadLetterCall) : Decidable call.Sized :=
  inferInstanceAs (Decidable (_ ∧ _ ∧ _))

def DeadLetters.write (state : DeadLetters) (call : DeadLetterCall) : DeadLetters where
  sink := call.write state.sink
  time := call.time
  written := state.written ++ call.batch

def DeadLetters.step (state : DeadLetters) (call : DeadLetterCall) : Option DeadLetters :=
  if state.time ≤ call.time ∧ call.Sized then some (state.write call) else none

def rotationMachine (start : Int) : Machine DeadLetters DeadLetterCall where
  initial := ⟨⟨.empty FileName Bytes, {}⟩, start, []⟩
  step := DeadLetters.step

/-- The files read as lists of records hold what was written, and so many records
are counted. -/
def Kept (state : DeadLetters) : Prop :=
  (∃ entries : Directory FileName (List Bytes),
    entries.map deadLetterText = state.sink.directory ∧
    entries.total bag = bag state.written) ∧
  state.sink.metrics.totalStoreDead = state.written.length

def Overgrown (directory : Directory FileName Bytes) : Prop :=
  ∃ content, directory.find .log = some content ∧ maxLogSize < content.length

/-- A call that rotates finds no file with the name that its time gives. -/
def Fresh (state : DeadLetters) (call : DeadLetterCall) : Prop :=
  Overgrown state.sink.directory → state.sink.directory.find (.rotated call.time) = none

theorem deadLetterText_append (first second : List Bytes) :
    deadLetterText (first ++ second) = deadLetterText first ++ deadLetterText second :=
  List.flatMap_append

theorem rotate_cases (outcome : DiskOutcome) (works : outcome.statOk = true)
    (renames : outcome.renameOk = true) (directory : Directory FileName Bytes) :
    (¬ Overgrown directory ∧ rotate outcome directory = directory) ∨
    (Overgrown directory ∧
      rotate outcome directory = directory.rename .log (.rotated outcome.time)) := by
  unfold rotate
  cases found : directory.find .log with
  | none =>
      refine Or.inl ⟨?_, rfl⟩
      rintro ⟨content, present, -⟩
      rw [found] at present
      cases present
  | some content =>
      by_cases large : maxLogSize < content.length
      · exact Or.inr ⟨⟨content, found, large⟩, if_pos ⟨works, large, renames⟩⟩
      · refine Or.inl ⟨?_, if_neg fun all => large all.2.1⟩
        rintro ⟨other, present, larger⟩
        rw [found, Option.some.injEq] at present
        exact large (present ▸ larger)

theorem write_directory (sink : Sink) (call : DeadLetterCall) :
    (call.write sink).directory =
      (rotate call.outcome sink.directory).append .log (deadLetterText call.batch) := by
  have whole : (deadLetterText call.batch).take call.outcome.room = deadLetterText call.batch :=
    List.take_length
  rw [DeadLetterCall.write, writeDeadLetter_opens rfl, whole]

theorem write_metrics (sink : Sink) (call : DeadLetterCall) :
    (call.write sink).metrics.totalStoreDead =
      sink.metrics.totalStoreDead + call.batch.length := by
  rw [DeadLetterCall.write, writeDeadLetter_opens rfl]

/-! No file is empty, so that a file replaced is a loss. -/

def Filled (directory : Directory FileName Bytes) : Prop :=
  ∀ name content, directory.find name = some content → 0 < content.length

theorem Filled.remove {directory : Directory FileName Bytes} (filled : Filled directory)
    (name : FileName) : Filled (directory.remove name) := by
  intro other content found
  by_cases same : other = name
  · rw [same, Directory.find_remove_same] at found
    cases found
  · rw [Directory.find_remove_other directory same] at found
    exact filled other content found

theorem Filled.put {directory : Directory FileName Bytes} (filled : Filled directory)
    (name : FileName) {content : Bytes} (nonempty : 0 < content.length) :
    Filled (directory.put name content) := by
  intro other held found
  by_cases same : other = name
  · rw [same, Directory.find_put_same, Option.some.injEq] at found
    exact found ▸ nonempty
  · rw [Directory.find_put_other directory content same] at found
    exact filled other held found

theorem Filled.rename {directory : Directory FileName Bytes} (filled : Filled directory)
    (old new : FileName) : Filled (directory.rename old new) := by
  cases found : directory.find old with
  | none => simpa only [Directory.rename, found] using filled
  | some content =>
      rw [Directory.rename_found found]
      exact (filled.remove old).put new (filled old content found)

theorem Filled.append {directory : Directory FileName Bytes} (filled : Filled directory)
    (name : FileName) {letters : Bytes} (more : 0 < letters.length) :
    Filled (directory.append name letters) := by
  refine filled.put name ?_
  rw [List.length_append]
  omega

/-! What the files hold in bytes. -/

def recordBytes : Multiset Bytes →+ Nat :=
  Multiset.sumAddMonoidHom.comp (Multiset.mapAddMonoidHom fun record => record.length + 5)

theorem recordBytes_bag (records : List Bytes) :
    recordBytes (bag records) = (deadLetterText records).length := by
  induction records with
  | nil => rfl
  | cons record rest ih =>
      have split : bag (record :: rest) = bag [record] + bag rest := bag_append [record] rest
      rw [split, map_add, ih]
      simp only [recordBytes, deadLetterText, separator, bag_singleton, AddMonoidHom.comp_apply,
        Multiset.coe_mapAddMonoidHom, Multiset.map_singleton, Multiset.coe_sumAddMonoidHom,
        Multiset.sum_singleton, List.flatMap_cons, List.length_append, List.length_cons,
        List.length_nil]

theorem kept_bytes {state : DeadLetters} (kept : Kept state) :
    state.sink.directory.total List.length = (deadLetterText state.written).length := by
  obtain ⟨⟨entries, read, held⟩, -⟩ := kept
  calc state.sink.directory.total List.length
      = entries.total fun records => (deadLetterText records).length := by
        rw [← read, Directory.total_map]
    _ = entries.total fun records => recordBytes (bag records) := by
        simp only [recordBytes_bag]
    _ = recordBytes (entries.total bag) := (Directory.map_total recordBytes bag entries).symm
    _ = (deadLetterText state.written).length := by rw [held, recordBytes_bag]

/-! One call. -/

theorem rotationStep_eq {state next : DeadLetters} {call : DeadLetterCall} {start : Int}
    (stepped : (rotationMachine start).step state call = some next) :
    call.Sized ∧ next = state.write call := by
  simp only [rotationMachine, DeadLetters.step, Option.ite_none_right_eq_some,
    Option.some.injEq] at stepped
  exact ⟨stepped.1.2, stepped.2.symm⟩

structure Sound (state : DeadLetters) : Prop where
  kept : Kept state
  filled : Filled state.sink.directory

theorem text_filled {call : DeadLetterCall} (sized : call.Sized) :
    0 < (deadLetterText call.batch).length := by
  obtain ⟨record, rest, shape⟩ := List.exists_cons_of_length_pos sized.1
  simp only [shape, deadLetterText, separator, List.flatMap_cons, List.length_append,
    List.length_cons]
  omega

theorem kept_rotate {state : DeadLetters} {call : DeadLetterCall} (sound : Sound state)
    (fresh : Fresh state call) : ∃ entries : Directory FileName (List Bytes),
      entries.map deadLetterText = rotate call.outcome state.sink.directory ∧
      entries.total bag = bag state.written := by
  obtain ⟨⟨entries, read, held⟩, -⟩ := sound.kept
  rcases rotate_cases call.outcome rfl rfl state.sink.directory with ⟨-, same⟩ | ⟨large, same⟩
  · exact ⟨entries, by rw [same, read], held⟩
  · obtain ⟨content, found, -⟩ := id large
    have free := fresh large
    rw [← read, Directory.find_map] at found free
    obtain ⟨records, logged, -⟩ := Option.map_eq_some_iff.mp found
    have unused := Option.map_eq_none_iff.mp free
    refine ⟨entries.rename .log (.rotated call.time), ?_, ?_⟩
    · rw [same, ← Directory.rename_map, read]
      rfl
    · have moved := Directory.total_rename bag
        (show FileName.log ≠ .rotated call.time by simp) logged
      rw [unused] at moved
      simpa [Directory.held, held] using moved

theorem sound_write {state : DeadLetters} {call : DeadLetterCall} (sound : Sound state)
    (sized : call.Sized) (fresh : Fresh state call) : Sound (state.write call) := by
  obtain ⟨entries, read, held⟩ := kept_rotate sound fresh
  have text := text_filled sized
  refine ⟨⟨⟨entries.append .log call.batch, ?_, ?_⟩, ?_⟩, ?_⟩
  · rw [← Directory.append_map deadLetterText rfl deadLetterText_append, read]
    exact (write_directory state.sink call).symm
  · rw [Directory.total_append bag bag_nil bag_append, held]
    exact (bag_append state.written call.batch).symm
  · have counted := sound.kept.2
    simp only [DeadLetters.write, write_metrics, counted, List.length_append]
  · simp only [DeadLetters.write, write_directory]
    refine Filled.append ?_ .log text
    rcases rotate_cases call.outcome rfl rfl state.sink.directory with ⟨-, same⟩ | ⟨-, same⟩
    · rw [same]
      exact sound.filled
    · rw [same]
      exact sound.filled.rename .log _

/-- What stood under the name is gone. -/
theorem lost_write {state : DeadLetters} {call : DeadLetterCall} (sound : Sound state)
    (stale : ¬ Fresh state call) : ¬ Kept (state.write call) := by
  intro kept
  simp only [Fresh, Classical.not_imp] at stale
  obtain ⟨large, taken⟩ := stale
  obtain ⟨content, found, -⟩ := id large
  obtain ⟨replaced, stood⟩ := Option.ne_none_iff_exists'.mp taken
  have loss := sound.filled _ replaced stood
  have renames : rotate call.outcome state.sink.directory =
      state.sink.directory.rename .log (.rotated call.time) := by
    rcases rotate_cases call.outcome rfl rfl state.sink.directory with ⟨small, -⟩ | ⟨-, same⟩
    · exact absurd large small
    · exact same
  have moved := Directory.total_rename List.length
    (show FileName.log ≠ .rotated call.time by simp) found
  rw [stood, kept_bytes sound.kept] at moved
  have after := kept_bytes kept
  simp only [DeadLetters.write, write_directory, renames, deadLetterText_append,
    Directory.total_append List.length rfl fun _ _ => List.length_append,
    List.length_append] at after
  simp only [Directory.held, Option.map_some, Option.getD_some] at moved
  omega

theorem sound_initial (start : Int) : Sound (rotationMachine start).initial := by
  refine ⟨⟨⟨.empty FileName (List Bytes), rfl, rfl⟩, rfl⟩, ?_⟩
  intro name content found
  cases found

/-- In a run every state keeps all dead letters exactly when every call that rotates
finds its name free. -/
theorem rotation_keeps_deadLetters (start : Int) (calls : List DeadLetterCall) :
    (rotationMachine start).Always Kept (rotationMachine start).initial calls ↔
      (rotationMachine start).Steps Fresh (rotationMachine start).initial calls := by
  refine Machine.always_iff_steps Sound (fun _ sound => sound.kept) ?_ ?_ (sound_initial start)
  · intro state call next sound fresh stepped
    obtain ⟨sized, rfl⟩ := rotationStep_eq stepped
    exact sound_write sound sized fresh
  · intro state call next sound stale stepped
    obtain ⟨-, rfl⟩ := rotationStep_eq stepped
    exact lost_write sound stale

/-! Two rotations in one second. -/

def logSize (state : DeadLetters) : Nat := ((state.sink.directory.find .log).getD []).length

theorem overgrown_iff (state : DeadLetters) :
    Overgrown state.sink.directory ↔ maxLogSize < logSize state := by
  unfold Overgrown logSize
  cases state.sink.directory.find .log with
  | none => simp
  | some content => simp

theorem write_small (state : DeadLetters) (call : DeadLetterCall)
    (small : logSize state ≤ maxLogSize) :
    logSize (state.write call) = logSize state + (deadLetterText call.batch).length ∧
    ∀ time, (state.write call).sink.directory.find (.rotated time) =
      state.sink.directory.find (.rotated time) := by
  rcases rotate_cases call.outcome rfl rfl state.sink.directory with ⟨-, same⟩ | ⟨large, -⟩
  · simp only [logSize, DeadLetters.write, write_directory, same]
    refine ⟨?_, ?_⟩
    · simp [Directory.append]
    · exact fun time => Directory.find_put_other _ _ (by simp)
  · have larger := (overgrown_iff state).mp large
    omega

theorem write_large (state : DeadLetters) (call : DeadLetterCall)
    (large : maxLogSize < logSize state) :
    logSize (state.write call) = (deadLetterText call.batch).length ∧
    (state.write call).sink.directory.find (.rotated call.time) ≠ none := by
  have overgrown := (overgrown_iff state).mpr large
  rcases rotate_cases call.outcome rfl rfl state.sink.directory with ⟨small, -⟩ | ⟨-, same⟩
  · exact absurd overgrown small
  · obtain ⟨content, found, -⟩ := overgrown
    have apart : FileName.log ≠ .rotated call.outcome.time := by simp
    simp only [logSize, DeadLetters.write, write_directory, same, Directory.append,
      Directory.rename_found found]
    refine ⟨?_, ?_⟩
    · rw [Directory.find_put_same, Directory.find_put_other _ _ apart, Directory.find_remove_same]
      rfl
    · change Directory.find _ (FileName.rotated call.outcome.time) ≠ none
      rw [Directory.find_put_other _ _ apart.symm, Directory.find_put_same]
      exact Option.some_ne_none content

theorem fresh_of_small {state : DeadLetters} (call : DeadLetterCall)
    (small : logSize state ≤ maxLogSize) : Fresh state call := by
  intro overgrown
  have larger := (overgrown_iff state).mp overgrown
  omega

def uniformCall (count size : Nat) : DeadLetterCall :=
  ⟨0, List.replicate count (List.replicate size 0)⟩

theorem uniformCall_sized {count size : Nat} (batch : 1 ≤ count ∧ count ≤ 1000)
    (records : 1 ≤ size ∧ size ≤ 102399) : (uniformCall count size).Sized := by
  refine ⟨?_, ?_, ?_⟩
  · simpa [uniformCall] using batch.1
  · simpa [uniformCall] using batch.2
  · intro record member
    rw [List.eq_of_mem_replicate member, List.length_replicate]
    exact records

theorem uniformCall_text (count size : Nat) :
    (deadLetterText (uniformCall count size).batch).length = count * (size + 5) := by
  simp [uniformCall, deadLetterText, separator, List.length_flatMap]

/-- The largest batch of the largest records. -/
def fullCall : DeadLetterCall := uniformCall 1000 102399

theorem fullCall_sized : fullCall.Sized := uniformCall_sized (by omega) (by omega)

/-- The log is over its limit after two such calls and after four, so that the third
and the fifth rotate it to the same name. -/
theorem rotation_overwrites : ∃ final : DeadLetters,
    (rotationMachine 0).run (rotationMachine 0).initial (List.replicate 5 fullCall) = some final ∧
    ¬ Kept final := by
  have text : (deadLetterText fullCall.batch).length = 102404000 := uniformCall_text 1000 102399
  have limit : maxLogSize = 104857600 := rfl
  have step (state : DeadLetters) (early : state.time ≤ 0) :
      (rotationMachine 0).step state fullCall = some (state.write fullCall) :=
    if_pos ⟨early, fullCall_sized⟩
  let zero := (rotationMachine 0).initial
  let one := zero.write fullCall
  let two := one.write fullCall
  let three := two.write fullCall
  let four := three.write fullCall
  have sizeZero : logSize zero = 0 := rfl
  have sizeOne : logSize one = logSize zero + _ := (write_small zero fullCall (by omega)).1
  have soundOne : Sound one :=
    sound_write (sound_initial 0) fullCall_sized (fresh_of_small fullCall (by omega))
  obtain ⟨grown, unrotated⟩ := write_small one fullCall (by omega)
  have sizeTwo : logSize two = logSize one + _ := grown
  have soundTwo : Sound two :=
    sound_write soundOne fullCall_sized (fresh_of_small fullCall (by omega))
  have freeTwo : two.sink.directory.find (.rotated 0) = none := by
    rw [unrotated 0, (write_small zero fullCall (by omega)).2 0]
    rfl
  obtain ⟨rotated, taken⟩ := write_large two fullCall (by omega)
  have sizeThree : logSize three = _ := rotated
  have soundThree : Sound three := sound_write soundTwo fullCall_sized fun _ => freeTwo
  obtain ⟨grown, unrotated⟩ := write_small three fullCall (by omega)
  have sizeFour : logSize four = logSize three + _ := grown
  have soundFour : Sound four :=
    sound_write soundThree fullCall_sized (fresh_of_small fullCall (by omega))
  refine ⟨four.write fullCall, ?_, lost_write soundFour ?_⟩
  · have now : fullCall.time ≤ 0 := Int.le_refl 0
    have calls : List.replicate 5 fullCall = [fullCall, fullCall, fullCall, fullCall, fullCall] :=
      rfl
    rw [calls, Machine.run, step zero (Int.le_refl 0), Option.bind_some,
      Machine.run, step one now, Option.bind_some, Machine.run, step two now, Option.bind_some,
      Machine.run, step three now, Option.bind_some, Machine.run, step four now, Option.bind_some,
      Machine.run]
  · intro fresh
    refine absurd (fresh ((overgrown_iff four).mpr (by omega))) ?_
    rw [unrotated]
    exact taken

end EventCollector
