import EventCollector.DeadLetter
import EventCollector.EventEncoding
import EventCollector.Lib.Split

/-!
What a reader of `dead_letter.log` gets back by splitting it at the separator that
`write_dead_letter` puts after every record.
-/

namespace EventCollector

def Sink.log (sink : Sink) : Bytes := (sink.directory.find .log).getD []

/-- What one call adds at the end of the log, a rotation before it set aside. -/
def appended (sink : Sink) (call : DeadLetterCall) : Bytes :=
  (call.write sink).log.drop
    (Sink.log { sink with directory := rotate call.outcome sink.directory }).length

def appendedAll : List DeadLetterCall → Sink → Bytes
  | [], _ => []
  | call :: rest, sink => appended sink call ++ appendedAll rest (call.write sink)

/-- The record neither contains the separator nor ends in `"\n---"`. -/
def Intact (record : Bytes) : Prop := ¬ separator <:+: record ∧ ¬ [10, 45, 45, 45] <:+ record

instance (record : Bytes) : Decidable (Intact record) :=
  inferInstanceAs (Decidable (¬ _ ∧ ¬ _))

/-- Only the first four letters of the separator leave a rest that begins it again. -/
theorem separator_straddles (record : Bytes) :
    Split.Straddles separator record ↔ [10, 45, 45, 45] <:+ record ∨ separator <:+ record := by
  constructor
  · rintro ⟨head, tail, whole, filled, heads, ends⟩
    have sizes := congrArg List.length whole
    have taken : head = separator.take head.length := by rw [whole, List.take_left]
    have left : tail = separator.drop head.length := by rw [whole, List.drop_left]
    have positive : 0 < head.length := List.length_pos_iff.mpr filled
    simp only [separator, List.length_append, List.length_cons, List.length_nil] at sizes
    have cases_ : head.length = 1 ∨ head.length = 2 ∨ head.length = 3 ∨ head.length = 4 ∨
        head.length = 5 := by omega
    rcases cases_ with size | size | size | size | size <;> rw [size] at taken left
    · exact absurd (left ▸ heads) (by decide)
    · exact absurd (left ▸ heads) (by decide)
    · exact absurd (left ▸ heads) (by decide)
    · exact Or.inl (by rwa [taken] at ends)
    · exact Or.inr (by rwa [taken] at ends)
  · rintro (ends | ends)
    · exact ⟨[10, 45, 45, 45], [10], rfl, by decide, by decide, ends⟩
    · exact ⟨separator, [], by simp, by decide, List.nil_prefix, ends⟩

theorem clean_separator (record : Bytes) : Split.Clean separator record ↔ Intact record := by
  rw [Split.clean_iff (by decide), separator_straddles, Intact]
  constructor
  · exact fun ⟨outside, apart⟩ => ⟨outside, fun ends => apart (Or.inl ends)⟩
  · rintro ⟨outside, apart⟩
    exact ⟨outside, fun either => either.elim apart fun ends => outside ends.isInfix⟩

theorem appended_eq (sink : Sink) (call : DeadLetterCall) :
    appended sink call = deadLetterText call.batch := by
  have logged := writeDeadLetter_log (show call.outcome.opens = true from rfl) sink call.batch
  have whole : (deadLetterText call.batch).take call.outcome.room = deadLetterText call.batch :=
    List.take_length
  simp only [appended, Sink.log, DeadLetterCall.write, logged, whole]
  exact List.drop_left

theorem appendedAll_eq (calls : List DeadLetterCall) (sink : Sink) : appendedAll calls sink =
    Split.terminate separator (calls.flatMap DeadLetterCall.batch) := by
  induction calls generalizing sink with
  | nil => rfl
  | cons call rest ih =>
      rw [appendedAll, appended_eq, ih, List.flatMap_cons, Split.terminate, Split.terminate,
        List.flatMap_append]
      rfl

theorem intact_clean {calls : List DeadLetterCall}
    (intact : ∀ call ∈ calls, ∀ record ∈ call.batch, Intact record) :
    ∀ record ∈ calls.flatMap DeadLetterCall.batch, Split.Clean separator record := by
  intro record member
  obtain ⟨call, among, held⟩ := List.mem_flatMap.mp member
  exact (clean_separator record).mpr (intact call among record held)

theorem separator_nonempty : separator ≠ [] := by decide

/-- Splitting gives every record and then the nothing after the last separator. -/
theorem deadLetters_recoverable (calls : List DeadLetterCall) (sink : Sink) :
    (Split.split separator (appendedAll calls sink) =
        calls.flatMap DeadLetterCall.batch ++ [[]] ↔
      ∀ call ∈ calls, ∀ record ∈ call.batch, Intact record) ∧
    ((∀ call ∈ calls, ∀ record ∈ call.batch, Intact record) →
      ∀ (others : List DeadLetterCall) (other : Sink),
        (∀ call ∈ others, ∀ record ∈ call.batch, Intact record) →
        appendedAll calls sink = appendedAll others other →
          calls.flatMap DeadLetterCall.batch = others.flatMap DeadLetterCall.batch) := by
  constructor
  · rw [appendedAll_eq, Split.split_terminate separator_nonempty]
    simp only [clean_separator, List.mem_flatMap]
    exact ⟨fun all call among record held => all record ⟨call, among, held⟩,
      fun all record ⟨call, among, held⟩ => all call among record held⟩
  · intro intact others other othersIntact same
    rw [appendedAll_eq, appendedAll_eq] at same
    refine Split.terminate_injective separator_nonempty ?_ ?_ same
    · exact intact_clean intact
    · exact intact_clean othersIntact

theorem deadLetters_recoverable_rebatched :
    let fresh : Sink := ⟨.empty FileName Bytes, {}⟩
    let first : List DeadLetterCall := [⟨0, [[1], [2, 10]]⟩]
    let second : List DeadLetterCall := [⟨0, [[1]]⟩, ⟨5, [[2, 10]]⟩]
    Split.split separator (appendedAll first fresh) = [[1], [2, 10], []] ∧
    first.flatMap DeadLetterCall.batch = second.flatMap DeadLetterCall.batch :=
  ⟨(deadLetters_recoverable _ _).1.mpr (by decide),
    (deadLetters_recoverable _ ⟨.empty FileName Bytes, {}⟩).2 (by decide) _
      ⟨.empty FileName Bytes, {}⟩ (by decide) (by decide)⟩

/-- An event with the separator as its payload passes validation, and its record
comes back in two pieces. -/
theorem deadLetter_splits_record :
    let record := encodeEvent (eventOf separator)
    let calls : List DeadLetterCall := [⟨0, [record]⟩]
    validateEvent 1 (eventOf separator) = true ∧
    Split.split separator (appendedAll calls ⟨.empty FileName Bytes, {}⟩) =
      [[18, 1, 117, 34, 1, 99, 40, 232, 7, 50, 5], [], []] ∧
    Split.split separator (appendedAll calls ⟨.empty FileName Bytes, {}⟩) ≠
      calls.flatMap DeadLetterCall.batch ++ [[]] := by
  decide

end EventCollector
