import Mathlib.Data.List.Infix

/-!
A text cut at a separator of several letters, leftmost occurrence first and without
overlaps, and which records come back when each was written with the separator
after it and nothing escaped.
-/

namespace Split

variable {Letter : Type} [DecidableEq Letter]

/-- `skip` counts the letters of a found separator that are still ahead. -/
def cut (separator : List Letter) : Nat → List Letter → List Letter → List (List Letter)
  | _, field, [] => [field]
  | skip + 1, field, _ :: rest => cut separator skip field rest
  | 0, field, letter :: rest =>
      if separator <+: letter :: rest then field :: cut separator (separator.length - 1) [] rest
      else cut separator 0 (field ++ [letter]) rest

def split (separator text : List Letter) : List (List Letter) := cut separator 0 [] text

def terminate (separator : List Letter) (records : List (List Letter)) : List Letter :=
  records.flatMap (· ++ separator)

/-- No separator starts inside the record once the separator follows it. -/
def Clean (separator : List Letter) : List Letter → Prop
  | [] => True
  | letter :: rest => ¬ separator <+: letter :: rest ++ separator ∧ Clean separator rest

instance Clean.decidable (separator : List Letter) :
    (record : List Letter) → Decidable (Clean separator record)
  | [] => isTrue trivial
  | letter :: rest =>
      haveI := Clean.decidable separator rest
      inferInstanceAs (Decidable (¬ separator <+: letter :: rest ++ separator ∧ _))

variable {separator : List Letter}

theorem cut_skip (field rest : List Letter) : ∀ skipped : List Letter,
    cut separator skipped.length field (skipped ++ rest) = cut separator 0 field rest := by
  intro skipped
  induction skipped with
  | nil => rfl
  | cons letter skipped ih => exact ih

theorem cut_separator (nonempty : separator ≠ []) (field rest : List Letter) :
    cut separator 0 field (separator ++ rest) = field :: cut separator 0 [] rest := by
  obtain ⟨letter, later, rfl⟩ := List.exists_cons_of_ne_nil nonempty
  have starts : letter :: later <+: letter :: (later ++ rest) :=
    List.prefix_append (letter :: later) rest
  rw [List.cons_append, cut, if_pos starts]
  exact congrArg _ (cut_skip [] rest later)

omit [DecidableEq Letter] in
/-- Whether a separator starts in a record is decided by the record and one
separator after it. -/
theorem starts_iff (record rest : List Letter) :
    separator <+: record ++ separator ++ rest ↔ separator <+: record ++ separator := by
  constructor
  · intro starts
    exact List.prefix_of_prefix_length_le starts (List.prefix_append _ rest) (by simp)
  · exact fun starts => starts.trans (List.prefix_append _ rest)

theorem cut_clean (nonempty : separator ≠ []) {record : List Letter}
    (clean : Clean separator record) (field rest : List Letter) :
    cut separator 0 field (record ++ separator ++ rest) =
      (field ++ record) :: cut separator 0 [] rest := by
  induction record generalizing field with
  | nil => simpa using cut_separator nonempty field rest
  | cons letter record ih =>
      obtain ⟨here, later⟩ := clean
      have none : ¬ separator <+: letter :: (record ++ separator ++ rest) := by
        have := (starts_iff (letter :: record) rest).not.mpr here
        simpa using this
      rw [List.cons_append, List.cons_append, cut, if_neg none, ih later]
      simp

theorem cut_unclean {record : List Letter} (unclean : ¬ Clean separator record)
    (field rest : List Letter) : ∃ found others, found.length < field.length + record.length ∧
      cut separator 0 field (record ++ separator ++ rest) = found :: others := by
  induction record generalizing field with
  | nil => exact absurd trivial unclean
  | cons letter record ih =>
      by_cases here : separator <+: letter :: record ++ separator
      · have starts : separator <+: letter :: (record ++ separator ++ rest) := by
          have := (starts_iff (letter :: record) rest).mpr here
          simpa using this
        refine ⟨field, cut separator (separator.length - 1) [] (record ++ separator ++ rest), ?_, ?_⟩
        · simp
        · rw [List.cons_append, List.cons_append, cut, if_pos starts]
      · have later : ¬ Clean separator record := fun clean => unclean ⟨here, clean⟩
        have none : ¬ separator <+: letter :: (record ++ separator ++ rest) := by
          have := (starts_iff (letter :: record) rest).not.mpr here
          simpa using this
        obtain ⟨found, others, shorter, same⟩ := ih later (field ++ [letter])
        refine ⟨found, others, ?_, ?_⟩
        · simp only [List.length_append, List.length_cons, List.length_nil] at shorter ⊢
          omega
        · rw [List.cons_append, List.cons_append, cut, if_neg none, same]

theorem split_terminate_cons (nonempty : separator ≠ []) {record : List Letter}
    (clean : Clean separator record) (records : List (List Letter)) :
    split separator (terminate separator (record :: records)) =
      record :: split separator (terminate separator records) :=
  cut_clean nonempty clean [] (terminate separator records)

/-- The records come back, with what follows the last separator, exactly when
every one of them is clean. -/
theorem split_terminate (nonempty : separator ≠ []) (records : List (List Letter)) :
    split separator (terminate separator records) = records ++ [[]] ↔
      ∀ record ∈ records, Clean separator record := by
  induction records with
  | nil => simp [split, terminate, cut]
  | cons record records ih =>
      rw [List.forall_mem_cons]
      by_cases clean : Clean separator record
      · rw [split_terminate_cons nonempty clean, List.cons_append, List.cons.injEq, ih]
        simp only [clean, true_and]
      · simp only [clean, false_and, iff_false]
        intro same
        obtain ⟨found, others, shorter, first⟩ :=
          cut_unclean clean [] (terminate separator records)
        have equal : found :: others = record :: (records ++ [[]]) := first.symm.trans same
        rw [List.cons.injEq] at equal
        rw [equal.1] at shorter
        simp at shorter

theorem terminate_injective (nonempty : separator ≠ []) {first second : List (List Letter)}
    (firstClean : ∀ record ∈ first, Clean separator record)
    (secondClean : ∀ record ∈ second, Clean separator record)
    (same : terminate separator first = terminate separator second) : first = second := by
  have one := (split_terminate nonempty first).mpr firstClean
  have other := (split_terminate nonempty second).mpr secondClean
  rw [same, other] at one
  exact (List.append_cancel_right one).symm

/-! Clean records in terms of the record alone. -/

/-- The record ends in a head of the separator, and what is left of the separator
is a head of it too. -/
def Straddles (separator record : List Letter) : Prop :=
  ∃ head tail, separator = head ++ tail ∧ head ≠ [] ∧ tail <+: separator ∧ head <:+ record

omit [DecidableEq Letter] in
theorem starts_cases (record : List Letter) : separator <+: record ++ separator ↔
    separator <+: record ∨ ∃ tail, separator = record ++ tail ∧ tail <+: separator := by
  constructor
  · intro starts
    rcases List.prefix_or_prefix_of_prefix starts (List.prefix_append record separator) with
      inside | ⟨tail, whole⟩
    · exact Or.inl inside
    · refine Or.inr ⟨tail, whole.symm, ?_⟩
      have shifted : record ++ tail <+: record ++ separator := whole ▸ starts
      exact (List.prefix_append_right_inj record).mp shifted
  · rintro (inside | ⟨tail, whole, heads⟩)
    · exact inside.trans (List.prefix_append record separator)
    · conv => lhs; rw [whole]
      exact (List.prefix_append_right_inj record).mpr heads

omit [DecidableEq Letter] in
theorem straddles_cons (letter : Letter) (record : List Letter) :
    Straddles separator (letter :: record) ↔
      (∃ tail, separator = letter :: record ++ tail ∧ tail <+: separator) ∨
        Straddles separator record := by
  constructor
  · rintro ⟨head, tail, whole, filled, heads, ends⟩
    rcases List.suffix_cons_iff.mp ends with rfl | ends
    · exact Or.inl ⟨tail, whole, heads⟩
    · exact Or.inr ⟨head, tail, whole, filled, heads, ends⟩
  · rintro (⟨tail, whole, heads⟩ | ⟨head, tail, whole, filled, heads, ends⟩)
    · exact ⟨letter :: record, tail, whole, List.cons_ne_nil _ _, heads, List.suffix_rfl⟩
    · exact ⟨head, tail, whole, filled, heads, List.suffix_cons_iff.mpr (Or.inr ends)⟩

omit [DecidableEq Letter] in
theorem clean_iff (nonempty : separator ≠ []) (record : List Letter) :
    Clean separator record ↔ ¬ separator <:+: record ∧ ¬ Straddles separator record := by
  induction record with
  | nil =>
      refine iff_of_true trivial ⟨?_, ?_⟩
      · simpa using nonempty
      · rintro ⟨head, _, _, filled, _, ends⟩
        exact filled (List.suffix_nil.mp ends)
  | cons letter record ih =>
      rw [Clean, starts_cases, ih, List.infix_cons_iff, straddles_cons]
      simp only [not_or]
      constructor
      · exact fun ⟨⟨outside, apart⟩, later, clear⟩ => ⟨⟨outside, later⟩, apart, clear⟩
      · exact fun ⟨⟨outside, later⟩, apart, clear⟩ => ⟨⟨outside, apart⟩, later, clear⟩

/-! Clean records put together from parts. -/

/-- No separator starts inside the text, whatever follows it. -/
def Apart (separator : List Letter) : List Letter → Prop
  | [] => True
  | letter :: rest => (¬ separator <+: letter :: rest ∧ ¬ letter :: rest <+: separator) ∧
      Apart separator rest

instance Apart.decidable (separator : List Letter) :
    (text : List Letter) → Decidable (Apart separator text)
  | [] => isTrue trivial
  | letter :: rest =>
      haveI := Apart.decidable separator rest
      inferInstanceAs (Decidable
        ((¬ separator <+: letter :: rest ∧ ¬ letter :: rest <+: separator) ∧ _))

omit [DecidableEq Letter] in
theorem apart_of_notMem {mark : Letter} {text : List Letter} (absent : mark ∉ text)
    (more : List Letter) : Apart (mark :: more) text := by
  induction text with
  | nil => trivial
  | cons letter text ih =>
      simp only [List.mem_cons, not_or] at absent
      refine ⟨⟨?_, ?_⟩, ih absent.2⟩
      · intro starts
        exact absent.1 (List.cons_prefix_cons.mp starts).1
      · intro starts
        exact absent.1 (List.cons_prefix_cons.mp starts).1.symm

omit [DecidableEq Letter] in
theorem Apart.clean_append {first second : List Letter} (apart : Apart separator first)
    (clean : Clean separator second) : Clean separator (first ++ second) := by
  induction first with
  | nil => exact clean
  | cons letter first ih =>
      obtain ⟨⟨outside, inside⟩, later⟩ := apart
      refine ⟨?_, ih later⟩
      intro starts
      have head : letter :: first <+: letter :: (first ++ second) ++ separator := by
        rw [← List.cons_append, List.append_assoc]
        exact List.prefix_append _ _
      rcases List.prefix_or_prefix_of_prefix starts head with shorter | longer
      · exact outside shorter
      · exact inside longer

omit [DecidableEq Letter] in
theorem clean_of_notMem {mark : Letter} {text : List Letter} (absent : mark ∉ text)
    (more : List Letter) : Clean (mark :: more) text := by
  have clean : Clean (mark :: more) (text ++ []) :=
    (apart_of_notMem absent more).clean_append trivial
  rwa [List.append_nil] at clean

/-! Cutting once, and a last record with nothing after it. -/

/-- The text before the first separator and the text after it. -/
def splitFirst (separator : List Letter) : List Letter → Option (List Letter × List Letter)
  | [] => none
  | letter :: rest =>
      if separator <+: letter :: rest then some ([], (letter :: rest).drop separator.length)
      else (splitFirst separator rest).map fun (before, after) => (letter :: before, after)

theorem splitFirst_clean (nonempty : separator ≠ []) {record : List Letter}
    (clean : Clean separator record) (rest : List Letter) :
    splitFirst separator (record ++ separator ++ rest) = some (record, rest) := by
  induction record with
  | nil =>
      obtain ⟨letter, later, rfl⟩ := List.exists_cons_of_ne_nil nonempty
      have starts : letter :: later <+: letter :: (later ++ rest) :=
        List.prefix_append (letter :: later) rest
      rw [List.nil_append, List.cons_append, splitFirst, if_pos starts]
      simp
  | cons letter record ih =>
      obtain ⟨here, later⟩ := clean
      have none : ¬ separator <+: letter :: (record ++ separator ++ rest) := by
        have := (starts_iff (letter :: record) rest).not.mpr here
        simpa using this
      rw [List.cons_append, List.cons_append, splitFirst, if_neg none, ih later]
      rfl

theorem cut_last {record : List Letter} (clean : Clean separator record) (field : List Letter) :
    cut separator 0 field record = [field ++ record] := by
  induction record generalizing field with
  | nil => rw [cut, List.append_nil]
  | cons letter record ih =>
      obtain ⟨here, later⟩ := clean
      have none : ¬ separator <+: letter :: record := fun starts =>
        here (starts.trans (List.prefix_append _ separator))
      rw [cut, if_neg none, ih later, List.append_assoc, List.singleton_append]

theorem split_terminate_append (nonempty : separator ≠ []) {records : List (List Letter)}
    {last : List Letter} (clean : ∀ record ∈ records, Clean separator record)
    (clean' : Clean separator last) :
    split separator (terminate separator records ++ last) = records ++ [last] := by
  induction records with
  | nil => exact cut_last clean' []
  | cons record records ih =>
      have first := cut_clean nonempty (clean record (by simp)) []
        (terminate separator records ++ last)
      have later := ih fun other member => clean other (by simp [member])
      have shape : terminate separator (record :: records) ++ last =
          record ++ separator ++ (terminate separator records ++ last) := by
        simp [terminate]
      rw [split, shape, first, List.nil_append, List.cons_append]
      exact congrArg _ later

end Split
