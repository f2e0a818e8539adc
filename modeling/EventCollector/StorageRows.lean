import EventCollector.EventEncoding
import EventCollector.StorageCore

/-!
The block that `Storage::do_flush` fills from a batch: six columns, one record after
another, and which rows they hold. A `Block` only takes columns of one length.
-/

namespace EventCollector

/-- `ColumnString` and `ColumnUInt64`. -/
inductive Column
  | strings (values : List Bytes)
  | numbers (values : List UInt64)
  deriving DecidableEq

def Column.size : Column → Nat
  | .strings values => values.length
  | .numbers values => values.length

structure Block where
  rows : Nat
  columns : List (String × Column)
  rectangular : ∀ column ∈ columns, column.2.size = rows
  deriving DecidableEq

namespace Block

def empty : Block := ⟨0, [], by simp⟩

/-- It stands for `Block::AppendColumn` of the ClickHouse library: the first column sets the
number of rows, and a later one of another length throws. -/
def appendColumn (block : Block) (name : String) (column : Column) : Option Block :=
  if first : block.columns = [] then some ⟨column.size, [(name, column)], by simp⟩
  else if same : column.size = block.rows then
    some ⟨block.rows, block.columns ++ [(name, column)], by
      intro entry member
      rcases List.mem_append.mp member with old | new
      · exact block.rectangular entry old
      · exact List.mem_singleton.mp new ▸ same⟩
  else none

end Block

structure Columns where
  eventId : List Bytes
  userId : List Bytes
  eventType : List Bytes
  platform : List Bytes
  ts : List UInt64
  payload : List Bytes
  deriving DecidableEq

def Columns.empty : Columns := ⟨[], [], [], [], [], []⟩

/-- One round of the loop over the batch. -/
def Columns.appendRecord (parse : Bytes → Option Event) (columns : Columns) (d : Bytes) :
    Columns :=
  match parse d with
  | some evt =>
      { eventId := columns.eventId ++ [evt.eventId]
        userId := columns.userId ++ [evt.userId]
        eventType := columns.eventType ++ [evt.eventType]
        platform := columns.platform ++ [evt.platform]
        ts := columns.ts ++ [evt.ts.toUInt64]
        payload := columns.payload ++ [evt.payload] }
  | none =>
      { eventId := columns.eventId ++ [[]]
        userId := columns.userId ++ [[]]
        eventType := columns.eventType ++ [[]]
        platform := columns.platform ++ [[]]
        ts := columns.ts ++ [0]
        payload := columns.payload ++ [d] }

def fillColumns (parse : Bytes → Option Event) (batch : List Bytes) : Columns :=
  batch.foldl (Columns.appendRecord parse) .empty

def Columns.named (columns : Columns) : List (String × Column) :=
  [("event_id", .strings columns.eventId), ("user_id", .strings columns.userId),
    ("event_type", .strings columns.eventType), ("platform", .strings columns.platform),
    ("ts", .numbers columns.ts), ("payload", .strings columns.payload)]

/-- `none` is the exception that one of the calls throws. -/
def buildBlock (parse : Bytes → Option Event) (batch : List Bytes) : Option Block :=
  (fillColumns parse batch).named.foldlM
    (fun block column => block.appendColumn column.1 column.2) .empty

/-! The table that the block means. -/

structure Row where
  eventId : Bytes
  userId : Bytes
  eventType : Bytes
  platform : Bytes
  ts : UInt64
  payload : Bytes
  deriving DecidableEq

def Event.row (evt : Event) : Row where
  eventId := evt.eventId
  userId := evt.userId
  eventType := evt.eventType
  platform := evt.platform
  ts := evt.ts.toUInt64
  payload := evt.payload

def fallbackRow (d : Bytes) : Row := ⟨[], [], [], [], 0, d⟩

def rowOf (parse : Bytes → Option Event) (d : Bytes) : Row :=
  match parse d with
  | some evt => evt.row
  | none => fallbackRow d

/-- What the six columns hold at one index. -/
def Columns.row? (columns : Columns) (index : Nat) : Option Row := do
  let eventId ← columns.eventId[index]?
  let userId ← columns.userId[index]?
  let eventType ← columns.eventType[index]?
  let platform ← columns.platform[index]?
  let ts ← columns.ts[index]?
  let payload ← columns.payload[index]?
  return ⟨eventId, userId, eventType, platform, ts, payload⟩

def Columns.ofRows (rows : List Row) : Columns where
  eventId := rows.map Row.eventId
  userId := rows.map Row.userId
  eventType := rows.map Row.eventType
  platform := rows.map Row.platform
  ts := rows.map Row.ts
  payload := rows.map Row.payload

section

variable {parse : Bytes → Option Event}

theorem appendRecord_ofRows (rows : List Row) (d : Bytes) :
    (Columns.ofRows rows).appendRecord parse d = Columns.ofRows (rows ++ [rowOf parse d]) := by
  cases parsed : parse d with
  | none => simp [Columns.appendRecord, Columns.ofRows, rowOf, fallbackRow, parsed]
  | some evt => simp [Columns.appendRecord, Columns.ofRows, rowOf, Event.row, parsed]

theorem foldl_appendRecord (rows : List Row) (batch : List Bytes) :
    batch.foldl (Columns.appendRecord parse) (.ofRows rows) =
      .ofRows (rows ++ batch.map (rowOf parse)) := by
  induction batch generalizing rows with
  | nil => simp
  | cons d batch ih =>
      rw [List.foldl_cons, appendRecord_ofRows, ih, List.append_assoc, List.map_cons,
        List.singleton_append]

theorem fillColumns_eq (batch : List Bytes) :
    fillColumns parse batch = .ofRows (batch.map (rowOf parse)) :=
  foldl_appendRecord [] batch

end

theorem ofRows_row? (rows : List Row) (index : Nat) :
    (Columns.ofRows rows).row? index = rows[index]? := by
  cases found : rows[index]? with
  | none => simp [Columns.row?, Columns.ofRows, found]
  | some row => simp [Columns.row?, Columns.ofRows, found]

/-! `AppendColumn` never sees unequal lengths. -/

structure Columns.Sized (columns : Columns) (size : Nat) : Prop where
  eventId : columns.eventId.length = size
  userId : columns.userId.length = size
  eventType : columns.eventType.length = size
  platform : columns.platform.length = size
  ts : columns.ts.length = size
  payload : columns.payload.length = size

theorem ofRows_sized (rows : List Row) : (Columns.ofRows rows).Sized rows.length := by
  constructor <;> exact List.length_map _

theorem appendColumn_fits (block : Block) (name : String) (column : Column)
    (fits : block.columns = [] ∨ column.size = block.rows) :
    ∃ next, block.appendColumn name column = some next ∧ next.rows = column.size ∧
      next.columns = block.columns ++ [(name, column)] := by
  unfold Block.appendColumn
  by_cases first : block.columns = []
  · exact ⟨_, dif_pos first, rfl, by rw [first, List.nil_append]⟩
  · have same := fits.resolve_left first
    rw [dif_neg first, dif_pos same]
    exact ⟨_, rfl, same.symm, rfl⟩

theorem appendAll_fits {size : Nat} {named : List (String × Column)}
    (sized : ∀ column ∈ named, column.2.size = size) (block : Block)
    (fits : block.columns = [] ∨ block.rows = size) :
    ∃ next, named.foldlM (fun block column => block.appendColumn column.1 column.2) block =
      some next ∧ next.columns = block.columns ++ named := by
  induction named generalizing block with
  | nil => exact ⟨block, rfl, (List.append_nil _).symm⟩
  | cons column named ih =>
      have width : column.2.size = size := sized column (by simp)
      obtain ⟨middle, appended, rows, columns⟩ := appendColumn_fits block column.1
        column.2 (fits.imp id fun same => width.trans same.symm)
      obtain ⟨next, rest, whole⟩ := ih
        (fun later member => sized later (by simp [member])) middle (Or.inr (rows.trans width))
      refine ⟨next, ?_, ?_⟩
      · rw [List.foldlM_cons, appended]
        exact rest
      · rw [whole, columns, List.append_assoc, List.singleton_append]

theorem named_sized {columns : Columns} {size : Nat} (sized : columns.Sized size) :
    ∀ column ∈ columns.named, column.2.size = size := by
  obtain ⟨eventId, userId, eventType, platform, ts, payload⟩ := sized
  simp only [Columns.named, List.forall_mem_cons, Column.size]
  exact ⟨eventId, userId, eventType, platform, ts, payload, by simp⟩

theorem fillColumns_sized (parse : Bytes → Option Event) (batch : List Bytes) :
    (fillColumns parse batch).Sized batch.length := by
  have sized := ofRows_sized (batch.map (rowOf parse))
  rwa [List.length_map, ← fillColumns_eq] at sized

theorem buildBlock_succeeds (parse : Bytes → Option Event) (batch : List Bytes) :
    ∃ block, buildBlock parse batch = some block ∧ block.rows = batch.length ∧
      block.columns = (fillColumns parse batch).named := by
  have sized := named_sized (fillColumns_sized parse batch)
  obtain ⟨block, built, columns⟩ := appendAll_fits sized .empty (Or.inl rfl)
  have whole : block.columns = (fillColumns parse batch).named := columns
  refine ⟨block, built, ?_, whole⟩
  have width := block.rectangular ("ts", .numbers (fillColumns parse batch).ts)
    (by rw [whole]; simp [Columns.named])
  rw [← width]
  exact (fillColumns_sized parse batch).ts

/-! Rows of records that a worker let pass. -/

/-- The record passed `ParseFromString` and `validate_event` in `worker()`. -/
def Checked (parse : Bytes → Option Event) (d : Bytes) : Prop :=
  ∃ evt clock, parse d = some evt ∧ validateEvent clock evt = true

theorem checked_row {parse : Bytes → Option Event} {d : Bytes} (checked : Checked parse d) :
    ∃ evt, parse d = some evt ∧ rowOf parse d = evt.row ∧
      (evt.row.ts.toNat : Int) = evt.ts.toInt ∧ ∀ other, rowOf parse d ≠ fallbackRow other := by
  obtain ⟨evt, clock, parsed, accepted⟩ := checked
  have acceptable := (validateEvent_iff clock evt).mp accepted
  have same : rowOf parse d = evt.row := by simp only [rowOf, parsed]
  refine ⟨evt, parsed, same, acceptable.unsigned, ?_⟩
  intro other fallback
  have nobody : evt.userId = [] := congrArg Row.userId (same.symm.trans fallback)
  have someone := acceptable.userId.1
  rw [nobody] at someone
  exact absurd someone (by simp)

/-- The columns have one entry for each record, each made of that record alone, and
a batch of checked records becomes rows with exactly their events' fields. -/
theorem doFlush_rowsFaithful (parse : Bytes → Option Event) (batch : List Bytes) :
    (fillColumns parse batch).Sized batch.length ∧
    (∃ block, buildBlock parse batch = some block ∧ block.rows = batch.length ∧
      block.columns = (fillColumns parse batch).named) ∧
    (∀ index, (fillColumns parse batch).row? index = (batch[index]?).map (rowOf parse)) ∧
    ((∀ d ∈ batch, Checked parse d) → ∀ index d, batch[index]? = some d →
      ∃ evt, parse d = some evt ∧
        (fillColumns parse batch).row? index = some
          { eventId := evt.eventId
            userId := evt.userId
            eventType := evt.eventType
            platform := evt.platform
            ts := evt.ts.toUInt64
            payload := evt.payload } ∧
        (evt.ts.toUInt64.toNat : Int) = evt.ts.toInt ∧
        ∀ other, (fillColumns parse batch).row? index ≠ some (fallbackRow other)) := by
  have rows (index : Nat) :
      (fillColumns parse batch).row? index = (batch[index]?).map (rowOf parse) := by
    rw [fillColumns_eq, ofRows_row?, List.getElem?_map]
  refine ⟨fillColumns_sized parse batch, buildBlock_succeeds parse batch, rows, ?_⟩
  intro checked index d found
  obtain ⟨evt, parsed, same, unsigned, apart⟩ :=
    checked_row (checked d (List.mem_of_getElem? found))
  refine ⟨evt, parsed, ?_, unsigned, ?_⟩
  · rw [rows, found, Option.map_some, same]
    rfl
  · intro other fallback
    rw [rows, found, Option.map_some, Option.some.injEq] at fallback
    exact apart other fallback

theorem doFlush_rowsFaithful_pair :
    (fillColumns sampleParse [encodeEvent (eventOf [7]), encodeEvent (eventOf [8])]).row? 1 =
      some { eventId := [], userId := [117], eventType := [99], platform := [], ts := 1000,
             payload := [8] } := by
  have checked : ∀ d ∈ [encodeEvent (eventOf [7]), encodeEvent (eventOf [8])],
      Checked sampleParse d := by
    intro d member
    simp only [List.mem_cons, List.not_mem_nil, or_false] at member
    rcases member with rfl | rfl
    · exact ⟨eventOf [7], 1, by decide, by decide⟩
    · exact ⟨eventOf [8], 1, by decide, by decide⟩
  obtain ⟨evt, parsed, row, -⟩ := (doFlush_rowsFaithful sampleParse _).2.2.2 checked 1
    (encodeEvent (eventOf [8])) rfl
  have same : evt = eventOf [8] := Option.some.inj (parsed.symm.trans (by decide))
  rw [row, same]
  rfl

end EventCollector
