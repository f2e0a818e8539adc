import EventCollector.Lib.Directory
import EventCollector.Metrics
import EventCollector.Validation

/-!
`do_flush` and `write_dead_letter` of `src/processor/storage.cpp` with the files they
write. The block of columns that a flush builds first is in the StorageRows module: it
can always be built, and no branch here reads it.
-/

namespace EventCollector

/-- `dead_letter.log` and `dead_letter.log.<seconds>`. -/
inductive FileName
  | log
  | rotated (time : Int)
  deriving DecidableEq

def maxLogSize : Nat := 100 * 1024 * 1024

/-- `"\n---\n"` -/
def separator : Bytes := [10, 45, 45, 45, 10]

def deadLetterText (batch : List Bytes) : Bytes := batch.flatMap fun d => d ++ separator

/-- What the system calls of one `write_dead_letter` do; `room` is how many more
bytes the disk takes and `time` what `std::time` gives. -/
structure DiskOutcome where
  statOk : Bool
  renameOk : Bool
  opens : Bool
  room : Nat
  time : Int
  deriving DecidableEq

structure Sink where
  directory : Directory FileName Bytes
  metrics : Metrics

def rotate (outcome : DiskOutcome) (directory : Directory FileName Bytes) :
    Directory FileName Bytes :=
  match directory.find .log with
  | none => directory
  | some content =>
      if outcome.statOk ∧ content.length > maxLogSize ∧ outcome.renameOk then
        directory.rename .log (.rotated outcome.time)
      else directory

/-- The stream is not checked after the writes, so that the counter goes up
whatever became of them. -/
def writeDeadLetter (outcome : DiskOutcome) (sink : Sink) (batch : List Bytes) : Sink :=
  let directory := rotate outcome sink.directory
  if !outcome.opens then { sink with directory := directory }
  else
    { directory := directory.append .log ((deadLetterText batch).take outcome.room)
      metrics := { sink.metrics with
        totalStoreDead := sink.metrics.totalStoreDead + batch.length } }

/-- A call with every system call succeeding. -/
structure DeadLetterCall where
  time : Int
  batch : List Bytes
  deriving DecidableEq

def DeadLetterCall.outcome (call : DeadLetterCall) : DiskOutcome where
  statOk := true
  renameOk := true
  opens := true
  room := (deadLetterText call.batch).length
  time := call.time

def DeadLetterCall.write (sink : Sink) (call : DeadLetterCall) : Sink :=
  writeDeadLetter call.outcome sink call.batch

structure FlushOutcome where
  inserts : Nat → Bool
  disk : DiskOutcome

def insertRetries (inserts : Nat → Bool) (sink : Sink) (batch : List Bytes) :
    Nat → Nat → Option Sink
  | 0, _ => none
  | left + 1, retry =>
      if inserts retry then
        some { sink with
          metrics.totalStored := sink.metrics.totalStored + batch.length }
      else insertRetries inserts sink batch left (retry + 1)

def doFlush (outcome : FlushOutcome) (sink : Sink) (batch : List Bytes) : Sink :=
  if batch.isEmpty then sink
  else
    match insertRetries outcome.inserts sink batch 3 0 with
    | some flushed => flushed
    | none => writeDeadLetter outcome.disk sink batch

end EventCollector
