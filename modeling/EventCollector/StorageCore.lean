import EventCollector.Lib.Machine
import EventCollector.Metrics
import EventCollector.Validation

/-!
`src/processor/storage.cpp` as a pool of threads over one buffer: callers of
`save` and `flush_and_stop`, and the thread that runs `periodic_flush`. A
section under `buffer_mutex_` is one step, and so is one under
`dead_letter_mutex`; an `Insert` is a step that begins it and one that ends it.
-/

namespace EventCollector

def batchSize : Nat := 1000

inductive StorageRole
  | caller
  | flusher
  deriving DecidableEq

inductive StoragePc
  | idle
  | check
  | asleep
  | swapped (role : StorageRole) (batch : List Bytes)
  | trying (role : StorageRole) (batch : List Bytes) (retry : Nat)
  | inserting (role : StorageRole) (batch : List Bytes) (retry : Nat)
  | inserted (role : StorageRole) (batch : List Bytes)
  | deadLetter (role : StorageRole) (batch : List Bytes)
  | exited
  deriving DecidableEq

/-- Where `do_flush` returns to: out of `Storage`, or `while (running_)`. -/
def StorageRole.resume : StorageRole → StoragePc
  | .caller => .idle
  | .flusher => .check

namespace StoragePc

def inCall : StoragePc → Bool
  | .swapped .caller _ | .trying .caller _ _ | .inserting .caller _ _ | .inserted .caller _
  | .deadLetter .caller _ => true
  | _ => false

def inPeriodicFlush : StoragePc → Bool
  | .check | .asleep | .swapped .flusher _ | .trying .flusher _ _ | .inserting .flusher _ _
  | .inserted .flusher _ | .deadLetter .flusher _ => true
  | _ => false

end StoragePc

inductive Destruction
  | alive
  | joining
  | joined
  | flushing
  | returned
  deriving DecidableEq

/-- `saved`, `taken` and `given` record the calls of `save`, the batches in the
order in which they were swapped out, and the calls of `do_flush`. -/
structure StorageSystem where
  buffer : List Bytes
  running : Bool
  metrics : Metrics
  threads : List StoragePc
  destruction : Destruction
  saved : List Bytes
  taken : List (List Bytes)
  given : List (List Bytes)
  deriving DecidableEq

/-- `outcome` is what the environment decides in a step: whether an `Insert`
returns or throws, and whether `dead_letter.log` opens. -/
inductive StorageLabel
  | save (thread : Nat) (record : Bytes)
  | flushAndStop (thread : Nat)
  | advance (thread : Nat) (outcome : Bool)
  | destroy
  | join
  | lastFlush (thread : Nat)
  | finish
  deriving DecidableEq

namespace StorageSystem

def push (system : StorageSystem) (record : Bytes) : StorageSystem :=
  { system with buffer := system.buffer ++ [record], saved := system.saved ++ [record] }

def place (system : StorageSystem) (thread : Nat) (pc : StoragePc) : StorageSystem :=
  { system with threads := system.threads.set thread pc }

def swap (system : StorageSystem) (thread : Nat) (role : StorageRole) : StorageSystem :=
  { system with
    buffer := []
    taken := system.taken ++ [system.buffer] }.place thread (.swapped role system.buffer)

def takeAll (system : StorageSystem) (thread : Nat) (role : StorageRole) : StorageSystem :=
  if system.buffer.isEmpty then system.place thread role.resume else system.swap thread role

def advance (system : StorageSystem) (thread : Nat) (outcome : Bool) :
    StoragePc → Option StorageSystem
  | .idle | .exited => none
  | .check => some (system.place thread (if system.running then .asleep else .exited))
  | .asleep => some (system.takeAll thread .flusher)
  | .swapped role batch =>
      some ({ system with given := system.given ++ [batch] }.place thread
        (if batch.isEmpty then role.resume else .trying role batch 0))
  | .trying role batch retry => some (system.place thread (.inserting role batch retry))
  | .inserting role batch retry =>
      some (system.place thread
        (if outcome then .inserted role batch
        else if retry + 1 < 3 then .trying role batch (retry + 1)
        else .deadLetter role batch))
  | .inserted role batch =>
      some ({ system with
        metrics.totalStored := system.metrics.totalStored + batch.length }.place thread
          role.resume)
  | .deadLetter role batch =>
      some ({ system with
        metrics.totalStoreDead := if outcome then system.metrics.totalStoreDead + batch.length
          else system.metrics.totalStoreDead }.place thread role.resume)

/-- The destructor starts when no call is under way, and none starts later. -/
def step (system : StorageSystem) : StorageLabel → Option StorageSystem
  | .save thread record =>
      if system.destruction = .alive ∧ system.threads[thread]? = some .idle then
        let pushed := system.push record
        if pushed.buffer.length < batchSize then some pushed
        else some (pushed.swap thread .caller)
      else none
  | .flushAndStop thread =>
      if system.destruction = .alive ∧ system.threads[thread]? = some .idle then
        some (system.takeAll thread .caller)
      else none
  | .advance thread outcome => (system.threads[thread]?).bind (system.advance thread outcome)
  | .destroy =>
      if system.destruction = .alive ∧ ∀ pc ∈ system.threads, pc.inCall = false then
        some { system with running := false, destruction := .joining }
      else none
  | .join =>
      if system.destruction = .joining ∧ ∀ pc ∈ system.threads, pc.inPeriodicFlush = false then
        some { system with destruction := .joined }
      else none
  | .lastFlush thread =>
      if system.destruction = .joined ∧ system.threads[thread]? = some .idle then
        some { system.takeAll thread .caller with destruction := .flushing }
      else none
  | .finish =>
      if system.destruction = .flushing ∧ ∀ pc ∈ system.threads, pc.inCall = false then
        some { system with destruction := .returned }
      else none

end StorageSystem

/-- Thread 0 runs `periodic_flush`; the main thread is one of the callers. -/
def storageMachine (callers : Nat) : Machine StorageSystem StorageLabel where
  initial :=
    { buffer := []
      running := true
      metrics := {}
      threads := .check :: List.replicate callers .idle
      destruction := .alive
      saved := []
      taken := []
      given := [] }
  step := StorageSystem.step

end EventCollector
