import EventCollector.MetricsLoads
import EventCollector.ProcessCore

/-!
The endpoint of `Monitor` beside the whole process, with any number of HTTP clients. What
a client sends is read once and not looked at; then `handle_request` loads the counters one
after another while all other threads go on. No handler runs once `main` has joined the io
threads.
-/

namespace EventCollector

variable {capacity : Nat}

/-- `loading` is in `build_prometheus_text`, with what has been loaded so far. -/
inductive Request
  | reading
  | loading (values : List UInt64)
  | answered (response : Bytes)
  | failed
  deriving DecidableEq

def Request.inHandler : Request → Bool
  | .loading _ => true
  | _ => false

structure Monitored (capacity : Nat) where
  process : Process capacity
  requests : List Request

inductive MonitoredLabel
  | process (label : ProcessLabel)
  | connect
  | read (index : Nat) (failed : Bool)
  | load (index : Nat)
  deriving DecidableEq

def ProcessLabel.isMain : ProcessLabel → Bool
  | .main _ => true
  | .thread _ _ => false

/-- One `load()`, in the order of the text; the last one is followed by the answer. -/
def Request.load (metrics : Metrics) : Request → Option Request
  | .loading values =>
      (Metric.all[values.length]?).map fun metric =>
        let values := values ++ [Metric.values metrics metric]
        if values.length = Metric.all.length then
          .answered (metricsResponse fun metric => (values[metric.place]?).getD 0)
        else .loading values
  | _ => none

namespace Monitored

def request (monitored : Monitored capacity) (index : Nat) (next : Request → Option Request) :
    Option (Monitored capacity) :=
  if monitored.process.main = .serving then
    (monitored.requests[index]?).bind fun request =>
      (next request).map fun request =>
        { monitored with requests := monitored.requests.set index request }
  else none

def step (parse : Bytes → Option Event) (deployment : Deployment)
    (monitored : Monitored capacity) : MonitoredLabel → Option (Monitored capacity)
  | .process label =>
      -- `main` joins the io threads before it calls `stop()`
      if monitored.process.main = .serving ∧ label.isMain = true ∧
          monitored.requests.any Request.inHandler = true then none
      else
        (monitored.process.step parse deployment label).map fun process =>
          { monitored with process := process }
  | .connect =>
      if monitored.process.main = .serving then
        some { monitored with requests := monitored.requests ++ [.reading] }
      else none
  | .read index failed =>
      monitored.request index fun
        | .reading => some (if failed then .failed else .loading [])
        | _ => none
  | .load index =>
      monitored.request index (Request.load monitored.process.pipeline.metrics)

end Monitored

def monitoredMachine (parse : Bytes → Option Event) (deployment : Deployment)
    (redis : CounterStore Bytes) (capacity sessions workers : Nat) :
    Machine (Monitored capacity) MonitoredLabel where
  initial :=
    { process := (processMachine parse deployment redis capacity sessions workers).initial
      requests := [] }
  step := Monitored.step parse deployment

end EventCollector
