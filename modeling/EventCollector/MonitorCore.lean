import EventCollector.Lib.Ascii
import EventCollector.Metrics
import EventCollector.Validation

/-! `src/monitor/monitor.cpp`: the text of the counters and the response that carries it. -/

namespace EventCollector

open Ascii

inductive Metric
  | received
  | parsed
  | valid
  | invalid
  | parseFail
  | rateLimited
  | kafkaOk
  | kafkaFail
  | stored
  | storeFail
  | storeDead
  | queueDrop
  deriving DecidableEq

namespace Metric

/-- In the order in which `build_prometheus_text` loads them. -/
def all : List Metric :=
  [received, parsed, valid, invalid, parseFail, rateLimited, kafkaOk, kafkaFail, stored,
    storeFail, storeDead, queueDrop]

def name : Metric → Bytes
  | received => ascii "event_received_total"
  | parsed => ascii "event_parsed_total"
  | valid => ascii "event_valid_total"
  | invalid => ascii "event_invalid_total"
  | parseFail => ascii "event_parse_fail_total"
  | rateLimited => ascii "event_rate_limited_total"
  | kafkaOk => ascii "event_kafka_ok_total"
  | kafkaFail => ascii "event_kafka_fail_total"
  | stored => ascii "event_stored_total"
  | storeFail => ascii "event_store_fail_total"
  | storeDead => ascii "event_store_dead_total"
  | queueDrop => ascii "event_queue_drop_total"

def help : Metric → Bytes
  | received => ascii "Total TCP events received"
  | parsed => ascii "Total protobuf parsed successfully"
  | valid => ascii "Valid events after field check"
  | invalid => ascii "Events failing field validation"
  | parseFail => ascii "Events failing protobuf parse"
  | rateLimited => ascii "Events dropped by rate limiter"
  | kafkaOk => ascii "Events successfully sent to Kafka"
  | kafkaFail => ascii "Events failed to send to Kafka"
  | stored => ascii "Events stored to ClickHouse"
  | storeFail => ascii "Events failed to store"
  | storeDead => ascii "Events written to dead_letter"
  | queueDrop => ascii "Events dropped due to queue full"

def load (metrics : Metrics) : Metric → Nat
  | received => metrics.totalReceived
  | parsed => metrics.totalParsed
  | valid => metrics.totalValid
  | invalid => metrics.totalInvalid
  | parseFail => metrics.totalParseFail
  | rateLimited => metrics.totalRateLimited
  | kafkaOk => metrics.totalKafkaOk
  | kafkaFail => metrics.totalKafkaFail
  | stored => metrics.totalStored
  | storeFail => metrics.totalStoreFail
  | storeDead => metrics.totalStoreDead
  | queueDrop => metrics.totalQueueDrop

/-- What `load()` gives while the counters rest: a counter wraps at 2^64. -/
def values (metrics : Metrics) (metric : Metric) : UInt64 :=
  UInt64.ofNat (metric.load metrics)

theorem mem_all (metric : Metric) : metric ∈ all := by
  cases metric <;> decide

end Metric

def formatMetric (name help type : Bytes) (value : UInt64) : Bytes :=
  ascii "# HELP " ++ name ++ ascii " " ++ help ++ ascii "\n" ++
    ascii "# TYPE " ++ name ++ ascii " " ++ type ++ ascii "\n" ++
    name ++ ascii " " ++ decimal value.toNat ++ ascii "\n"

def buildPrometheusText (values : Metric → UInt64) : Bytes :=
  Metric.all.flatMap fun metric =>
    formatMetric metric.name metric.help (ascii "counter") (values metric)

/-- What `handle_request` writes to the socket. -/
def metricsResponse (values : Metric → UInt64) : Bytes :=
  let resp := buildPrometheusText values
  ascii "HTTP/1.1 200 OK\r\n" ++
    ascii "Content-Type: text/plain; version=0.0.4\r\n" ++
    ascii "Content-Length: " ++ decimal resp.length ++ ascii "\r\n" ++
    ascii "Connection: close\r\n\r\n" ++ resp

end EventCollector
