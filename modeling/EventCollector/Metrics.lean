/-! `include/metrics.h`: the twelve counters, taken as unbounded naturals. -/

namespace EventCollector

structure Metrics where
  totalReceived : Nat := 0
  totalParsed : Nat := 0
  totalValid : Nat := 0
  totalInvalid : Nat := 0
  totalParseFail : Nat := 0
  totalRateLimited : Nat := 0
  totalKafkaOk : Nat := 0
  totalKafkaFail : Nat := 0
  totalStored : Nat := 0
  totalStoreFail : Nat := 0
  totalStoreDead : Nat := 0
  totalQueueDrop : Nat := 0
  deriving DecidableEq

end EventCollector
