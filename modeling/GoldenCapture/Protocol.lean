import GoldenCapture.Batch

/-!
# Ingestion protocols

What telemetry can be sent to, and what each protocol carries. A protocol's place in `all` is its
place in every listing.
-/

namespace GoldenCapture

inductive Protocol where
  | otlpTraces
  | hecLogs
  | hecMetrics
  | hecObjects
  | signalFx
deriving DecidableEq, Repr

namespace Protocol

def all : List Protocol := [otlpTraces, hecLogs, hecMetrics, hecObjects, signalFx]

def name : Protocol → String
  | otlpTraces => "otlp-traces"
  | hecLogs => "hec-logs"
  | hecMetrics => "hec-metrics"
  | hecObjects => "hec-objects"
  | signalFx => "signalfx"

/-- The protocol of exactly this name. -/
def ofName? (s : String) : Option Protocol := all.find? fun protocol => protocol.name == s

/-- What every batch on this protocol carries. -/
def signal : Protocol → Signal
  | otlpTraces => .traces
  | hecLogs | hecObjects => .logs
  | hecMetrics | signalFx => .metrics

def defaultPort : Protocol → UInt16
  | otlpTraces => 4317
  | hecLogs => 8090
  | hecMetrics => 8091
  | hecObjects => 8092
  | signalFx => 9943

/-- The path that exporters post to. -/
def route : Protocol → String
  | otlpTraces => "/v1/traces"
  | hecLogs | hecMetrics | hecObjects => "/services/collector"
  | signalFx => "/v2/datapoint"

end Protocol

end GoldenCapture
