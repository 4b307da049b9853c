/-
Suites as JSON documents, for scripts that read the outcome of a trial.
-/
import LoadTrial.Json.Printer
import LoadTrial.Json.Reader
import LoadTrial.Json.Record
import LoadTrial.Run.Suite

namespace LoadTrial

namespace Duration

def toJson (d : Duration) : Json :=
  .object [("secs", .natural d.secs), ("nanos", .integer d.nanos.val)]

/-- reads seconds and nanoseconds; a second or more of nanoseconds is carried over. No other field may be there -/
def ofJson? (j : Json) : Option Duration := do
  let names := ["secs", "nanos"]
  if let .object fields := j then
    if !fields.all fun f => names.contains f.1 then failure
  match ← j.record? false names with
  | [secs, nanos] =>
    let secs ← Json.required Json.asUInt64? secs
    let nanos ← Json.required Json.asUInt32? nanos
    let total := secs.toNat + nanos.toNat / 1000000000
    if total < UInt64.size then some (ofParts (UInt64.ofNat total) nanos.toNat) else none
  | _ => none

end Duration

namespace Outcome

def ofJson? (j : Json) : Option Outcome := do
  match ← j.record? false ["success", "latency_ms", "timed_out"] with
  | [success, latency, timedOut] =>
    some ⟨← Json.required Json.asBool? success, ← Json.required Json.asUInt64? latency,
      ← Json.required Json.asBool? timedOut⟩
  | _ => none

end Outcome

namespace Summary

def toJson (s : Summary) : Json :=
  .object [
    ("total", .natural s.total),
    ("successful", .natural s.successful),
    ("failed", .natural s.failed),
    ("timed_out", .natural s.timedOut),
    ("latency_sum_ms", .natural s.latencySumMs),
    ("min_latency_ms", Json.ofOption .natural s.minLatencyMs),
    ("max_latency_ms", Json.ofOption .natural s.maxLatencyMs),
    ("duration", s.duration.toJson)]

def ofJson? (j : Json) : Option Summary := do
  let names := ["total", "successful", "failed", "timed_out", "latency_sum_ms", "min_latency_ms", "max_latency_ms",
    "duration"]
  match ← j.record? false names with
  | [total, successful, failed, timedOut, latencySum, minLatency, maxLatency, duration] =>
    some {
      total := ← Json.required Json.asUInt64? total
      successful := ← Json.required Json.asUInt64? successful
      failed := ← Json.required Json.asUInt64? failed
      timedOut := ← Json.required Json.asUInt64? timedOut
      latencySumMs := ← Json.required Json.asUInt64? latencySum
      minLatencyMs := ← Json.nullable Json.asUInt64? minLatency
      maxLatencyMs := ← Json.nullable Json.asUInt64? maxLatency
      duration := ← Json.required Duration.ofJson? duration }
  | _ => none

end Summary

namespace RunId

def toJson (id : RunId) : Json := .string id.toText

def ofJson? (j : Json) : Option RunId :=
  j.asString? >>= ofText?

end RunId

namespace Scenario.Result

def toJson (r : Result) : Json :=
  .object [
    ("run_id", r.runId.toJson),
    ("label", .string r.label),
    ("num_clients", .natural r.numClients),
    ("failed_workers", .natural r.failedWorkers),
    ("summary", r.summary.toJson),
    ("passed", .bool r.passed)]

def ofJson? (j : Json) : Option Result := do
  match ← j.record? false ["run_id", "label", "num_clients", "failed_workers", "summary", "passed"] with
  | [runId, label, numClients, failedWorkers, summary, passed] =>
    some {
      runId := ← Json.required RunId.ofJson? runId
      label := ← Json.required Json.asString? label
      numClients := ← Json.required Json.asUInt64? numClients
      failedWorkers := ← Json.required Json.asUInt64? failedWorkers
      summary := ← Json.required Summary.ofJson? summary
      passed := ← Json.required Json.asBool? passed }
  | _ => none

end Scenario.Result

namespace Suite

def Entry.toJson (e : Entry) : Json :=
  .object [("label", .string e.label), ("passed", .bool e.passed),
    ("result", Json.ofOption Scenario.Result.toJson e.result)]

def Entry.ofJson? (j : Json) : Option Entry := do
  match ← j.record? false ["label", "passed", "result"] with
  | [label, passed, result] =>
    some ⟨← Json.required Json.asString? label, ← Json.required Json.asBool? passed,
      ← Json.nullable Scenario.Result.ofJson? result⟩
  | _ => none

def toJson (s : Suite) : Json :=
  .object [("entries", .array (s.entries.map Entry.toJson))]

def ofJson? (j : Json) : Option Suite := do
  match ← j.record? false ["entries"] with
  | [entries] => some ⟨← Json.required (Json.list? Entry.ofJson?) entries⟩
  | _ => none

/-- the document of a suite -/
def toText (s : Suite) : String :=
  s.toJson.pretty

/-- reads the document of a suite -/
def ofText? (text : String) : Option Suite :=
  match Json.read text with
  | .ok j => ofJson? j
  | .error _ => none

end Suite

end LoadTrial
