import Userland.Monitor.Metrics
import Userland.Scenario.Fields

namespace Userland

/-! # Metrics scenarios

Fresh metrics, then a run of steps that record what the daemon records:
served requests, manager operations, unit messages, process counts and
WebSocket traffic. A `snapshot` step answers the totals; the others answer
nothing. A request without a status code breaks recording and ends the run.

The answer has what each step answered, the totals at the end (unless the run
broke) and every family with series. A timed step measures real time, so once
one has run, histograms of durations report only how many observations they
hold.
-/

namespace Scenario

open Monitor

/-- The totals as JSON. -/
def snapshotJson (s : Snapshot) : Json :=
  .obj [("total_requests", .int s.totalRequests), ("total_errors", .int s.totalErrors),
    ("live_processes", .int s.liveProcesses), ("total_processes", .int s.totalProcesses),
    ("active_connections", .int s.activeConnections)]

/-- A series as JSON; a histogram of durations keeps only its count when `timed`. -/
def seriesJson (f : Family) (timed : Bool) (values : List String) (s : Series) : Json :=
  let labels := Json.obj ((f.pairs values).map fun (k, v) => (k, Json.str v))
  match f.kind with
  | .histogram bounds =>
    if timed && (f.name.splitOn "duration").length > 1 then
      .obj [("labels", labels), ("count", .int s.count)]
    else
      .obj [("labels", labels), ("count", .int s.count), ("sum", .str (Decimal.generalText s.sum)),
        ("buckets", .arr ((cumulative bounds s.buckets).map fun (b, n) =>
          Json.arr [.str (Decimal.generalText b), .int n]))]
  | k => .obj [("labels", labels), ("value", .str (Decimal.generalText (s.reading k)))]

/-- The families with series as JSON, by name. -/
def familiesJson (m : Metrics) (timed : Bool) : Json :=
  .obj (m.gather.map fun f => (f.name, Json.arr (f.ordered.map fun (v, s) => seriesJson f timed v s)))

/-- A duration field given in microseconds, in nanoseconds. -/
def durationNs (step : Json) : Decode Int := do
  return Text.wrapWord ((← step.getInt "duration_us") * 1000)

/-- The state of a metrics run: the metrics, whether a timed step ran, and
whether recording broke. -/
structure MetricsRun where
  metrics : Metrics
  timed : Bool
  broken : Bool

/-- Runs the steps, answering each, until they end or recording breaks. -/
def metricsSteps : MetricsRun → List Json → List Json → Decode (MetricsRun × List Json)
  | r, [], acc => return (r, acc.reverse)
  | r, step :: rest, acc => do
    let m := r.metrics
    let next (m : Metrics) (answer : Json) := metricsSteps { r with metrics := m } rest (answer :: acc)
    match ← step.getStr "do" with
    | "http" =>
      match m.recordRequest (← step.getStrOr "method" "GET") (← step.getStrOr "path" "/")
          (← step.getStrOr "status" "200") (← durationNs step) (← step.getInt "req") (← step.getInt "resp") with
      | .ok m => next m (.obj [])
      | .error m => return ({ r with metrics := m, broken := true },
          (Json.obj [("error", .str "panic")] :: acc).reverse)
    | "op" => next (m.recordOp (← step.getStr "op") (← step.getStr "result") (← durationNs step)) (.obj [])
    | "unit_message" => next (m.recordUnitMessage (← step.getStr "op")) (.obj [])
    | "created" => next m.recordProcessCreated (.obj [])
    | "exit" => next (m.recordProcessExit (← step.getStr "reason")) (.obj [])
    | "live" => next (m.setProcessesLive (← step.getInt "count")) (.obj [])
    | "pending" => next (m.setPendingRegistrations (← step.getInt "count")) (.obj [])
    | "ws_message" => next (m.recordWsMessage (← step.getStr "direction") (← step.getStr "type")) (.obj [])
    | "ws_inc" => next m.incWsConnections (.obj [])
    | "ws_dec" => next m.decWsConnections (.obj [])
    | "timer" =>
      let op ← step.getStr "op"
      let result ← step.getStr "result"
      let m := if ← step.getBool "nil" then m else m.recordOp op result 0
      metricsSteps { r with metrics := m, timed := true } rest (Json.obj [] :: acc)
    | "snapshot" => next m (snapshotJson m.snapshot)
    | _ => next m (.obj [])

/-- The metrics scenario. -/
def metrics (req : Json) : Decode Json := do
  let (r, answers) ← metricsSteps ⟨Metrics.new, false, false⟩ (← req.getList "steps") []
  let snapshot := if r.broken then [] else [("snapshot", snapshotJson r.metrics.snapshot)]
  let families := if ← req.getBool "nil_registry" then [] else [("families", familiesJson r.metrics r.timed)]
  return .obj ([("steps", Json.arr answers)] ++ snapshot ++ families)

end Scenario

end Userland
