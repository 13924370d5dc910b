import Userland.Decimal.Shortest
import Userland.Text.Integer

namespace Userland

/-! # Metrics

The daemon counts what it does in named families of series. A family is a
counter, a gauge or a histogram, and has label names; each series in it is
told apart by its label values. A family without labels has its one series
from the start; any other family gains a series the first time its label
values are used.

A counter only grows. A gauge is set or moved by one. A histogram counts
observations in buckets with upper bounds (an observation falls in the first
bucket whose bound is at least it) and keeps their number and their sum.

Beside the families the daemon keeps a snapshot of a few totals in integers,
for the JSON view.
-/

namespace Monitor

/-- What a family measures. -/
inductive Kind where
  | counter
  | gauge
  | histogram (bounds : List Float)
  deriving Inhabited

/-- The state of one series. Counters keep whole counts, gauges a value, and
histograms the number of observations in each bucket (not cumulative), their
number and their sum. -/
structure Series where
  count : Nat
  value : Float
  buckets : List Nat
  sum : Float
  deriving Inhabited

/-- A family of series. -/
structure Family where
  name : String
  help : String
  kind : Kind
  labels : List String
  series : List (List String × Series)
  deriving Inhabited

/-- A fresh series of a kind. -/
def Kind.fresh : Kind → Series
  | .histogram bounds => ⟨0, 0, bounds.map fun _ => 0, 0⟩
  | _ => ⟨0, 0, [], 0⟩

/-- The number of the bucket an observation falls in: the first whose bound
is at least it, or the number of bounds when it is above them all. -/
def bucketOf (bounds : List Float) (v : Float) : Nat :=
  (bounds.findIdx? fun b => v ≤ b).getD bounds.length

/-- A series after one observation. -/
def Series.observe (bounds : List Float) (v : Float) (s : Series) : Series :=
  let i := bucketOf bounds v
  { s with buckets := s.buckets.modify i (· + 1), count := s.count + 1, sum := s.sum + v }

namespace Family

/-- A new family; one without labels has its series already. -/
def new (name help : String) (kind : Kind) (labels : List String) : Family :=
  ⟨name, help, kind, labels, if labels.isEmpty then [([], kind.fresh)] else []⟩

/-- The family after changing the series of some label values, made fresh first
when there is none yet. -/
def update (f : Family) (values : List String) (g : Series → Series) : Family :=
  if f.series.any (·.1 == values) then
    { f with series := f.series.map fun (k, s) => if k == values then (k, g s) else (k, s) }
  else { f with series := f.series ++ [(values, g f.kind.fresh)] }

/-- Adds one to a counter. -/
def inc (f : Family) (values : List String) : Family :=
  f.update values fun s => { s with count := s.count + 1 }

/-- Moves a gauge by an amount. -/
def add (f : Family) (values : List String) (d : Float) : Family :=
  f.update values fun s => { s with value := s.value + d }

/-- Sets a gauge. -/
def set (f : Family) (values : List String) (v : Float) : Family :=
  f.update values fun s => { s with value := v }

/-- Records an observation in a histogram. -/
def observe (f : Family) (values : List String) (v : Float) : Family :=
  match f.kind with
  | .histogram bounds => f.update values (Series.observe bounds v)
  | _ => f

/-- The label pairs of some values, in the order of the label names. -/
def pairs (f : Family) (values : List String) : List (String × String) :=
  (f.labels.zip values).mergeSort fun a b => a.1 ≤ b.1

/-- Whether one series' label values come before another's, compared pair by
pair in the order of the label names. -/
def before (f : Family) (a b : List String) : Bool :=
  let va := (f.pairs a).map (·.2)
  let vb := (f.pairs b).map (·.2)
  compare va vb != .gt

/-- The series in the order they are reported: by their label values. -/
def ordered (f : Family) : List (List String × Series) :=
  f.series.mergeSort fun a b => f.before a.1 b.1

end Family

/-- The cumulative bucket counts of a histogram series, paired with their bounds. -/
def cumulative (bounds : List Float) (counts : List Nat) : List (Float × Nat) :=
  let running := (counts.foldl (fun (acc : List Nat × Nat) c => (acc.1 ++ [acc.2 + c], acc.2 + c)) ([], 0)).1
  bounds.zip running

/-- The value a counter or gauge series reports. -/
def Series.reading (k : Kind) (s : Series) : Float :=
  match k with
  | .counter => Float.ofNat s.count
  | _ => s.value

/-- The totals kept for the JSON view. -/
structure Snapshot where
  totalRequests : Int
  totalErrors : Int
  liveProcesses : Int
  totalProcesses : Int
  activeConnections : Int
  deriving Inhabited, Repr

/-- All totals zero. -/
def Snapshot.zero : Snapshot := ⟨0, 0, 0, 0, 0⟩

/-- The daemon's metrics. -/
structure Metrics where
  requestsTotal : Family
  requestDuration : Family
  requestSize : Family
  responseSize : Family
  processesLive : Family
  processesCreated : Family
  processExits : Family
  pendingRegistrations : Family
  ops : Family
  opDuration : Family
  unitMessages : Family
  wsConnections : Family
  wsMessages : Family
  snapshot : Snapshot
  deriving Inhabited

namespace Metrics

/-- Fresh metrics: every count zero. -/
def new : Metrics where
  requestsTotal := .new "procman_http_requests_total" "Total number of HTTP requests" .counter
    ["method", "path", "status"]
  requestDuration := .new "procman_http_request_duration_seconds" "HTTP request duration in seconds"
    (.histogram [0.001, 0.005, 0.01, 0.025, 0.05, 0.1, 0.25, 0.5, 1, 2.5, 5, 10]) ["method", "path"]
  requestSize := .new "procman_http_request_size_bytes" "HTTP request size in bytes"
    (.histogram [100, 1000, 10000, 100000, 1000000]) ["method", "path"]
  responseSize := .new "procman_http_response_size_bytes" "HTTP response size in bytes"
    (.histogram [100, 1000, 10000, 100000, 1000000]) ["method", "path"]
  processesLive := .new "procman_processes_live" "Number of processes in the table" .gauge []
  processesCreated := .new "procman_processes_created_total" "Total number of processes created"
    .counter []
  processExits := .new "procman_process_exits_total" "Total number of processes freed, by reason"
    .counter ["reason"]
  pendingRegistrations := .new "procman_pending_registrations"
    "Processes created but not yet claimed by a unit" .gauge []
  ops := .new "procman_ops_total" "Total number of manager requests, by op and result" .counter
    ["op", "result"]
  opDuration := .new "procman_op_duration_seconds" "Time the manager spent servicing a request"
    (.histogram [0.00001, 0.0001, 0.0005, 0.001, 0.005, 0.01, 0.05, 0.1]) ["op"]
  unitMessages := .new "procman_unit_messages_total" "Messages forwarded to unit runtimes, by op"
    .counter ["op"]
  wsConnections := .new "procman_ws_connections" "Number of active WebSocket connections" .gauge []
  wsMessages := .new "procman_ws_messages_total" "Total number of WebSocket messages" .counter
    ["direction", "type"]
  snapshot := Snapshot.zero

/-- A length of time in nanoseconds as seconds: whole seconds plus the
remaining nanoseconds over a billion. -/
def seconds (ns : Int) : Float :=
  Float.ofInt (ns.tdiv 1000000000) + Float.ofInt (ns.tmod 1000000000) / 1e9

/-- Whether a status code is a client or server error: its first digit is 4 or 5. -/
def isErrorStatus (status : String) : Bool :=
  status.startsWith "4" || status.startsWith "5"

/-- Records one served request with its duration in nanoseconds and the sizes
of request and response. A request without a status code is counted in the
series and then cannot be told an error or not: recording fails there, with
the series as they were reached and the snapshot unchanged. -/
def recordRequest (m : Metrics) (method path status : String) (ns : Int) (reqSize respSize : Int) :
    Except Metrics Metrics :=
  let m := { m with
    requestsTotal := m.requestsTotal.inc [method, path, status],
    requestDuration := m.requestDuration.observe [method, path] (seconds ns),
    requestSize := m.requestSize.observe [method, path] (Float.ofInt reqSize),
    responseSize := m.responseSize.observe [method, path] (Float.ofInt respSize) }
  if status.isEmpty then .error m
  else
    let s := m.snapshot
    .ok { m with snapshot := { s with
      totalRequests := s.totalRequests + 1,
      totalErrors := if isErrorStatus status then s.totalErrors + 1 else s.totalErrors } }

/-- Records one serviced manager request and how long it took in nanoseconds. -/
def recordOp (m : Metrics) (op result : String) (ns : Int) : Metrics :=
  { m with ops := m.ops.inc [op, result], opDuration := m.opDuration.observe [op] (seconds ns) }

/-- Records a message handed back to a unit runtime. -/
def recordUnitMessage (m : Metrics) (op : String) : Metrics :=
  { m with unitMessages := m.unitMessages.inc [op] }

/-- Counts a new process. -/
def recordProcessCreated (m : Metrics) : Metrics :=
  { m with processesCreated := m.processesCreated.inc [],
           snapshot := { m.snapshot with totalProcesses := m.snapshot.totalProcesses + 1 } }

/-- Counts a freed process by the reason it went. -/
def recordProcessExit (m : Metrics) (reason : String) : Metrics :=
  { m with processExits := m.processExits.inc [reason] }

/-- Sets the number of live processes. -/
def setProcessesLive (m : Metrics) (n : Int) : Metrics :=
  { m with processesLive := m.processesLive.set [] (Float.ofInt n),
           snapshot := { m.snapshot with liveProcesses := n } }

/-- Sets the number of processes waiting for a unit to claim them. -/
def setPendingRegistrations (m : Metrics) (n : Int) : Metrics :=
  { m with pendingRegistrations := m.pendingRegistrations.set [] (Float.ofInt n) }

/-- Records a WebSocket message by direction and type. -/
def recordWsMessage (m : Metrics) (direction type : String) : Metrics :=
  { m with wsMessages := m.wsMessages.inc [direction, type] }

/-- Counts a WebSocket connection opened. -/
def incWsConnections (m : Metrics) : Metrics :=
  { m with wsConnections := m.wsConnections.add [] 1,
           snapshot := { m.snapshot with activeConnections := m.snapshot.activeConnections + 1 } }

/-- Counts a WebSocket connection closed. -/
def decWsConnections (m : Metrics) : Metrics :=
  { m with wsConnections := m.wsConnections.add [] (-1),
           snapshot := { m.snapshot with activeConnections := m.snapshot.activeConnections - 1 } }

/-- The families that have series, in the order of their names. -/
def gather (m : Metrics) : List Family :=
  let all := [m.requestsTotal, m.requestDuration, m.requestSize, m.responseSize, m.processesLive,
    m.processesCreated, m.processExits, m.pendingRegistrations, m.ops, m.opDuration, m.unitMessages,
    m.wsConnections, m.wsMessages]
  (all.filter fun f => !f.series.isEmpty).mergeSort fun a b => a.name ≤ b.name

end Metrics

/-- A label value as the text format writes it: backslashes, quotes and line
breaks escaped. -/
def escapeLabel (s : String) : String :=
  s.foldl (fun acc c =>
    if c = '\\' then acc ++ "\\\\"
    else if c = '"' then acc ++ "\\\""
    else if c = '\n' then acc ++ "\\n"
    else acc.push c) ""

/-- A sample line: the name, its labels in braces when there are any, and the value. -/
def sampleLine (name : String) (labels : List (String × String)) (v : Float) : String :=
  let braces := if labels.isEmpty then ""
    else "\x7b" ++ ",".intercalate (labels.map fun (k, x) => k ++ "=\"" ++ escapeLabel x ++ "\"") ++ "\x7d"
  name ++ braces ++ " " ++ Decimal.generalText v

/-- The sample lines of a family in the text format. A histogram series has a
line for each bucket with its cumulative count, one for all observations,
then its sum and its count. -/
def Family.sampleLines (f : Family) : List String :=
  f.ordered.flatMap fun (values, s) =>
    let labels := f.pairs values
    match f.kind with
    | .histogram bounds =>
      ((cumulative bounds s.buckets).map fun (b, n) =>
        sampleLine (f.name ++ "_bucket") (labels ++ [("le", Decimal.generalText b)]) (Float.ofNat n)) ++
      [sampleLine (f.name ++ "_bucket") (labels ++ [("le", "+Inf")]) (Float.ofNat s.count),
       sampleLine (f.name ++ "_sum") labels s.sum,
       sampleLine (f.name ++ "_count") labels (Float.ofNat s.count)]
    | k => [sampleLine f.name labels (s.reading k)]

/-- The kind's name in the text format. -/
def Kind.name : Kind → String
  | .counter => "counter"
  | .gauge => "gauge"
  | .histogram _ => "histogram"

/-- A family in the text format: its help, its type and its sample lines. -/
def Family.exposition (f : Family) : List String :=
  ["# HELP " ++ f.name ++ " " ++ f.help, "# TYPE " ++ f.name ++ " " ++ f.kind.name] ++ f.sampleLines

end Monitor

end Userland
