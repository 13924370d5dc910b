import Userland.Service.Attach
import Userland.Service.Terminals
import Userland.Daemon.Config
import Userland.Decimal.Shortest

namespace Userland

/-! # The service's server

The server answers every request through the same links, in this order: the
request id, the request log and the panic recovery (both under the logger
`http`), the metrics, the cross-origin rules for the configured origins and,
when enabled, a rate limit per client address with the configured burst.

Besides the process and terminal routes it answers:

* `GET /` with the service's name;
* `GET /health` with the number of live processes, the table's capacity, the
  number of open terminals and the seconds since the start;
* `GET /metrics/json` with the metrics' totals and the seconds since the start;
* `GET /programs` with the program paths that match the query's `pattern`
  (`**` by default), or the pattern's error;
* `GET /metrics` with the metrics in the text exposition format.
-/

namespace Service

open Web

/-- `GET /`: names the service. -/
def root : Handler := fun _ c =>
  return c.json 200 (.obj [("status", .str "online"), ("service", .str "procman")])

/-- Whole seconds in a number of nanoseconds. -/
def wholeSeconds (ns : Nat) : Nat := ns / 1000000000

/-- `GET /health`: the table's and the terminals' counts. -/
def health : Handler := fun _ c => do
  let (live, cap, terms, now) ← task <| Prog.read fun m =>
    (m.table.live, m.table.cap, m.sessions.list.length, m.clock)
  return c.json 200 (.obj [("status", .str "healthy"), ("processes", .int live),
    ("capacity", .int cap), ("terminals", .int terms), ("uptime_seconds", .int (wholeSeconds now))])

/-- The metrics' totals with the seconds since the start. -/
def snapshotJson (s : Monitor.Snapshot) (uptime : Float) : Json :=
  .obj [("total_requests", .int s.totalRequests), ("total_errors", .int s.totalErrors),
    ("live_processes", .int s.liveProcesses), ("total_processes", .int s.totalProcesses),
    ("active_connections", .int s.activeConnections),
    ("uptime_seconds", .num (Decimal.generalText uptime))]

/-- `GET /metrics/json`: the metrics' totals. -/
def metricsSnapshot : Handler := fun _ c => do
  let (s, now) ← task <| Prog.read fun m => (m.web.metrics.snapshot, m.clock)
  return c.json 200 (snapshotJson s (Monitor.Metrics.seconds now))

/-- `GET /programs`: the program paths matching a pattern. -/
def listPrograms : Handler := fun _ c => do
  let pattern := (c.request.queryValue? "pattern").getD "**"
  match ← task <| Prog.read fun m => m.files.glob pattern with
  | none => return c.succeed 200 [("programs", .arr [])]
  | some (.error e) => return c.json 400 (.obj [("success", .bool false), ("error", .str e.message)])
  | some (.ok paths) => return c.succeed 200 [("programs", Json.strs paths)]

/-- The family reporting the seconds since the start. -/
def uptimeFamily (seconds : Float) : Monitor.Family :=
  (Monitor.Family.new "procman_uptime_seconds" "Supervisor uptime in seconds" .gauge []).set [] seconds

/-- The content type of the text exposition format. -/
def expositionType : String := "text/plain; version=0.0.4; charset=utf-8; escaping=values"

/-- `GET /metrics`: every family in the text exposition format, by name. -/
def exposition : Handler := fun _ c => do
  let (mt, now) ← task <| Prog.read fun m => (m.web.metrics, m.clock)
  let families := (uptimeFamily (Monitor.Metrics.seconds now) :: mt.gather).mergeSort
    fun a b => a.name ≤ b.name
  let text := String.join ((families.flatMap Monitor.Family.exposition).map (· ++ "\n"))
  let c := c.withHeaders fun h => h.set "Content-Type" expositionType
  return (c.status 200).write (Utf8.encode text)

/-- The routes of the service, for one request's environment. -/
def routes (env : Env) : List (Route (Web.Step Prog)) :=
  let r (method pattern : String) (h : Handler) : Route (Web.Step Prog) := ⟨method, pattern, h env⟩
  [r "GET" "/" root, r "GET" "/health" health, r "GET" "/metrics/json" metricsSnapshot,
   r "GET" "/programs" listPrograms,
   r "GET" "/processes" listProcesses, r "POST" "/processes" createProcess,
   r "POST" "/processes/pipe" pipeProcesses, r "GET" "/processes/:pid" getProcess,
   r "DELETE" "/processes/:pid" killProcess, r "POST" "/processes/:pid/start" startProcess,
   r "GET" "/processes/:pid/wait" waitProcess, r "POST" "/processes/:pid/stdin" writeStdin,
   r "GET" "/processes/:pid/stdout" readStdout,
   r "GET" "/terminals" listTerminals, r "POST" "/terminals" createTerminal,
   r "DELETE" "/terminals/:id" closeTerminal, r "POST" "/terminals/:id/input" terminalInput,
   r "GET" "/terminals/:id/output" terminalOutput,
   r "GET" "/ws/processes/:pid" attachProcess, r "GET" "/metrics" exposition]

/-- The links every request passes, in order. -/
def links (cfg : Daemon.Config) : List (Link Prog) :=
  [requestIdLink, requestLogLink "http", recoveryLink "http", metricsLink,
   corsLink (CorsConfig.forOrigins cfg.corsOrigins)] ++
  (if cfg.rateLimitEnabled then [rateLimitLink 0 cfg.rateLimitRps cfg.rateLimitBurst true Prog.now] else [])

/-- The server for a configuration and one request's environment. -/
def server (cfg : Daemon.Config) (env : Env) : Server Prog := ⟨links cfg, routes env⟩

/-- Serves one request: the response it ends with. A panic that passes every
link leaves the response as it was when the panic happened. -/
def respond (cfg : Daemon.Config) (env : Env) (r : Request) : Prog Response := do
  match ← ((server cfg env).serve r).run with
  | .ok c => return c.response
  | .error p => return p.context.response

end Service

end Userland
