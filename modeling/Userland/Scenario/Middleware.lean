import Userland.Scenario.Exchange

namespace Userland

/-! # Middleware scenarios

A small server with three routes, behind the links a scenario names in order:
`GET /test` answers 200 with a message and whether the request has an id,
`GET /boom` panics with `boom`, and `GET /fail` reports the error
`handler failed` and answers 500. The requests are served one after another
and the answer lists the responses and every log entry written, with the
default rate limits and the cross-origin configuration for a list of origins.

A log entry is shown with its level, its message and its fields as text; a
request id only by whether it was made up here.
-/

namespace Scenario

open Web

/-- The routes of the small server. -/
def sampleRoutes : List (Route (Step (StateM Shared))) :=
  [⟨"GET", "/test", fun c =>
      pure (c.json 200 (.obj [("message", .str "success"), ("request_id", .bool !c.requestId.isEmpty)]))⟩,
   ⟨"GET", "/boom", fun c => panicWith c "boom"⟩,
   ⟨"GET", "/fail", fun c => pure ((c.error "handler failed").json 500 (.obj [("success", .bool false)]))⟩]

/-- The link a scenario names, numbered among the links for its rate limit;
an error when building it panics. -/
def linkOf (index : Nat) (j : Json) : Decode (Except String (Option (Link (StateM Shared)))) := do
  match ← j.getStr "name" with
  | "request_id" => return .ok (some requestIdLink)
  | "logger" => return .ok (some (requestLogLink ""))
  | "recovery" => return .ok (some (recoveryLink ""))
  | "cors" =>
    let origins ← j.getStrs "origins"
    let cfg := if ← j.getBool "default" then CorsConfig.default else CorsConfig.forOrigins origins
    match cfg.problem with
    | some msg => return .error msg
    | none => return .ok (some (corsLink cfg))
  | "rate_limit" => return .ok (some (rateLimitLink index (← j.getInt "rps") (← j.getInt "burst") true (pure 0)))
  | "global_rate_limit" => return .ok (some (rateLimitLink index (← j.getInt "rps") (← j.getInt "burst") false (pure 0)))
  | _ => return .ok none

/-- A field's value as text, as a log entry shows it. -/
def fieldText : Json → String
  | .str s => s
  | .int n => toString n
  | .bool b => toString b
  | j => j.render

/-- A log entry as an answer. -/
def requestLogJson (e : LogEntry) : Json :=
  .obj ([("level", .str e.level.name), ("msg", .str e.msg)] ++
    e.fields.map fun (k, v) =>
      if k == "request_id" then (k, Json.bool ((fieldText v).startsWith "req_")) else (k, Json.str (fieldText v)))

/-- A cross-origin configuration as an answer. -/
def corsJson (c : CorsConfig) : Json :=
  .obj [("origins", Json.strs c.origins), ("credentials", .bool c.credentials), ("methods", Json.strs c.methods),
    ("headers", Json.strs c.headers), ("expose", Json.strs c.expose), ("max_age_s", .int c.maxAge)]

/-- Serves requests in order: the responses, or none when a panic escaped. -/
def serveAll (srv : Server (StateM Shared)) : List Request → Shared → Option (List Json) × Shared
  | [], s => (some [], s)
  | r :: rest, s =>
    match (srv.serve r).run.run s with
    | (.ok c, s) =>
      let (more, s) := serveAll srv rest s
      (more.map (responseJson r c.response :: ·), s)
    | (.error _, s) => (none, s)

/-- The middleware scenario. -/
def middleware (req : Json) : Decode Json := do
  let named ← req.getList "use"
  let built ← named.zipIdx.mapM fun (j, i) => linkOf i j
  let requests ← (← req.getList "requests").mapM decodeRequest
  match built.mapM id with
  | .error _ => return .obj [("error", .str "panic")]
  | .ok links =>
  let srv : Server (StateM Shared) := ⟨links.filterMap id, sampleRoutes⟩
  let d := RateLimitConfig.default
  match serveAll srv requests Shared.empty with
  | (none, _) => return .obj [("error", .str "panic")]
  | (some responses, s) =>
    return .obj [("responses", .arr responses), ("logs", .arr (s.logs.toList.map requestLogJson)),
      ("defaults", .obj [("rps", .int d.rps), ("burst", .int d.burst), ("idle_ttl_s", .int d.idleTtl)]),
      ("cors_for", corsJson (CorsConfig.forOrigins (← req.getStrs "cors_for")))]

end Scenario

end Userland
