import Userland.Web.Chain

namespace Userland

/-! # The server's links

* Request ids: a request keeps the id it brings in `X-Request-ID` when that
  is at most 64 bytes, and otherwise gets a fresh `req_` id; the id is left
  for later links and sent back in the same header.
* Request log: after the request, one entry with the method, the route's
  pattern, the status, the client and, when present, the request id and the
  handlers' errors; at error level for server errors, else at debug level.
* Recovery: a panic behind it is logged with the path and the panic's value
  and answered with 500 and `internal error`.
* Metrics: every request is counted by method, route and status, with the
  sizes of request and response; a request that matched no route counts as
  `unmatched`.
* Cross-origin requests: a request with an `Origin` that is not the server's
  own is checked against the allowed origins and refused with 403 when not
  allowed. An allowed preflight (`OPTIONS`) is answered at once with 204 and
  the allowed methods, headers and cache time; any other allowed request goes
  on with the origin and the exposed headers set.
* Rate limits: a token bucket per client address, or one for all clients,
  starting full at the burst size; a request that finds it empty is answered
  with 429.
-/

namespace Web

/-- The header that carries request ids. -/
def requestIdHeader : String := "X-Request-ID"

/-- The id given to a request that brings none: `req_` and 26 characters. -/
def freshRequestId : String := "req_" ++ String.ofList (List.replicate 26 '0')

/-- Tags every request with an id. -/
def requestIdLink {m : Type → Type u} [Monad m] : Link m := fun next c =>
  let supplied := c.request.headers.get requestIdHeader
  let id := if supplied.isEmpty || supplied.utf8ByteSize > 64 then freshRequestId else supplied
  next ((c.setKey "request_id" id).header requestIdHeader id)

/-- The request id left for later links, or the empty text. -/
def Context.requestId (c : Context) : String := (c.key? "request_id").getD ""

/-- Logs one entry per request under a logger's name. -/
def requestLogLink {m : Type → Type u} [Monad m] [MonadStateOf Shared m] (name : String) : Link m := fun next c => do
  let c ← next c
  let status := c.response.status
  let fields : List (String × Json) :=
    [("method", .str c.request.method), ("path", .str c.fullPath), ("status", .int status),
     ("client", .str c.clientIp)] ++
    (if c.requestId.isEmpty then [] else [("request_id", .str c.requestId)]) ++
    (if c.errors.isEmpty then [] else [("errors", .str c.errorsText)])
  if status ≥ 500 then logEntry ⟨.error, name, "Request failed", fields⟩
  else logEntry ⟨.debug, name, "Request served", fields⟩
  return c

/-- Turns a panic behind it into a 500 answer, logged under a logger's name. -/
def recoveryLink {m : Type → Type u} [Monad m] [MonadStateOf Shared m] (name : String) : Link m := fun next c =>
  tryCatch (next c) fun p => do
    logEntry ⟨.error, name, "Handler panicked", [("path", .str p.context.request.path), ("panic", .str p.value)]⟩
    return p.context.abortWithJson 500 (.obj [("success", .bool false), ("error", .str "internal error")])

/-- Counts every request in the server's metrics. -/
def metricsLink {m : Type → Type u} [Monad m] [MonadStateOf Shared m] : Link m := fun next c => do
  let reqSize := max 0 c.request.contentLength
  let c ← next c
  let path := if c.fullPath.isEmpty then "unmatched" else c.fullPath
  let respSize := max 0 c.size
  modifyThe Shared fun s =>
    match s.metrics.recordRequest c.request.method path (toString c.response.status) 0 reqSize respSize with
    | .ok mt => { s with metrics := mt }
    | .error mt => { s with metrics := mt }
  return c

/-- How cross-origin requests are allowed. -/
structure CorsConfig where
  origins : List String
  methods : List String
  headers : List String
  expose : List String
  credentials : Bool
  /-- How long a preflight answer may be kept, in seconds. -/
  maxAge : Nat
  deriving Inhabited, Repr

/-- The configuration for some origins: any origin when none is named or one
is `*`, with credentials only when the origins are named. -/
def CorsConfig.forOrigins (origins : List String) : CorsConfig :=
  let wildcard := origins.isEmpty || origins.contains "*"
  { origins := if wildcard then ["*"] else origins,
    methods := ["GET", "POST", "DELETE", "OPTIONS"],
    headers := ["Content-Type", "Content-Length", "Accept", "Origin", "Cache-Control", "X-Requested-With"],
    expose := ["Content-Length"],
    credentials := !wildcard,
    maxAge := 43200 }

/-- Any origin allowed. -/
def CorsConfig.default : CorsConfig := CorsConfig.forOrigins ["*"]

/-- The schemes an allowed origin may start with. -/
def originSchemes : List String := ["http://", "https://", "ws://", "wss://"]

/-- Why a configuration cannot be used: an origin without a wildcard and
without an allowed scheme. -/
def CorsConfig.problem (c : CorsConfig) : Option String :=
  if c.origins.any fun o => !o.toList.contains '*' && !originSchemes.any (fun (s : String) => o.startsWith s) then
    some ("bad origin: origins must contain '*' or include " ++ ",".intercalate originSchemes)
  else none

/-- Trimmed, lowercased and without repeats, first occurrences kept. -/
def normalizeList (xs : List String) : List String :=
  xs.foldl (fun acc x =>
    let v := (String.ofList ((x.toList.dropWhile Char.isWhitespace).reverse.dropWhile Char.isWhitespace).reverse).toLower
    if acc.contains v then acc else acc ++ [v]) []

namespace CorsConfig

/-- Whether every origin is allowed. -/
def allowsAll (c : CorsConfig) : Bool := c.origins.contains "*"

/-- The headers of an allowed request that is not a preflight. -/
def normalHeaders (c : CorsConfig) : Headers :=
  let h : Headers := []
  let h := if c.credentials then h.set "Access-Control-Allow-Credentials" "true" else h
  let h := if c.expose.isEmpty then h
    else h.set "Access-Control-Expose-Headers" (",".intercalate ((normalizeList c.expose).map canonicalKey))
  if c.allowsAll then h.set "Access-Control-Allow-Origin" "*" else h.set "Vary" "Origin"

/-- The headers of an allowed preflight. -/
def preflightHeaders (c : CorsConfig) : Headers :=
  let h : Headers := []
  let h := if c.credentials then h.set "Access-Control-Allow-Credentials" "true" else h
  let h := if c.methods.isEmpty then h
    else h.set "Access-Control-Allow-Methods" (",".intercalate ((normalizeList c.methods).map String.toUpper))
  let h := if c.headers.isEmpty then h
    else h.set "Access-Control-Allow-Headers" (",".intercalate ((normalizeList c.headers).map canonicalKey))
  let h := if c.maxAge > 0 then h.set "Access-Control-Max-Age" (toString c.maxAge) else h
  if c.allowsAll then h.set "Access-Control-Allow-Origin" "*"
  else h.setAll "Vary" ["Origin", "Access-Control-Request-Method", "Access-Control-Request-Headers"]

/-- Whether an origin is allowed. -/
def allows (c : CorsConfig) (origin : String) : Bool :=
  c.allowsAll || (normalizeList c.origins).contains origin

end CorsConfig

/-- Copies headers over a response's, replacing those of the same names. -/
def overlay (base extra : Headers) : Headers :=
  extra.foldl (fun h (k, vs) => h.setAll k vs) base

/-- Checks cross-origin requests. -/
def corsLink {m : Type → Type u} [Monad m] (cfg : CorsConfig) : Link m := fun next c =>
  let origin := c.request.headers.get "Origin"
  let host := c.request.host
  if origin.isEmpty || origin == "http://" ++ host || origin == "https://" ++ host then next c
  else if !cfg.allows origin then pure (c.abortWithStatus 403)
  else
    let own (c : Context) := if cfg.allowsAll then c else c.header "Access-Control-Allow-Origin" origin
    if c.request.method == "OPTIONS" then
      pure ((own (c.withHeaders fun h => overlay h cfg.preflightHeaders)).abortWithStatus 204)
    else next (own (c.withHeaders fun h => overlay h cfg.normalHeaders))

/-- A whole token in billionths. -/
def wholeToken : Nat := 1000000000

/-- A bucket after refilling it at `rps` tokens a second up to `burst` tokens,
at a time on the clock; a bucket with no rate is never refilled. -/
def Bucket.refill (b : Bucket) (rps burst : Int) (now : Nat) : Bucket :=
  if rps ≤ 0 then b
  else { b with fill := min (burst.toNat * wholeToken) (b.fill + (now - b.filledAt) * rps.toNat),
                filledAt := max now b.filledAt }

/-- Takes a token from a client's bucket of a limit, made full at `burst`
tokens when new and refilled at `rps` tokens a second; false when it holds
less than one token. -/
def takeToken (buckets : List Bucket) (limit : Nat) (client : String) (rps burst : Int) (now : Nat) :
    Bool × List Bucket :=
  let mine (b : Bucket) : Bool := b.limit == limit && b.client == client
  let b := match buckets.find? mine with
    | some b => b.refill rps burst now
    | none => ⟨limit, client, burst.toNat * wholeToken, now⟩
  let ok := b.fill ≥ wholeToken
  let b := if ok then { b with fill := b.fill - wholeToken } else b
  let rest := buckets.filter fun x => !mine x
  (ok, if buckets.any mine then buckets.map fun x => if mine x then b else x else rest ++ [b])

/-- The answer to a request over its rate limit. -/
def tooMany (c : Context) : Context :=
  c.abortWithJson 429 (.obj [("success", .bool false), ("error", .str "rate limit exceeded")])

/-- A rate limit, numbered among the server's links, of `rps` requests a
second in bursts of `burst`: per client address, or one for all clients. The
clock gives the time of each request. -/
def rateLimitLink {m : Type → Type u} [Monad m] [MonadStateOf Shared m] (limit : Nat) (rps burst : Int)
    (perClient : Bool) (clock : m Nat) : Link m :=
  fun next c => do
    let client := if perClient then c.clientIp else ""
    let now ← ExceptT.lift clock
    let ok ← modifyGetThe Shared fun s =>
      let (ok, buckets) := takeToken s.buckets limit client rps burst now
      (ok, { s with buckets })
    if ok then next c else return tooMany c

/-- How requests are rate limited. -/
structure RateLimitConfig where
  rps : Int
  burst : Int
  /-- How long an idle client's bucket is kept, in seconds. -/
  idleTtl : Nat
  deriving Inhabited, Repr

/-- One hundred requests a second, bursts of two hundred, idle buckets kept ten minutes. -/
def RateLimitConfig.default : RateLimitConfig := ⟨100, 200, 600⟩

end Web

end Userland
