import Userland.Web.Route
import Userland.Web.Shared

namespace Userland

/-! # Serving a request

A request is served by a chain: the server's links in the order they were
added, then the route's handler. Each link is given the rest of the chain and
decides whether and when to run it, so it can act before and after the links
behind it, or stop the request there. A handler may panic; a panic unwinds
the chain, skipping what the links would have done after it, until a link
that recovers from it.

The context of a request holds the request, the response as recorded so far,
the route's pattern and parameters, values links leave for later links, and
the errors handlers report. Beside it the server keeps state shared by all
requests: its metrics, the token buckets of its rate limits and the log
entries written.

A path that matches no route is first offered a redirect to the path without
its trailing slash, which runs no link. Otherwise the links run with status
404 set; when none of them wrote a response, the answer is the plain text
`404 page not found`.
-/

namespace Web

/-- What a served request carries from link to link. -/
structure Context where
  request : Request
  response : Response
  /-- The pattern of the matched route, empty when none matched. -/
  fullPath : String
  params : List (String × String)
  /-- Values left by links for later links. -/
  keys : List (String × String)
  /-- Errors handlers reported, in order. -/
  errors : List String
  /-- Whether the rest of the chain is skipped. -/
  aborted : Bool
  deriving Inhabited

/-- A panic: the value panicked with and the context as it was then. -/
structure Panic where
  value : String
  context : Context

/-- The effect of serving: panics over the caller's effects, which hold the
shared state, so that it survives panics. -/
abbrev Serve (m : Type → Type u) := ExceptT Panic m

/-- What the rest of a chain does with a context. -/
abbrev Step (m : Type → Type u) := Context → Serve m Context

/-- A link of a chain, given the rest of the chain. -/
abbrev Link (m : Type → Type u) := Step m → Step m

namespace Context

/-- A fresh context for a request. -/
def new (r : Request) : Context := ⟨r, Response.empty, "", [], [], [], false⟩

/-- The value a link left under a name. -/
def key? (c : Context) (k : String) : Option String :=
  (c.keys.find? (·.1 == k)).map (·.2)

/-- Leaves a value under a name. -/
def setKey (c : Context) (k v : String) : Context :=
  { c with keys := (k, v) :: c.keys.filter (·.1 != k) }

/-- A route parameter, empty when absent. -/
def param (c : Context) (name : String) : String :=
  ((c.params.find? (·.1 == name)).map (·.2)).getD ""

/-- Sets a response header; the empty value removes it. Headers set after
the head was written are not recorded. -/
def header (c : Context) (name value : String) : Context :=
  if c.response.written then c
  else if value.isEmpty then { c with response := { c.response with headers := c.response.headers.remove name } }
  else { c with response := { c.response with headers := c.response.headers.set name value } }

/-- Changes the response's headers with a function, before the head is written. -/
def withHeaders (c : Context) (f : Headers → Headers) : Context :=
  if c.response.written then c else { c with response := { c.response with headers := f c.response.headers } }

/-- Sets the status, unless the head was written. -/
def status (c : Context) (code : Nat) : Context :=
  if c.response.written then c else { c with response := { c.response with status := code } }

/-- Writes the head, if not yet written. -/
def writeHead (c : Context) : Context :=
  { c with response := { c.response with written := true } }

/-- Writes bytes to the body, writing the head first. -/
def write (c : Context) (bs : List UInt8) : Context :=
  let c := c.writeHead
  { c with response := { c.response with body := c.response.body ++ bs } }

/-- The number of body bytes written, or -1 before the head. -/
def size (c : Context) : Int :=
  if c.response.written then c.response.body.length else -1

/-- Sets the content type unless one is set. -/
def defaultType (c : Context) (t : String) : Context :=
  c.withHeaders fun h => if (h.values "Content-Type").isEmpty then h.set "Content-Type" t else h

/-- Answers with a status and a JSON body; statuses that allow no body get
only the content type. -/
def json (c : Context) (code : Nat) (j : Json) : Context :=
  let c := (c.status code).defaultType "application/json; charset=utf-8"
  if bodyAllowed code then c.write (Utf8.encode j.render) else c.writeHead

/-- Answers with a status and a plain text body. -/
def text (c : Context) (code : Nat) (s : String) : Context :=
  let c := (c.status code).defaultType "text/plain; charset=utf-8"
  if bodyAllowed code then c.write (Utf8.encode s) else c.writeHead

/-- Skips the rest of the chain. -/
def abort (c : Context) : Context := { c with aborted := true }

/-- Answers with a status and no body, skipping the rest of the chain. -/
def abortWithStatus (c : Context) (code : Nat) : Context :=
  ((c.status code).writeHead).abort

/-- Answers with a status and a JSON body, skipping the rest of the chain. -/
def abortWithJson (c : Context) (code : Nat) (j : Json) : Context :=
  c.abort.json code j

/-- Records a handler error. -/
def error (c : Context) (msg : String) : Context :=
  { c with errors := c.errors ++ [msg] }

/-- The errors as one text: `Error #01: msg` lines. -/
def errorsText (c : Context) : String :=
  String.join ((c.errors.zipIdx 1).map fun (e, i) =>
    "Error #" ++ (if i < 10 then "0" else "") ++ toString i ++ ": " ++ e ++ "\n")

/-- The client's address: the first address of a forwarding header whose
addresses all read, else the peer's address; empty when the peer's address
does not read. -/
def clientIp (c : Context) : String :=
  match splitHostPort? (String.ofList ((c.request.remote.toList.dropWhile Char.isWhitespace).reverse.dropWhile
      Char.isWhitespace).reverse) with
  | none => ""
  | some (host, _) =>
    match Ip.parse? host with
    | none => ""
    | some ip =>
      let forwarded := ["X-Forwarded-For", "X-Real-IP"].findSome? fun h =>
        forwardedClient? (",".intercalate (c.request.headers.values h))
      forwarded.getD ip.toText

end Context

/-- Logs an entry. -/
def logEntry {m : Type → Type u} [Monad m] [MonadStateOf Shared m] (e : LogEntry) : Serve m Unit :=
  modifyThe Shared fun s => { s with logs := s.logs.push e }

/-- Panics with a value. -/
def panicWith {m : Type → Type u} [Monad m] {α : Type} (c : Context) (value : String) : Serve m α :=
  throw ⟨value, c⟩

/-- Runs links in order, then a handler. -/
def chain {m : Type → Type u} (links : List (Link m)) (handler : Step m) : Step m :=
  links.foldr (fun l rest => l rest) handler

/-- A server: its links and routes. -/
structure Server (m : Type → Type u) where
  links : List (Link m)
  routes : List (Route (Step m))

/-- The HTML body of a redirect. -/
def redirectBody (url : String) (code : Nat) : String :=
  let esc := String.join (url.toList.map fun c =>
    if c = '<' then "&lt;" else if c = '>' then "&gt;" else if c = '&' then "&amp;"
    else if c = Char.ofNat 39 then "&#39;" else if c = '"' then "&#34;" else c.toString)
  "<a href=\"" ++ esc ++ "\">" ++ statusText code ++ "</a>.\n\n"

/-- Redirects to a path, keeping the query: permanently for GET, else
temporarily; GET and HEAD get an HTML content type and GET a short body. -/
def redirect (c : Context) (path : String) : Context :=
  let q := c.request.rawQuery
  let url := if q.isEmpty then path else path ++ "?" ++ q
  let code := if c.request.method == "GET" then 301 else 307
  let getLike := c.request.method == "GET" || c.request.method == "HEAD"
  let c := c.withHeaders fun h =>
    let h := h.set "Location" url
    if getLike then h.set "Content-Type" "text/html; charset=utf-8" else h
  let c := (c.status code).writeHead
  if c.request.method == "GET" then c.write (Utf8.encode (redirectBody url code)) else c

/-- Serves one request: the context it ends with, or the panic that escaped. -/
def Server.serve {m : Type → Type u} [Monad m] [MonadStateOf Shared m] (srv : Server m) (r : Request) : Serve m Context := do
  let c := Context.new r
  let path := r.path
  match lookup srv.routes r.method path with
  | some found =>
    let c := { c with fullPath := found.route.pattern, params := found.params }
    let c ← chain srv.links found.route.handler c
    return c.writeHead
  | none =>
    match trailingSlashTarget? srv.routes r.method path with
    | some target => return redirect c target
    | none =>
      let c := { c with response := { c.response with status := 404 } }
      let c ← chain srv.links pure c
      if c.response.written then return c
      else if c.response.status == 404 then
        let c := c.withHeaders fun h => h.set "Content-Type" "text/plain"
        return c.write (Utf8.encode "404 page not found")
      else return c.writeHead

end Web

end Userland
