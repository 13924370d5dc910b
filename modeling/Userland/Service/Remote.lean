import Userland.Service.Basic
import Userland.Web.Socket

namespace Userland

/-! # A remote client of the service

The remote client calls the service over HTTP at a base address (with any
trailing slashes dropped), and opens message connections to attach to
processes.

A call is tried once and, while the transport fails, again up to a number of
retries, pausing between tries (the first pause, doubled each time, at most
ten times the first). A call whose context has ended fails at once with the
context's reason; so does one that is waiting for its answer when the context
ends, and the server's side of it then ends too. A call that still has no
answer when it gives up fails with a text that names the method, the address
and the number of tries, wrapped the way a transport reports a failed URL.

An answer with a status of 400 or more is a failure of the service: its JSON
body gives the message and the protocol code, and one with no message is
known by its status alone. Other answers are successes, whose JSON body is
the call's result.

Opening a connection fails with the context's reason or the refused dial,
and a server that answers the opening with an ordinary response refuses the
attachment with that response's status.
-/

namespace Service

open Web

/-- How the server takes one request: under a context, on a connection that
it may take over, to a response. -/
abbrev Exchange := Ctx → Option Nat → Request → Prog Response

/-- Why a call failed. -/
inductive CallError where
  /-- The service answered with an error status, its error body's message and code. -/
  | api (status : Nat) (message : String) (code : Int)
  /-- The call got no answer. -/
  | transport (message : String)
  deriving Inhabited, Repr, DecidableEq

namespace CallError

/-- The failure's text. -/
def message : CallError → String
  | .api status msg _ => if msg.isEmpty then "procd: HTTP " ++ toString status else "procd: " ++ msg
  | .transport msg => msg

/-- The protocol error a failure of the service stands for: the error of its
code when the code is negative, and none otherwise. -/
def unwrap : CallError → Option SysError
  | .api _ _ code => if code < 0 then SysError.ofCode? code else none
  | .transport _ => none

/-- Whether the failure stands for the protocol error `e`. -/
def isErrno (err : CallError) (e : Errno) : Bool :=
  match err.unwrap with
  | some s => s.errno == e
  | none => false

end CallError

/-- A remote client's settings. -/
structure Remote where
  /-- The base address, without trailing slashes. -/
  base : String
  /-- Whether a server listens at the base address. -/
  reachable : Bool
  /-- How many times a call is tried again after its transport fails. -/
  retries : Nat
  /-- The first pause before trying again, in nanoseconds. -/
  retryWait : Nat
  deriving Inhabited, Repr

namespace Remote

/-- A client for a base address; trailing slashes are dropped. -/
def new (base : String) (reachable : Bool) (retries retryWait : Nat) : Remote :=
  ⟨String.ofList (base.toList.reverse.dropWhile (· == '/')).reverse, reachable, retries, retryWait⟩

/-- The part of an address after its scheme. -/
def afterScheme (url : String) : String :=
  match url.splitOn "://" with
  | [_, rest] => rest
  | _ => url

/-- The host and port of the base address. -/
def address (r : Remote) : String := ((afterScheme r.base).splitOn "/").headD ""

/-- The path prefix of the base address. -/
def prefixPath (r : Remote) : String :=
  match (afterScheme r.base).splitOn "/" with
  | [] | [_] => ""
  | _ :: rest => "/" ++ "/".intercalate rest

/-- A method as a failed URL names its operation: capitalized. -/
def operation (method : String) : String :=
  match method.toList with
  | [] => ""
  | c :: cs => String.ofList (c :: cs.map Char.toLower)

/-- A failure as a transport reports it for a URL. -/
def urlFailure (method url cause : String) : String :=
  operation method ++ " \"" ++ url ++ "\": " ++ cause

/-- The refused dial of an address. -/
def refusedDial (address : String) : String :=
  "dial tcp " ++ address ++ ": connect: connection refused"

/-- The pause before the try after try `i` (from zero). -/
def backoff (r : Remote) (i : Nat) : Nat := min (r.retryWait * Nat.pow 2 i) (10 * r.retryWait)

/-- Takes a request over a fresh connection to the server, which handles it
as a task of its own: the connection and the handle that ends the server's
side of it. -/
def dispatch (serve : Exchange) (req : Request) : Prog (Nat × Nat) := do
  let s ← Prog.atomic (·.newSocket)
  let conn ← Prog.atomic (·.newCancel)
  Prog.spawn do
    let resp ← serve ⟨none, none, false, [conn]⟩ (some s) req
    Prog.change fun m => m.updateSocket s fun k => match k.opening with
      | .pending => { k with opening := .answered resp }
      | _ => k
  return (s, conn)

/-- Waits for how a connection's request was answered, or for the context to end. -/
def opening (ctx : Ctx) (s : Nat) : Prog (Except Fault Opening) :=
  ctx.block (fun m => match (m.socket s).opening with
    | .pending => none
    | o => some (o, m)) none

/-- One try of a request: the response, or the transport's failure and
whether the context ended. -/
def attempt (r : Remote) (serve : Exchange) (ctx : Ctx) (req : Request) (url : String) :
    Prog (Except String Response) := do
  if let some e ← Prog.read ctx.err? then return .error (urlFailure req.method url e.message)
  if !r.reachable then return .error (urlFailure req.method url (refusedDial r.address))
  let (s, conn) ← dispatch serve req
  match ← opening ctx s with
  | .ok (.answered resp) => return .ok resp
  | .ok _ => return .error (urlFailure req.method url "unexpected opening")
  | .error e =>
    Prog.change (·.cancel conn)
    return .error (urlFailure req.method url e.message)

/-- The tries of a request from try `i` on, at most `fuel` more. -/
def tries (r : Remote) (serve : Exchange) (ctx : Ctx) (req : Request) (url : String) :
    Nat → Nat → Prog (Except String Response)
  | _, 0 => return .error (urlFailure req.method url "no tries left")
  | i, fuel + 1 => do
    let got ← r.attempt serve ctx req url
    let giveUp (cause : String) : String :=
      urlFailure req.method url (req.method ++ " " ++ url ++ " giving up after " ++ toString (i + 1) ++
        " attempt(s): " ++ cause)
    if let some e ← Prog.read ctx.err? then return .error (giveUp e.message)
    match got with
    | .ok resp => return .ok resp
    | .error cause =>
      if r.retries ≤ i then return .error (giveUp cause)
      match ← ctx.sleep (r.backoff i) with
      | .error e => return .error (urlFailure req.method url e.message)
      | .ok () => tries r serve ctx req url (i + 1) fuel

/-- Whether a content type is JSON's. -/
def isJsonType (t : String) : Bool :=
  let t := Json.lowerAscii t
  (t.startsWith "application/" || t.startsWith "text/") && (t.splitOn "json").length > 1

/-- The failure an answer of status 400 or more stands for: the message and
code its JSON body holds, or an empty message and code 0. -/
def failureOf (status : Nat) (json : Json) : CallError :=
  let msg := match json.get? "error" with
    | some (.str s) => s
    | _ => ""
  let code := match json.get? "code" with
    | some (.int n) => n
    | _ => 0
  .api status msg code

/-- What a call makes of the service's answer: the JSON body of a success
(null when it has none or is not JSON), or, for a status of 400 or more, the
failure its body's message and code describe. -/
def answerOf (resp : Response) : Except CallError Json :=
  let json := if isJsonType (resp.headers.get "Content-Type") then
      (Json.parse (Utf8.decodeLossy resp.body)).toOption.getD .null
    else .null
  if resp.status ≥ 400 then .error (failureOf resp.status json)
  else if 200 ≤ resp.status && resp.status < 300 then .ok json
  else .ok .null

/-- A call: the JSON body of a successful answer (null when it has none), or why it failed. -/
def call (r : Remote) (serve : Exchange) (ctx : Ctx) (method path : String) (body : Option String) :
    Prog (Except CallError Json) := do
  let url := r.base ++ path
  let headers : Headers := [("User-Agent", ["procctl/1.0"])] ++
    (if body.isSome then [("Content-Type", ["application/json"])] else [])
  let bytes := Utf8.encode (body.getD "")
  let req : Request :=
    { method, target := r.prefixPath ++ path, headers, remote := "pipe", host := r.address,
      body := bytes, contentLength := bytes.length, bodyFails := false }
  match ← r.tries serve ctx req url 0 (r.retries + 1) with
  | .error msg => return .error (.transport (method ++ " " ++ path ++ ": " ++ msg))
  | .ok resp => return answerOf resp

/-- The headers that ask for a message connection. -/
def openingHeaders : Headers :=
  [("Connection", ["Upgrade"]), ("Upgrade", ["websocket"]), ("Sec-Websocket-Version", ["13"]),
   ("Sec-Websocket-Key", ["dGhlIHNhbXBsZSBub25jZQ=="])]

/-- Why opening a message connection failed. -/
inductive DialError where
  /-- The server answered the opening with an ordinary response of this status. -/
  | refused (status : Nat)
  /-- The connection could not be made. -/
  | failed (message : String)
  deriving Inhabited, Repr, DecidableEq

/-- Opens a message connection at a path of the server: the connection, once accepted. -/
def dial (serve : Exchange) (ctx : Ctx) (reachable : Bool) (address target : String) :
    Prog (Except DialError Nat) := do
  if let some e ← Prog.read ctx.err? then return .error (.failed e.message)
  if !reachable then return .error (.failed (refusedDial address))
  let req : Request :=
    { method := "GET", target, headers := openingHeaders, remote := "pipe", host := address,
      body := [], contentLength := 0, bodyFails := false }
  let (s, conn) ← dispatch serve req
  match ← opening ctx s with
  | .ok (.answered resp) => return .error (.refused resp.status)
  | .ok _ => return .ok s
  | .error e =>
    Prog.change (·.cancel conn)
    return .error (.failed e.message)

/-- The next frame the server sent on a connection, none once it has closed
and every frame is read, or the context's reason when it ends first. -/
def nextFrame (ctx : Ctx) (s : Nat) : Prog (Except Fault (Option Frame)) :=
  ctx.block (fun m =>
    let k := m.socket s
    match k.toClient with
    | f :: rest => some (some f, m.updateSocket s fun k => { k with toClient := rest })
    | [] => if k.serverClosed then some (none, m) else none) none

/-- Sends a text message on a connection. -/
def sendText (s : Nat) (text : String) : Prog Unit :=
  Prog.change fun m => m.updateSocket s fun k =>
    if k.clientClosed then k else { k with toServer := k.toServer ++ [text] }

/-- Goes away from a connection. -/
def hangUp (s : Nat) : Prog Unit :=
  Prog.change fun m => m.updateSocket s fun k => { k with clientClosed := true }

end Remote

end Service

end Userland
