import Userland.Service.Processes

namespace Userland

/-! # Attaching to a process over a message connection

`GET /ws/processes/:pid` takes the request's connection over and attaches it
to a live process. Before that it refuses a pid that is not a positive
integer (400) or not in the table (404), and queues a wait for the process's
exit, so that an exit after this point cannot be missed. A request that is
not a connection opening is refused as a bad request.

Once attached, the server sends `attached` with the pid. Beside each other
then run:

* two pumps, one per output stream, that send what the process writes as
  `output` frames of at most 4096 bytes, and `eof` once the stream ends;
* a watcher that waits for the exit code: it gives the pumps 250 ms to reach
  the end of their streams (a killed process may never close them), sends
  what is left in the streams, then `exit` with the code, and closes the
  connection; if waiting fails while the connection is still attached, it
  sends the failure as an `error` instead;
* the reader, which takes the client's messages in order: `stdin` writes its
  data to the process's input, `eof` closes that input, `kill` kills the
  process, `ping` is answered with `pong`; a message that is not a frame is
  answered with the error `malformed frame`, and an unknown type with
  `unknown message type`. A failed write, close or kill is sent as an error.

When the client goes away the reader stops; the attachment then ends its
context, which stops the pumps and the watcher, and waits for them.
-/

namespace Service

open Web

/-- The record a client's frame binds to. -/
def frameSpec : Json.RecordSpec :=
  { qualified := "ws.Frame", name := "Frame",
    fields := [⟨"type", "type", .text⟩, ⟨"pid", "pid", .integer⟩, ⟨"stream", "stream", .text⟩,
      ⟨"data", "data", .text⟩, ⟨"code", "code", .integer⟩, ⟨"message", "message", .text⟩] }

/-- A client's message as a frame: its type and data, or none when it is not one. -/
def frameOf (text : String) : Option (String × String) :=
  match Json.parse text with
  | .ok .null => some ("", "")
  | .ok (.obj members) =>
    match frameSpec.bindMembers members with
    | .ok b => some (boundText b "type", boundText b "data")
    | .error _ => none
  | _ => none

/-- The most an `output` frame carries. -/
def chunkSize : Nat := 4096

/-- How long the watcher gives the pumps to reach the end of their streams. -/
def drainWait : Nat := 250000000

/-- Sends a frame on a connection, counting it; false when the connection
cannot take it. -/
def sendFrame (s : Nat) (f : Frame) : Prog Bool :=
  Prog.atomic fun m =>
    if (m.socket s).writable then
      (true, { (m.updateSocket s fun k => { k with toClient := k.toClient ++ [f] }) with
        web := { m.web with metrics := m.web.metrics.recordWsMessage "out" f.type } })
    else (false, m)

/-- Sends an `error` frame. -/
def sendError (s : Nat) (msg : String) : Prog Unit := do
  let _ ← sendFrame s { Frame.bare "error" with message := msg }

/-- Sends the closing frame. -/
def closeSocket (s : Nat) : Prog Unit :=
  Prog.change fun m => m.updateSocket s fun k => if k.writable then { k with serverClosed := true } else k

/-- Forwards one output stream until it ends, a send fails or the context
ends; then counts the pumps' counter down. -/
def pump (ctx : Ctx) (s : Nat) (stream : String) (pipe : Nat) (done : Nat) : Prog Unit := do
  go streamFuel
  Prog.change (·.countDown done)
where
  go : Nat → Prog Unit
    | 0 => pure ()
    | fuel + 1 => do
      let (bs, err) ← ctx.readPipe pipe chunkSize
      let sent ← if bs.isEmpty then pure true
        else sendFrame s { Frame.bare "output" with stream, data := bs }
      if sent then
        match err with
        | some .endOfStream => let _ ← sendFrame s { Frame.bare "eof" with stream }
        | some _ => pure ()
        | none => go fuel

/-- Sends what a stream holds without waiting. -/
def flush (s : Nat) (stream : String) (pipe : Nat) : Prog Unit :=
  go streamFuel
where
  go : Nat → Prog Unit
    | 0 => pure ()
    | fuel + 1 => do
      let bs ← Prog.atomic fun m =>
        let g := (m.pipe pipe).readAvailable chunkSize
        (g.data, m.setPipe pipe g.ring)
      if !bs.isEmpty then
        if ← sendFrame s { Frame.bare "output" with stream, data := bs } then go fuel

/-- Writes to a process's input and closes it when asked; the failure, if any. -/
def feedStdin (ctx : Ctx) (pid : Int) (data : List UInt8) (close : Bool) : Prog (Option Fault) := do
  match ← Prog.read fun m => (m.table.get? pid).map (·.stdin) with
  | none => return some Table.noSuch
  | some stdin =>
    let err ← if data.isEmpty then pure none else do
      let (_, err) ← ctx.writePipe stdin data
      pure err
    match err with
    | some e => return some e
    | none =>
      if close then Prog.change (·.closePipe stdin)
      return none

/-- What the watcher and the pumps of an attachment share. -/
structure Attachment where
  socket : Nat
  pid : Int
  stdout : Nat
  stderr : Nat
  /-- The counter of running pumps. -/
  pumps : Nat
  /-- The handle that stops the pumps. -/
  stopPumps : Nat
  /-- The counter the watcher counts down when it is done. -/
  watching : Nat

/-- Waits for the exit code and reports it, then counts its counter down. -/
def watch (env : Env) (ctx : Ctx) (a : Attachment) (sig : Nat) : Prog Unit := do
  let answer ← env.client.awaitWatch ctx sig
  match answer.error with
  | some e =>
    if (← Prog.read ctx.err?).isNone then sendError a.socket e.message
  | none =>
    let t := (← Prog.now) + drainWait
    let drained ← Prog.await (fun m =>
      if m.counter a.pumps == 0 then some (true, m)
      else if t ≤ m.clock then some (false, m) else none) (some t)
    if !drained then
      Prog.change (·.cancel a.stopPumps)
      Prog.await (fun m => if m.counter a.pumps == 0 then some ((), m) else none) none
    flush a.socket "stdout" a.stdout
    flush a.socket "stderr" a.stderr
    let _ ← sendFrame a.socket { Frame.bare "exit" with pid := a.pid, code := some answer.num }
    closeSocket a.socket
  Prog.change (·.countDown a.watching)

/-- Handles one message of the client. -/
def receive (env : Env) (ctx : Ctx) (s : Nat) (pid : Int) (text : String) : Prog Unit := do
  match frameOf text with
  | none => sendError s "malformed frame"
  | some (type, data) =>
    Prog.change fun m => { m with web := { m.web with metrics := m.web.metrics.recordWsMessage "in" type } }
    if type == "stdin" then
      if let some e ← feedStdin ctx pid (Utf8.encode data) false then sendError s e.message
    else if type == "eof" then
      if let some e ← feedStdin ctx pid [] true then sendError s e.message
    else if type == "kill" then
      if let some e := (← env.client.kill ctx pid).error then sendError s e.message
    else if type == "ping" then
      let _ ← sendFrame s (Frame.bare "pong")
    else sendError s "unknown message type"

/-- Reads the client's messages until it goes away. -/
def readLoop (env : Env) (ctx : Ctx) (s : Nat) (pid : Int) : Nat → Prog Unit
  | 0 => pure ()
  | fuel + 1 => do
    let next ← Prog.await (fun m =>
      let k := m.socket s
      match k.toServer with
      | x :: rest => some (some x, m.updateSocket s fun k => { k with toServer := rest })
      | [] => if k.clientClosed then some (none, m) else none) none
    match next with
    | none => pure ()
    | some text =>
      receive env ctx s pid text
      readLoop env ctx s pid fuel

/-- The most messages an attachment reads. -/
def messageFuel : Nat := 1000000000

/-- Runs an attachment on an accepted connection until the client goes away. -/
def attachSession (env : Env) (s : Nat) (pid : Int) (stdout stderr sig : Nat) : Prog Unit := do
  let (ctx, ending) ← env.ctx.withCancel
  let _ ← sendFrame s { Frame.bare "attached" with pid }
  let (pumpCtx, stopPumps) ← ctx.withCancel
  let pumps ← Prog.atomic (·.newCounter 2)
  let watching ← Prog.atomic (·.newCounter 1)
  let a : Attachment := ⟨s, pid, stdout, stderr, pumps, stopPumps, watching⟩
  Prog.spawn (pump pumpCtx s "stdout" stdout pumps)
  Prog.spawn (pump pumpCtx s "stderr" stderr pumps)
  Prog.spawn (watch env ctx a sig)
  readLoop env ctx s pid messageFuel
  Prog.change (·.cancel ending)
  Prog.await (fun m => if m.counter watching == 0 then some ((), m) else none) none
  Prog.await (fun m => if m.counter pumps == 0 then some ((), m) else none) none

/-- Whether a header lists a token, ignoring case. -/
def listsToken (h : Headers) (name token : String) : Bool :=
  (h.values name).any fun v => (v.splitOn ",").any fun t => Json.lowerAscii t.trimAscii.toString == token

/-- Why a request cannot open a connection: the status and text it is refused with. -/
def openingProblem (r : Request) (s : Option Nat) : Option (Nat × String) :=
  if !listsToken r.headers "Connection" "upgrade" || !listsToken r.headers "Upgrade" "websocket" then
    some (400, "Bad Request")
  else if !listsToken r.headers "Sec-Websocket-Version" "13" || (r.headers.get "Sec-Websocket-Key").isEmpty then
    some (400, "Bad Request")
  else if s.isNone then some (500, "Internal Server Error")
  else none

/-- `GET /ws/processes/:pid`: attaches the connection to a process. -/
def attachProcess : Handler := fun env c => do
  let raw := c.param "pid"
  match (Text.parseInt? raw).filter (· > 0) with
  | none => return c.json 400 (.obj [("success", .bool false), ("error", .str "bad pid")])
  | some pid =>
    match ← task <| Prog.read fun m => (m.table.get? pid).map fun r => (r.stdout, r.stderr) with
    | none => return c.json 404 (.obj [("success", .bool false), ("error", .str Table.noSuch.message)])
    | some (stdout, stderr) =>
      match ← env.client.watch pid with
      | .error e => return c.json 500 (.obj [("success", .bool false), ("error", .str e.message)])
      | .ok sig =>
        match openingProblem c.request env.socket, env.socket with
        | some (code, text), _ =>
          logEntry ⟨.warn, "ws", "WebSocket upgrade failed", [("pid", .int pid), ("error", .str text)]⟩
          let c := c.withHeaders fun h => (h.set "Sec-Websocket-Version" "13").set "X-Content-Type-Options" "nosniff"
          return c.text code (text ++ "\n")
        | none, none => return c
        | none, some s =>
          task <| Prog.change fun m => { (m.updateSocket s fun k => { k with opening := .accepted }) with
            web := { m.web with metrics := m.web.metrics.incWsConnections } }
          logEntry ⟨.debug, "ws", "WebSocket attached", [("pid", .int pid)]⟩
          task <| attachSession env s pid stdout stderr sig
          task <| Prog.change fun m => { m with web := { m.web with metrics := m.web.metrics.decWsConnections } }
          logEntry ⟨.debug, "ws", "WebSocket detached", [("pid", .int pid)]⟩
          return c

end Service

end Userland
