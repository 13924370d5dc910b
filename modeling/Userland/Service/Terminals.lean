import Userland.Service.Basic

namespace Userland

/-! # The terminal routes

Under `/terminals` the service lists the open terminal sessions, opens one
(80 columns by 24 rows unless a body with a length says otherwise), and, for
one session by id, closes it, types the body into it (at most 64 KiB) and
drains what it shows.
-/

namespace Service

open Web

/-- The record a terminal's opening body binds to. -/
def terminalSpec : Json.RecordSpec :=
  { qualified := "http.CreateTerminalRequest", name := "CreateTerminalRequest",
    fields := [⟨"cols", "cols", .integer⟩, ⟨"rows", "rows", .integer⟩] }

/-- A session as it shows itself, with the time it was opened. -/
def sessionJson (i : Terminal.Info) (openedAt : Instant) : Json :=
  .obj [("id", .str i.id), ("cols", .int i.cols), ("rows", .int i.rows),
    ("created_at", .str openedAt.format), ("active", .bool i.active)]

/-- The sessions kept, or null when there are none. -/
def sessionsJson (m : Machine) : Json :=
  match m.sessions.list with
  | [] => .null
  | is => .arr (is.map fun i => sessionJson i (Machine.wallTime 0))

/-- `GET /terminals`: the open sessions. -/
def listTerminals : Handler := fun _ c => do
  let list ← task <| Prog.read sessionsJson
  return c.succeed 200 [("terminals", list)]

/-- `POST /terminals`: opens a session. -/
def createTerminal : Handler := fun _ c => do
  let size : Except Json.BindError (Int × Int) :=
    if c.request.contentLength > 0 then
      (terminalSpec.bind c.request.body c.request.bodyFails).map fun b =>
        ((b.lookup "cols").elim 80 (fun v => match v with | .int n => n | _ => 80),
         (b.lookup "rows").elim 24 (fun v => match v with | .int n => n | _ => 24))
    else .ok (80, 24)
  match size with
  | .error e =>
    return c.json 400 (.obj [("success", .bool false), ("error", .str e.message)])
  | .ok (cols, rows) =>
    let (s, now) ← task <| Prog.atomic fun m =>
      let (s, sessions) := m.sessions.create cols rows
      ((s, m.clock), { m with sessions })
    return c.succeed 201 [("terminal", sessionJson s.info (Machine.wallTime now))]

/-- `DELETE /terminals/:id`: closes a session. -/
def closeTerminal : Handler := fun _ c => do
  let closed ← task <| Prog.atomic fun m => match m.sessions.close (c.param "id") with
    | .ok sessions => (none, { m with sessions })
    | .error e => (some e, m)
  match closed with
  | some e => return c.fail (.terminal e)
  | none => return c.succeed 200 []

/-- `POST /terminals/:id/input`: types the body into a session. -/
def terminalInput : Handler := fun _ c => do
  let id := c.param "id"
  match ← task <| Prog.read fun m => m.sessions.get id with
  | .error e => return c.fail (.terminal e)
  | .ok _ =>
    let data := c.request.body.take maxChunk
    if c.request.bodyFails && c.request.body.length < maxChunk then
      return c.json 400 (.obj [("success", .bool false), ("error", .str "unexpected EOF")])
    let typed ← task <| Prog.atomic fun m => match m.sessions.get id with
      | .error e => (some e, m)
      | .ok s =>
        match s.input data with
        | .error e => (some e, m)
        | .ok s => (none, { m with sessions := m.sessions.update s })
    match typed with
    | some e => return c.fail (.terminal e)
    | none => return c.succeed 200 [("written", .int data.length)]

/-- `GET /terminals/:id/output`: drains what a session shows. -/
def terminalOutput : Handler := fun _ c => do
  let drained : Except Terminal.TermError (List UInt8) ← task <| Prog.atomic fun m =>
    match m.sessions.get (c.param "id") with
    | .error e => (.error e, m)
    | .ok s => let (bs, s) := s.drain; (.ok bs, { m with sessions := m.sessions.update s })
  match drained with
  | .error e => return c.fail (.terminal e)
  | .ok bs => return c.succeed 200 [("data", .str (Utf8.decodeLossy bs))]

end Service

end Userland
