import Userland.Task.Stream

namespace Userland

/-! # Calling the supervisor

A client makes requests on behalf of one caller: a process, which receives its
replies on its own signal, or the host, which takes a new signal for every
call. A call posts the request and sleeps on the signal until it is woken, then
reads the reply; an error reply becomes the protocol error of its code. A
process's client reports itself sleeping before the call and running after it,
except around its own exit.

Messages go out through a poster: the handler of the caller's execution unit,
the supervisor's inbox, or a script that refuses some operations.
-/

/-- Where a client's messages go. -/
inductive Poster where
  /-- Through the handler of an execution unit. -/
  | unit (id : String)
  /-- Straight into the supervisor's inbox. -/
  | host
  /-- To a scripted supervisor that records everything and refuses the listed operations. -/
  | script (refuse : List String)
  deriving Inhabited

/-- A caller's client. -/
structure Client where
  pid : Int
  /-- The caller's own signal; a host client has none. -/
  signal : Option Nat
  replySize : Nat
  /-- Whether calls report the caller sleeping and running. -/
  trackState : Bool
  poster : Poster
  deriving Inhabited

/-- What a call returned: the reply, if one was read, and the error, if it failed. -/
structure Answer where
  reply : Option Reply
  error : Option Fault
  deriving Inhabited

namespace Answer

/-- The reply's number; 0 when there is no reply. -/
def num (a : Answer) : Int := (a.reply.map Reply.num).getD 0

/-- The protocol code of the call's error, 0 for success. -/
def code (a : Answer) : Int := (a.error.map Fault.code).getD 0

/-- A failed call with no reply. -/
def failed (f : Fault) : Answer := ⟨none, some f⟩

end Answer

namespace Client

/-- A process's client, replying on its own signal. -/
def ofProcess (pid : Int) (sig : Nat) (poster : Poster) : Client := ⟨pid, some sig, 0, true, poster⟩

/-- The host's client. -/
def ofHost (poster : Poster) (replySize : Nat) : Client := ⟨0, none, replySize, false, poster⟩

/-- Delivers a message without waiting for an answer. -/
def post (c : Client) (msg : Message) : Prog (Except Fault Unit) :=
  match c.poster with
  | .unit id => Prog.act (Act.post id msg)
  | .host => Prog.atomic fun m => match m.submit (.request msg) with
    | .ok m' => (.ok (), m')
    | .error e => (.error e, m)
  | .script refuse =>
    if refuse.contains msg.op.name then
      Prog.atomic fun m => (.error (.other "post refused"),
        { m with script := { m.script with posted := m.script.posted.push msg } })
    else Prog.act (Act.scripted none msg)

/-- Reports a state change; nothing waits for an answer. -/
def changeState (c : Client) (s : State) : Prog (Except Fault Unit) :=
  c.post { Message.of .changeState with pid := c.pid, state := s.name }

/-- Reads the reply a call was woken for. -/
def receive (c : Client) (op : Op) (sig : Nat) : Prog Answer := do
  let r ← Prog.atomic fun m => let (r, s) := (m.signal sig).read; (r, m.setSignal sig s)
  match r with
  | none => return .failed (.sys (((SysError.of .unknown).withMsg "woken without a reply").concerning
      op.name c.pid))
  | some r =>
    if r.isErr then return ⟨some r, (SysError.ofCode? r.num).map .sys⟩
    else return ⟨some r, none⟩

/-- Posts a request and waits for its reply. -/
def call (c : Client) (ctx : Ctx) (msg : Message) : Prog Answer := do
  let sig ← match c.signal with
    | some s => pure s
    | none => Prog.atomic (·.newSignal c.replySize)
  let msg := { msg with pid := c.pid, signal := some sig }
  let sleeping := c.trackState && msg.op != .exit
  if sleeping then
    let _ ← c.changeState .sleeping
  match ← c.post msg with
  | .error e => return .failed (.sys ((SysError.external e.message).concerning msg.op.name c.pid))
  | .ok () =>
    match ← ctx.sleepOn sig with
    | .error e => return .failed e
    | .ok () =>
      if sleeping then
        let _ ← c.changeState .running
      c.receive msg.op sig

/-- Waits for a process to end; the answer's number is its exit code. -/
def wait (c : Client) (ctx : Ctx) (pid : Int) : Prog Answer :=
  c.call ctx { Message.of .waitOnPid with target := pid }

/-- Queues a wait on a process and gives the signal its exit code will come on.
Only the host can watch. -/
def watch (c : Client) (pid : Int) : Prog (Except Fault Nat) := do
  if c.signal.isSome then
    return .error (.sys ((SysError.invalid "only host clients can watch").concerning Op.waitOnPid.name c.pid))
  let sig ← Prog.atomic (·.newSignal c.replySize)
  match ← c.post { Message.of .waitOnPid with pid := c.pid, target := pid, signal := some sig } with
  | .error e => return .error (.sys ((SysError.external e.message).concerning Op.waitOnPid.name c.pid))
  | .ok () => return .ok sig

/-- Waits for the exit code a watch queued. -/
def awaitWatch (c : Client) (ctx : Ctx) (sig : Nat) : Prog Answer := do
  match ← ctx.sleepOn sig with
  | .error e => return .failed e
  | .ok () => c.receive .waitOnPid sig

/-- Asks for a new process; the answer's number is its pid. -/
def create (c : Client) (ctx : Ctx) (req : CreateRequest) : Prog Answer :=
  c.call ctx { Message.of .create with create := some req }

/-- Kills a process. -/
def kill (c : Client) (ctx : Ctx) (pid : Int) : Prog Answer :=
  c.call ctx { Message.of .kill with target := pid }

/-- Connects one process's output to another's input. -/
def pipe (c : Client) (ctx : Ctx) (outPid inPid : Int) : Prog Answer :=
  c.call ctx { Message.of .pipe with outPid := outPid, inPid := inPid }

/-- Starts a process created without starting. -/
def start (c : Client) (ctx : Ctx) (pid : Int) : Prog Answer :=
  c.call ctx { Message.of .start with target := pid }

/-- Ends the calling process with a code. -/
def exit (c : Client) (ctx : Ctx) (code : Int) : Prog Answer :=
  c.call ctx { Message.of .exit with code := code }

/-- Posts a message outside the core operations. -/
def forward (c : Client) (op : Op) (payload : Json) : Prog (Except Fault Unit) :=
  c.post { Message.of op with pid := c.pid, payload := payload }

/-- The process list's text; an error when the call fails. -/
def listText (c : Client) (ctx : Ctx) : Prog (Except Fault String) := do
  let a ← c.call ctx (Message.of .list)
  match a.error with
  | some e => return .error e
  | none =>
    match a.reply with
    | some (.text bs) => return .ok (Utf8.decodeLossy bs)
    | _ => return .ok ""

end Client

end Userland
