import Userland.Task.Client
import Userland.Web.Guard
import Userland.Json.Bind
import Userland.Text.Integer

namespace Userland

/-! # The supervisor's HTTP service: what handlers share

The service answers HTTP requests about processes and terminals. Its handlers
run as tasks on the machine, beside the supervisor and the workers, so the
server's shared state (metrics, rate-limit buckets, request log) is kept in
the machine, where every request being served sees it.

A handler works with the host's client for calls to the supervisor, with the
task context of its request (which ends at the request's deadline or when the
client goes away) and with the connection the request came on.

A failed call is answered with a JSON envelope `{"success": false, "error":
…}` that also carries the protocol code, unless the failure came from
elsewhere. The status says what kind of failure it was: 404 for a missing
process, program or terminal, 400 for invalid arguments or a missing
terminal, 409 for a request that conflicts with a process's or terminal's
state, 503 for a full table, 408 when the request gave up waiting, and 500
otherwise.
-/

namespace Service

open Web

/-- The server's shared state lives in the machine. -/
instance : MonadStateOf Shared Prog where
  get := Prog.read (·.web)
  set s := Prog.change fun m => { m with web := s }
  modifyGet f := Prog.atomic fun m => let (a, s) := f m.web; (a, { m with web := s })

/-- What a handler works with besides the request. -/
structure Env where
  /-- The host's client for calls to the supervisor. -/
  client : Client
  /-- The request's task context. -/
  ctx : Ctx
  /-- The connection the request came on, if it can be taken over. -/
  socket : Option Nat

/-- A handler of the service. -/
abbrev Handler := Env → Web.Step Prog

/-- Runs a task inside a handler. -/
def task {α : Type} (p : Prog α) : Serve Prog α := ExceptT.lift p

/-- Why a request to the service failed. -/
inductive ApiError where
  | fault (f : Fault)
  | terminal (e : Terminal.TermError)
  deriving Inhabited

namespace ApiError

/-- Invalid arguments, for a reason. -/
def invalid (msg : String) : ApiError := .fault (.sys (SysError.invalid msg))

/-- The failure's text. -/
def message : ApiError → String
  | .fault f => f.message
  | .terminal e => e.message

/-- The status a failure is answered with. -/
def status : ApiError → Nat
  | .terminal (.notFound _) => 404
  | .terminal .closed => 409
  | .fault f =>
    match f.sysError? with
    | some e =>
      match e.errno with
      | .noSuchProcess | .programNotFound => 404
      | .invalidArguments | .noTerminal => 400
      | .notPipeEligible | .targetAlreadyStarted | .noWorkerRegistered => 409
      | .tableFull => 503
      | _ => 500
    | none => if f.isGiveUp then 408 else 500

/-- The protocol code a failure carries, unless it came from elsewhere. -/
def code? : ApiError → Option Int
  | .terminal _ => none
  | .fault f => if f.code == Errno.external.code then none else some f.code

/-- The envelope a failure is answered with. -/
def body (e : ApiError) : Json :=
  .obj ([("success", .bool false), ("error", .str e.message)] ++
    match e.code? with
    | some c => [("code", .int c)]
    | none => [])

/-- Answers a failure through an abort that writes a status and a JSON body:
its status and its envelope. -/
def failWith {R : Type} (abort : Nat → Json → R) (e : ApiError) : R := abort e.status e.body

end ApiError

end Service

namespace Web

/-- Answers a failure and skips the rest of the chain. -/
def Context.fail (c : Context) (e : Service.ApiError) : Context := e.failWith c.abortWithJson

/-- Answers a failure of a pipe: a closed one is a conflict of its own. -/
def Context.streamFail (c : Context) (f : Fault) : Context :=
  if f.cause == .pipeClosed then
    c.abortWithJson 409 (.obj [("success", .bool false), ("error", .str "stream closed")])
  else c.fail (.fault f)

/-- Answers success with a status and the envelope's other members. -/
def Context.succeed (c : Context) (code : Nat) (fields : List (String × Json)) : Context :=
  c.json code (.obj (("success", .bool true) :: fields))

end Web

namespace Service

open Web

/-- The positive pid a route's parameter names, or the failure answered. -/
def pidOf (c : Context) : Except Context Int :=
  let raw := c.param "pid"
  match Text.parseInt? raw with
  | some n => if n > 0 then .ok n else .error (c.fail (.invalid ("bad pid " ++ Text.quote raw)))
  | none => .error (c.fail (.invalid ("bad pid " ++ Text.quote raw)))

/-- The most a body may bring to a process's input or a terminal at once. -/
def maxChunk : Nat := 65536

end Service

end Userland
