import Userland.Scenario.Fields
import Userland.Process.State
import Userland.Process.Info

namespace Userland

/-! # Protocol scenarios

State names, the moves between them, and the errors of the protocol: how an
error is built from a code, what its text is, and which of the listed errors it
is.
-/

namespace Scenario

/-- A format text given no arguments: `%%` is a percent sign, and every other
directive reports its missing argument. -/
def formatNoArgs (s : String) : String :=
  String.join (go s.toList)
where
  go : List Char → List String
    | '%' :: '%' :: r => "%" :: go r
    | '%' :: c :: r => ("%!" ++ c.toString ++ "(MISSING)") :: go r
    | ['%'] => ["%!(NOVERB)"]
    | c :: r => c.toString :: go r
    | [] => []

/-- The state scenario: the state a name denotes, or the error for an unknown name. -/
def parseState (req : Json) : Decode Json := do
  let s ← req.getStr "s"
  match State.ofName? s with
  | some st => return .obj [("state", .str st.name)]
  | none => return .obj (Fault.sys (SysError.unknownState s)).fields

/-- The move scenario: whether a process may move between two named states. -/
def canTransition (req : Json) : Decode Json := do
  return .obj [("ok", .bool (canMoveNamed (← req.getStr "from") (← req.getStr "to")))]

/-- The fault an error scenario builds, if any. -/
def buildFault (req : Json) : Decode (Option Fault) := do
  let make ← req.getStrOr "make" "code"
  let msg ← req.getStr "msg"
  let base : Option Fault ← match make with
    | "code" => pure ((SysError.ofCode? (← req.getInt "code")).map Fault.sys)
    | "external" => pure (some (.sys (SysError.external msg)))
    | "invalid" => pure (some (.sys (SysError.invalid msg)))
    | "foreign" => pure (some (.other msg))
    | other => throw ("unknown error maker " ++ other)
  let withf ← req.getStr? "withf"
  let forOp ← req.getStr "for_op"
  let forPid ← req.getInt "for_pid"
  let shaped := base.map fun
    | .sys e =>
      let e := match withf with
        | some w => e.withMsg (formatNoArgs w)
        | none => e
      .sys (e.concerning forOp forPid)
    | f => f
  if ← req.getBool "wrap" then return shaped.map (.wrap "wrapped") else return shaped

/-- The error scenario: the text, the code and the listed errors an error is. -/
def error (req : Json) : Decode Json := do
  match ← buildFault req with
  | none => return .obj [("nil", .bool true), ("code_of", .int 0)]
  | some f =>
    return .obj [("message", .str f.message), ("code_of", .int f.code),
      ("is", .strs ((Errno.all.filter f.isErrno).map Errno.name))]

/-- A process list row given in JSON; the time is RFC 3339 text, zero when absent. -/
def infoOf (j : Json) : Decode ProcessInfo := do
  let created ← j.getStr? "created_at"
  let t ← match created with
    | none => pure Instant.zero
    | some s => match Instant.parse? s with
      | some t => pure t
      | none => throw "bad created_at"
  return ⟨← j.getInt "pid", ← j.getStr "path", t, ← j.getInt "age_seconds", ← j.getStr "state"⟩

/-- The list-writing scenario. -/
def encodeList (req : Json) : Decode Json := do
  let rows ← (← req.getList "list").mapM infoOf
  return .obj [("s", .str (ProcessInfo.encodeList rows))]

/-- A row as an answer, its time in UTC. -/
def infoJson (r : ProcessInfo) : Json :=
  .obj [("pid", .int r.pid), ("path", .str r.path), ("state", .str r.state),
    ("age_seconds", .int r.ageSeconds), ("created_at", .str r.createdAt.toUtc.format)]

/-- The list-reading scenario. -/
def decodeList (req : Json) : Decode Json := do
  match ProcessInfo.decodeList (← req.getStr "s") with
  | none => return .obj [("error", .str "DecodeError")]
  | some none => return .obj [("list", .null)]
  | some (some rows) => return .obj [("list", .arr (rows.map infoJson))]

end Scenario

end Userland
