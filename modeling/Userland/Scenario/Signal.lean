import Userland.Scenario.Fields
import Userland.Signal.Basic

namespace Userland

/-! # Signal scenarios

A signal driven by wake, sleep, reply writes and reads, with the number of
queued wake-ups after each step. Replies are written in JSON as their kind byte
and number, or as kind `s` and the text.
-/

namespace Reply

/-- The reply a JSON object describes; the kind defaults to `n`. -/
def ofJson (j : Json) : Decode Reply := do
  let kind ← j.getStrOr "kind" "n"
  let k : UInt8 := (Utf8.encode kind).headD Reply.kindNumber
  let num ← j.getInt "num"
  let str ← j.getStr "str"
  return Reply.ofParts k num (Utf8.encode str)

/-- The text of a kind byte: the character for an ASCII byte, else U+FFFD. -/
def kindLabel (k : UInt8) : String :=
  if k < 128 then (Char.ofNat k.toNat).toString else "\uFFFD"

/-- A reply as a JSON object. -/
def toJson : Reply → Json
  | .text bs => .obj [("kind", .str "s"), ("str", .str (Utf8.decodeLossy bs))]
  | .tagged k n => .obj [("kind", .str (kindLabel k)), ("num", .int n)]

end Reply

namespace Scenario

/-- One step on a signal: the signal after it and the members of its answer. -/
def signalStep (s : Signal) (step : Json) : Decode (Signal × List (String × Json)) := do
  match ← step.getStr "do" with
  | "wake" => return (s.wake, [])
  | "sleep" =>
    match s.sleep? with
    | some s' => return (s', [])
    | none => return (s, Fault.cancelled.fields)
  | "write" =>
    let r ← Reply.ofJson ((step.get? "reply").getD (.obj []))
    match s.write? r with
    | some s' => return (s', [])
    | none => return (s, Fault.replyTooLarge.fields)
  | "read" =>
    let (r, s') := s.read
    return (s', [("reply", (r.map Reply.toJson).getD .null)])
  | "pending" => return (s, [])
  | other => throw ("unknown signal step " ++ other)

/-- Runs signal steps in order; each answer ends with the queued wake-ups. -/
def signalSteps (s : Signal) : List Json → Decode (List Json)
  | [] => return []
  | step :: rest => do
    let (s', fs) ← signalStep s step
    return .obj (fs ++ [("pending", .int s'.wakes)]) :: (← signalSteps s' rest)

/-- The signal scenario. -/
def signal (req : Json) : Decode Json := do
  let size ← req.getInt "reply_size"
  return .obj [("steps", .arr (← signalSteps (Signal.new size) (← req.getList "steps")))]

end Scenario

end Userland
