import Userland.Json.Parse
import Userland.Json.Print
import Userland.Scenario.Pipe
import Userland.Scenario.Signal
import Userland.Scenario.Protocol
import Userland.Scenario.Files
import Userland.Scenario.Table
import Userland.Scenario.Supervisor
import Userland.Scenario.Run
import Userland.Scenario.Client
import Userland.Scenario.System
import Userland.Scenario.Config
import Userland.Scenario.Logging
import Userland.Scenario.Metrics
import Userland.Scenario.Middleware
import Userland.Scenario.Terminal
import Userland.Scenario.Dir
import Userland.Scenario.Http
import Userland.Scenario.Serve
import Userland.Scenario.Procd

namespace Userland

/-! # Answering scenarios

One scenario per line of JSON text, one answer per scenario. A line that is not
JSON, names no known operation, or has a field of the wrong type is answered
with a `BadInput` error.
-/

namespace Scenario

/-- The answer for an ill-formed scenario. -/
def badInput (msg : String) : Json := .obj [("error", .str "BadInput"), ("message", .str msg)]

/-- The operation a scenario names. -/
def operation (name : String) : Option (Json → Decode Json) :=
  match name with
  | "buffer" => some pipe
  | "transfer" => some transfer
  | "signal" => some signal
  | "parse_state" => some parseState
  | "can_transition" => some canTransition
  | "error" => some error
  | "encode_list" => some encodeList
  | "decode_list" => some decodeList
  | "resolve" => some resolve
  | "fs" => some memoryFs
  | "mux" => some routes
  | "table" => some table
  | "manager" => some supervisor
  | "run" => some run
  | "client" => some client
  | "spawn" => some spawn
  | "system" => some system
  | "manifest" => some manifest
  | "manifest_load" => some manifestLoad
  | "launch" => some launch
  | "config" => some config
  | "logging" => some logging
  | "metrics" => some metrics
  | "middleware" => some middleware
  | "terminal" => some terminal
  | "dir" => some hostDir
  | "http" => some http
  | "serve" => some serve
  | "procd" => some procd
  | _ => none

/-- The answer to a scenario given as JSON. -/
def answer (req : Json) : Json :=
  match req.getStr "op" with
  | .error e => badInput e
  | .ok name =>
    match operation name with
    | none => badInput ("unknown op " ++ Text.quote name)
    | some f =>
      match f req with
      | .ok j => j
      | .error e => badInput e

/-- The answer line to a scenario line. -/
def respond (line : String) : String :=
  match Json.parse line with
  | .error _ => (badInput "malformed JSON").render
  | .ok req => (answer req).render

end Scenario

end Userland
