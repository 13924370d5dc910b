import Userland.Scenario.Fields
import Userland.Pipe.Ring

namespace Userland

/-! # Pipe scenarios

A pipe driven step by step by a caller that never waits, and a stream pushed
through a small pipe in chunks. Each step reports what the call returned, then
the unread length and whether the pipe is closed.
-/

namespace PipeStop

/-- The fault a caller sees when a pipe call stops short. -/
def toFault : PipeStop → Fault
  | .atEnd => .endOfStream
  | .wouldBlock => .cancelled
  | .closed => .pipeClosed

end PipeStop

namespace Scenario

/-- The members reporting a read: the bytes, then the fault if it stopped short. -/
def gotFields (g : Ring.Got) : List (String × Json) :=
  ("hex", hexJson g.data) :: match g.stop with
    | some s => s.toFault.fields
    | none => []

/-- A count that must not be negative: a negative one makes the step fail as a crash. -/
def sizeArg (j : Json) : Decode (Option Nat) := do
  let n ← j.getInt "n"
  return if n < 0 then none else some n.toNat

/-- One step on a pipe: the pipe after it and the members of its answer, or
nothing for a step that crashed. -/
def pipeStep (r : Ring) (step : Json) : Decode (Option (Ring × List (String × Json))) := do
  let op ← step.getStr "do"
  let read (f : Ring → Nat → Ring.Got) : Decode (Option (Ring × List (String × Json))) := do
    match ← sizeArg step with
    | none => return none
    | some n => let g := f r n; return some (g.ring, gotFields g)
  match op with
  | "write" | "pipe_write" =>
    let data ← step.getBytes "data"
    match r.write data with
    | .error s => return some (r, ("n", .int 0) :: s.toFault.fields)
    | .ok (r', n) =>
      return some (r', ("n", .int n) ::
        if n < data.length then PipeStop.wouldBlock.toFault.fields else [])
  | "read" => read Ring.read
  | "read_exact" => read Ring.readExact
  | "read_available" => read Ring.readAvailable
  | "read_all" => let g := r.readAll; return some (g.ring, gotFields g)
  | "read_line" | "pipe_read_line" => let g := r.readLine; return some (g.ring, gotFields g)
  | "close" | "pipe_close" =>
    match r.close with
    | .ok r' => return some (r', [])
    | .error s => return some (r, s.toFault.fields)
  | "cap" => return some (r, [("cap", .int r.capacity)])
  | "len" => return some (r, [])
  | other => throw ("unknown buffer step " ++ other)

/-- The members every pipe step answer ends with. -/
def pipeState (r : Ring) : List (String × Json) :=
  [("len", .int r.len), ("closed", .bool r.closed)]

/-- Runs pipe steps in order, each crash reported in its step. -/
def pipeSteps (r : Ring) : List Json → Decode (List Json)
  | [] => return []
  | s :: rest => do
    match ← pipeStep r s with
    | some (r', fs) => return .obj (fs ++ pipeState r') :: (← pipeSteps r' rest)
    | none => return .obj (("error", .str "panic") :: pipeState r) :: (← pipeSteps r rest)

/-- The pipe scenario: a pipe of the given capacity and its steps. -/
def pipe (req : Json) : Decode Json := do
  let cap ← req.getInt "capacity"
  let r := Ring.new cap.toNat
  let steps ← pipeSteps r (← req.getList "steps")
  return .obj [("cap", .int r.capacity), ("steps", .arr steps)]

/-- Streams `data` through the pipe: each round writes a chunk (all the rest for
a chunk of 0) and then reads up to `readChunk` bytes. Gives the counts written
and the bytes read, in order; the reads are gathered newest first. -/
def streamRounds (writeChunk readChunk : Nat) :
    Nat → List UInt8 → Ring → List Nat → List (List UInt8) → List Nat × List UInt8 × Ring
  | 0, _, r, ws, got => (ws.reverse, got.reverse.flatten, r)
  | _, [], r, ws, got => (ws.reverse, got.reverse.flatten, r)
  | fuel + 1, data, r, ws, got =>
    let chunk := if writeChunk = 0 then data else data.take writeChunk
    let (r1, n) := match r.write chunk with
      | .ok (r', n) => (r', n)
      | .error _ => (r, 0)
    let g := r1.read readChunk
    streamRounds writeChunk readChunk fuel (data.drop n) g.ring (n :: ws) (g.data :: got)

/-- The stream scenario: pushes bytes through a pipe, then closes it and drains it. -/
def transfer (req : Json) : Decode Json := do
  let cap ← req.getInt "capacity"
  let data ← req.getBytes "data"
  let wc ← req.getInt "write_chunk"
  let rc ← req.getInt "read_chunk"
  let r := Ring.new cap.toNat
  let (ws, got, r1) := streamRounds wc.toNat rc.toNat (2 * data.length + 2) data r [] []
  let (closeErr, r2) := match r1.close with
    | .ok r' => (none, r')
    | .error s => (some s.toFault, r1)
  let g := r2.readAll
  let all := got ++ g.data
  return .obj ([("hex", hexJson all), ("writes", .arr (ws.map fun (n : Nat) => Json.int n)),
    ("equal", .bool (all == data)), ("len_after", .int g.ring.len)] ++
    match closeErr with
    | some f => [("close_error", .str f.message)]
    | none => [])

end Scenario

end Userland
