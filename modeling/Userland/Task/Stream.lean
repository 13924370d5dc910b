import Userland.Task.Prog

namespace Userland

/-! # Waiting on pipes and signals

The calls a task makes on pipes and signals when it is willing to wait. A read
waits until at least one byte is there or the pipe is at its end; a write waits
for room, chunk by chunk, until all its bytes are in. Only a pipe that is
closed when the write begins refuses it. Either gives up when the task's
context ends, keeping what was done; a read at the end of a pipe reports the
end of the stream.

Loops here take at least one byte per round, so they are bounded by the bytes
they move; `streamFuel` caps the rounds of a loop that reads a pipe to its
end, however long its writers keep writing.
-/

/-- The most rounds a reading loop makes. -/
def streamFuel : Nat := 1000000000

namespace Ctx

/-- Takes up to `max` bytes from a pipe, stopping after `delim`, waiting for data. -/
def take (c : Ctx) (id : Nat) (max : Nat) (delim : Option UInt8) : Prog (Except Fault (List UInt8)) := do
  let r ← c.block (fun m => match (m.pipe id).take max delim with
    | .ok (bs, r) => some (.ok bs, m.setPipe id r)
    | .error .atEnd => some (.error Fault.endOfStream, m)
    | .error _ => none) none
  return match r with
    | .ok inner => inner
    | .error e => .error e

/-- Reads up to `n` bytes once some are there; asking for none reads nothing. -/
def readPipe (c : Ctx) (id : Nat) (n : Nat) : Prog (List UInt8 × Option Fault) := do
  if n = 0 then return ([], none)
  match ← c.take id n none with
  | .ok bs => return (bs, none)
  | .error e => return ([], some e)

/-- Reads until `n` bytes are in, or what came before the pipe ended or the wait gave up. -/
def readExactPipe (c : Ctx) (id : Nat) (n : Nat) : Prog (List UInt8 × Option Fault) :=
  go streamFuel []
where
  go : Nat → List UInt8 → Prog (List UInt8 × Option Fault)
    | 0, acc => pure (acc, none)
    | fuel + 1, acc =>
      if acc.length ≥ n then pure (acc, none)
      else do
        match ← c.take id (n - acc.length) none with
        | .ok bs => go fuel (acc ++ bs)
        | .error e => pure (acc, some e)

/-- Reads to the end of the pipe; reaching the end is success. -/
def readAllPipe (c : Ctx) (id : Nat) : Prog (List UInt8 × Option Fault) :=
  go streamFuel []
where
  go : Nat → List UInt8 → Prog (List UInt8 × Option Fault)
    | 0, acc => pure (acc, none)
    | fuel + 1, acc => do
      match ← c.take id 512 none with
      | .ok bs => go fuel (acc ++ bs)
      | .error .endOfStream => pure (acc, none)
      | .error e => pure (acc, some e)

/-- Reads through the next newline, or what came before the pipe ended or the wait gave up. -/
def readLinePipe (c : Ctx) (id : Nat) : Prog (List UInt8 × Option Fault) :=
  go streamFuel []
where
  go : Nat → List UInt8 → Prog (List UInt8 × Option Fault)
    | 0, acc => pure (acc, none)
    | fuel + 1, acc => do
      match ← c.take id 256 (some 10) with
      | .ok bs =>
        if bs.getLast? = some 10 then pure (acc ++ bs, none) else go fuel (acc ++ bs)
      | .error e => pure (acc, some e)

/-- Writes all of `p` to a pipe, waiting for room; gives the count written and
why it stopped short. -/
def writePipe (c : Ctx) (id : Nat) (p : List UInt8) : Prog (Nat × Option Fault) := do
  if (← Prog.read fun m => (m.pipe id).closed) then return (0, some .pipeClosed)
  go (p.length + 1) p 0
where
  go : Nat → List UInt8 → Nat → Prog (Nat × Option Fault)
    | 0, _, n => pure (n, none)
    | _, [], n => pure (n, none)
    | fuel + 1, rest, n => do
      let r ← c.block (fun m =>
        let ring := m.pipe id
        if ring.free = 0 then none
        else let (ring', k) := ring.append rest; some (k, m.setPipe id ring')) none
      match r with
      | .ok k => go fuel (rest.drop k) (n + k)
      | .error e => pure (n, some e)

/-- Waits for a wake-up on a signal and consumes it. -/
def sleepOn (c : Ctx) (sig : Nat) : Prog (Except Fault Unit) :=
  c.block (fun m => (m.signal sig).sleep?.map fun s => ((), m.setSignal sig s)) none

end Ctx

end Userland
