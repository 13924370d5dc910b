import Userland.Daemon.Run

/-! # The daemon's command

Runs the daemon with the command line's arguments and the settings found in
the environment, from the top of a fresh host tree. The daemon is told to
stop 50 ms after it reports that it serves; its lines go to standard output,
its messages to standard error, and its exit code is the command's.
-/

/-- The settings the environment holds, by variable. -/
def environmentSettings : IO (List (String × String)) :=
  Userland.Daemon.environmentKeys.filterMapM fun k => do
    return (← IO.getEnv k).map fun v => (k, v)

/-- Runs the daemon's command. -/
def main (args : List String) : IO UInt32 := do
  let env ← environmentSettings
  let rule : Userland.Daemon.StopRule := ⟨"Starting HTTP server", 50000000, 3000000000⟩
  let out := Userland.Daemon.session "procd" args env default "/" rule
  for line in out.lines do
    IO.println line
  IO.eprint out.stderr
  (← IO.getStdout).flush
  return out.code.toNat.toUInt32
