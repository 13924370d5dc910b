import Userland.Task.World

namespace Userland

/-! # A running system

A whole system is the supervisor's loop and a pool of workers on one machine.
The loop takes the items of the supervisor's inbox one at a time as they come,
each served in one atomic step; every unit the pool spawns gets a worker that
announces itself to the supervisor and runs what it is started with.
-/

namespace World

/-- The items the supervisor's loop serves at most. -/
def serveFuel : Nat := 1000000

/-- The supervisor's loop: waits for an item in the inbox and serves it, at
most `fuel` items. -/
def supervisorLoop : Nat → Prog Unit
  | 0 => pure ()
  | fuel + 1 => do
    let _ ← Prog.await (fun m => if m.supervisor.inbox.isEmpty then none else some (Act.serveOne.run m)) none
    supervisorLoop fuel

/-- A world running the supervisor's loop, whose pool's workers run programs
with `runner` (with a file system when `hasFs`). -/
def system (m : Machine) (runner : Runner) (hasFs : Bool) : World :=
  ⟨m, [supervisorLoop serveFuel], fun id => Worker.run runner (fun u => Prog.act (Act.announce u)) hasFs id⟩

end World

end Userland
