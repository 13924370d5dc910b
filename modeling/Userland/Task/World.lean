import Userland.Worker.Run

namespace Userland

/-! # Running tasks together

A world is the machine with the tasks that run on it: a main task, whose
result the world is run for, and tasks in the background (the supervisor's
loop, the workers, and whatever tasks start). Tasks take turns one step at a
time, the main task first, the others in the order they were started. A task
whose step cannot happen keeps its place and is tried again on its next turn;
a task that starts another has moved, and the new task joins the end of the
line.

Time stands still while any task can move. When none can, the clock jumps to
the earliest time a waiting task asked to be woken at; when no task waits for
a time either, the world is stuck and stops.

Execution units that the supervisor spawned from a pool get a worker task as
soon as they appear.
-/

/-- How trying one step of a task went. -/
inductive Advance (α : Type) where
  | finished (a : α) (m : Machine)
  | moved (p : Prog α) (m : Machine)
  /-- The task started `child` and goes on with `p`. -/
  | started (child : Prog Unit) (p : Prog α)
  | waiting (wakeAt : Option Nat)

/-- Tries one step of a task. -/
def Prog.advance {α : Type} (m : Machine) : Prog α → Advance α
  | .pure a => .finished a m
  | .step f k =>
    match f m with
    | .done b m' =>
      match k b with
      | .pure a => .finished a m'
      | p => .moved p m'
    | .blocked t => .waiting t
  | .fork child rest => .started child rest

/-- The machine and the tasks running on it. -/
structure World where
  machine : Machine
  /-- Background tasks, in the order they were started. -/
  tasks : List (Prog Unit)
  /-- The task run for each execution unit a pool spawns. -/
  worker : String → Prog Unit

namespace World

/-- Starts a worker for every pool unit that has none yet. -/
def launchWorkers (w : World) : World :=
  let fresh := w.machine.units.toList.filter fun u => !u.scripted && !u.launched
  if fresh.isEmpty then w
  else
    let m := fresh.foldl (fun m u => m.updateUnit u.id fun u => { u with launched := true }) w.machine
    { w with machine := m, tasks := w.tasks ++ fresh.map fun u => w.worker u.id }

/-- Gives every background task one turn; says whether any moved, and the
earliest time a waiting one asked for. -/
def turns (w : World) : World × Bool × Option Nat :=
  let (m, kept, born, moved, wake) := w.tasks.foldl (fun (m, kept, born, moved, wake) p =>
    match p.advance m with
    | .finished () m' => (m', kept, born, true, wake)
    | .moved p' m' => (m', kept ++ [p'], born, true, wake)
    | .started c p' => (m, kept ++ [p'], born ++ [c], true, wake)
    | .waiting t => (m, kept ++ [p], born, moved, Ctx.earlier wake t))
    (w.machine, ([] : List (Prog Unit)), ([] : List (Prog Unit)), false, none)
  (launchWorkers { w with machine := m, tasks := kept ++ born }, moved, wake)

/-- How running a world for its main task ended: with the task's result, or
stuck (or out of turns) with what was left of it. -/
inductive Ending (α : Type) where
  | finished (a : α)
  | stuck (rest : Prog α)

/-- Runs the world until the main task finishes, for at most `fuel` turns. -/
def runMain {α : Type} : Nat → World → Prog α → Ending α × World
  | 0, w, main => (.stuck main, w)
  | fuel + 1, w, main =>
    match main.advance w.machine with
    | .finished a m => (.finished a, launchWorkers { w with machine := m })
    | .moved main' m =>
      let (w, _, _) := turns (launchWorkers { w with machine := m })
      runMain fuel w main'
    | .started child main' =>
      let (w, _, _) := turns { w with tasks := w.tasks ++ [child] }
      runMain fuel w main'
    | .waiting t =>
      let (w, moved, wake) := turns w
      if moved then runMain fuel w main
      else
        match Ctx.earlier t wake with
        | some later =>
          if later ≤ w.machine.clock then (.stuck main, w)
          else runMain fuel { w with machine := { w.machine with clock := later } } main
        | none => (.stuck main, w)

/-- Runs the main task; if it gets stuck, terminates the unit its context
hangs on and runs it on. -/
def runCancelling {α : Type} (fuel : Nat) (w : World) (unit : String) (main : Prog α) :
    Option α × World :=
  match runMain fuel w main with
  | (.finished a, w) => (some a, w)
  | (.stuck rest, w) =>
    match runMain fuel { w with machine := w.machine.terminate unit } rest with
    | (.finished a, w) => (some a, w)
    | (.stuck _, w) => (none, w)

/-- Lets the background tasks run for `d` nanoseconds of the clock. -/
def pause (fuel : Nat) (w : World) (d : Nat) : World :=
  let t := w.machine.clock + d
  (runMain fuel w (Prog.await (fun m => if t ≤ m.clock then some ((), m) else none) (some t))).2

/-- The turns a run may take. -/
def defaultFuel : Nat := 2000000

end World

end Userland
