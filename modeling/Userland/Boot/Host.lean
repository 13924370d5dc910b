import Userland.Boot.Launch
import Userland.Task.Client

namespace Userland

/-! # Launching through a client

A manifest is launched on the machine through a client of the supervisor:
each call of the launch is the client's call under one context, and a watch
is awaited under it too.
-/

namespace Client

/-- The calls a launch makes through a client, under a context; it reports nothing. -/
def syscalls (c : Client) (ctx : Ctx) : Boot.Syscalls Prog :=
  let result {α : Type} (a : Answer) (v : α) : Except Fault α :=
    match a.error with
    | some e => .error e
    | none => .ok v
  { create := fun req => do
      let a ← c.create ctx req
      return result a a.num
    pipe := fun o i => do return result (← c.pipe ctx o i) ()
    start := fun pid => do return result (← c.start ctx pid) ()
    watch := fun pid => c.watch pid
    await := fun sig => do
      let a ← c.awaitWatch ctx sig
      return result a a.num
    report := fun _ => pure () }

end Client

end Userland
