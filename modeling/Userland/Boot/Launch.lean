import Userland.Boot.Manifest
import Userland.Process.Message
import Userland.Fault

namespace Userland

/-! # Launching a manifest

A launch runs in two passes. First every entry is created, in order, and
joined to the entry its `stdin_from` names, so that no producer can finish
before its consumer is attached: an entry reads a pipe when it asks to or has
a `stdin_from`, and writes one when it asks to or a later entry reads from
it. Then the entries to start or wait for are started in order; for an entry
to wait for, a watch is set before it starts and its exit code is awaited
before the next one starts.

The launch stops at its first failure, with what it launched so far and the
failure's text naming the call and the entry.
-/

namespace Boot

/-- What happened to one entry of a manifest. -/
structure Launched where
  name : String
  path : String
  pid : Int
  started : Bool
  exited : Bool
  code : Int
  deriving Inhabited, Repr

/-- The calls a launch makes, in a monad: creating, piping and starting
processes, watching one for its exit code, given later by `await`, and
reporting an entry once it has started and again once it has exited. -/
structure Syscalls (m : Type → Type u) where
  create : CreateRequest → m (Except Fault Int)
  pipe : Int → Int → m (Except Fault Unit)
  start : Int → m (Except Fault Unit)
  watch : Int → m (Except Fault Nat)
  await : Nat → m (Except Fault Int)
  report : Launched → m Unit

/-- The creation request of an entry, given the names that later entries read from. -/
def Program.request (p : Program) (producers : List String) : CreateRequest :=
  { path := p.path, args := p.args, cwd := p.cwd, pipeStdin := p.pipeStdin || p.stdinFrom ≠ "",
    pipeStdout := p.pipeStdout || (p.name ≠ "" && producers.contains p.name), start := false,
    redirectStdin := "", redirectStdout := "", terminal := none }

variable {m : Type → Type u} [Monad m]

/-- The first pass: creates the entries in order and joins each to its
producer, with the pids by name so far. -/
def createAll (sys : Syscalls m) (producers : List String) :
    List Program → List (String × Int) → List Launched → m (List Launched × Option String)
  | [], _, out => pure (out, none)
  | p :: rest, pids, out => do
    match ← sys.create (p.request producers) with
    | .error e => pure (out, some ("create " ++ p.path ++ ": " ++ e.message))
    | .ok pid =>
      let pids := if p.name ≠ "" then (p.name, pid) :: pids else pids
      let out := out ++ [⟨p.name, p.path, pid, false, false, 0⟩]
      if p.stdinFrom ≠ "" then
        match ← sys.pipe ((pids.lookup p.stdinFrom).getD 0) pid with
        | .error e => pure (out, some ("pipe " ++ p.stdinFrom ++ " into " ++ p.path ++ ": " ++ e.message))
        | .ok () => createAll sys producers rest pids out
      else createAll sys producers rest pids out

/-- Changes the record of entry `i`. -/
def updateAt (out : List Launched) (i : Nat) (f : Launched → Launched) : List Launched :=
  out.set i (f (out.getD i default))

/-- The second pass: starts the entries that ask for it, in order, waiting
where asked; `i` is the index of the first of the entries given. -/
def startAll (sys : Syscalls m) : List Program → Nat → List Launched → m (List Launched × Option String)
  | [], _, out => pure (out, none)
  | p :: rest, i, out => do
    if !p.start && !p.wait then startAll sys rest (i + 1) out
    else
      let pid := (out.getD i default).pid
      let watched : Except String (Option Nat) ← if p.wait then do
          match ← sys.watch pid with
          | .error e => pure (.error ("wait " ++ p.path ++ ": " ++ e.message))
          | .ok h => pure (.ok (some h))
        else pure (.ok none)
      match watched with
      | .error msg => pure (out, some msg)
      | .ok handle =>
        match ← sys.start pid with
        | .error e => pure (out, some ("start " ++ p.path ++ ": " ++ e.message))
        | .ok () =>
          let out := updateAt out i fun l => { l with started := true }
          sys.report (out.getD i default)
          match handle with
          | none => startAll sys rest (i + 1) out
          | some h =>
            match ← sys.await h with
            | .error e => pure (out, some ("wait " ++ p.path ++ ": " ++ e.message))
            | .ok code =>
              let out := updateAt out i fun l => { l with exited := true, code := code }
              sys.report (out.getD i default)
              startAll sys rest (i + 1) out

/-- Launches a manifest: what was launched, and the failure that stopped it, if any. -/
def launch (sys : Syscalls m) (man : Manifest) : m (List Launched × Option String) := do
  let producers := man.programs.filterMap fun p => if p.stdinFrom ≠ "" then some p.stdinFrom else none
  match ← createAll sys producers man.programs [] [] with
  | (out, some err) => pure (out, some err)
  | (out, none) => startAll sys man.programs 0 out

end Boot

end Userland
