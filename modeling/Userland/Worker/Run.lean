import Userland.Worker.Context

namespace Userland

/-! # Workers

A worker is the task behind an execution unit. It announces itself to the
supervisor, then takes messages from its mailbox until a start payload comes
(ignoring everything else); a mailbox that closes first, or a unit terminated
first, ends it. It builds the process's context from the payload, reports the
process running, and runs its program.

How the process ends depends on how the program did:
* if the unit was terminated meanwhile, the outputs are released and nothing
  more is said;
* if the program exited by itself, that already ended it;
* otherwise a failure is logged (and a code of 0 becomes 1), and the process
  exits with the code.

A context that cannot be built (a stdin redirect that cannot be read) is
logged, and the process exits with 1.
-/

/-- A program: runs in a process and gives its exit code and the fault it
failed with, if it failed. -/
abbrev Runner := ProcessContext → Proc (Int × Option Fault)

namespace Worker

/-- Takes the next message from a unit's mailbox, waiting for one. -/
def take (id : String) : Prog (Except Fault Message) :=
  (Ctx.ofUnit id).block (fun m => match m.unit? id with
    | none => some (.error .mailboxClosed, m)
    | some u => match u.mailbox with
      | msg :: rest => some (.ok msg, m.updateUnit id fun u => { u with mailbox := rest })
      | [] => if u.mailboxClosed then some (.error .mailboxClosed, m) else none) none
  |> fun p => do
    match ← p with
    | .ok r => pure r
    | .error e => pure (.error e)

/-- Waits for the start payload, ignoring other messages, at most `fuel` of them. -/
def awaitStart (id : String) : Nat → Prog (Except Fault StartPayload)
  | 0 => pure (.error .mailboxClosed)
  | fuel + 1 => do
    match ← take id with
    | .error e => return .error e
    | .ok msg =>
      match msg.op, msg.start with
      | .init, some p => return .ok p
      | op, _ =>
        Prog.change (·.log .debug id "Ignoring message before start" [("op", .str op.name)])
        awaitStart id fuel

/-- The error pipe of a process: the payload's, or a new one. -/
def errorPipe (p : StartPayload) : Prog Nat :=
  match p.stderr with
  | some e => pure e
  | none => Prog.atomic (·.newPipe 1)

/-- Where a process reads, with what it holds of a redirect file: the redirect
file read in whole, else the stdin pipe when it was created to read one, the
terminal, or the stdin pipe. -/
def openInput (hasFs : Bool) (p : StartPayload) : Prog (Except Fault (Input × List UInt8)) :=
  if p.redirectStdin ≠ "" then
    if !hasFs then
      pure (.error (.other ("redirect stdin from " ++ p.redirectStdin ++ ": no filesystem")))
    else
      Prog.atomic fun m => match m.readFile? (Path.resolve p.cwd p.redirectStdin) with
        | some (.ok data, m') => (.ok (.held, data), m')
        | some (.error e, m') => (.error (.wrap "redirect stdin" e), m')
        | none => (.error (.other ("redirect stdin from " ++ p.redirectStdin ++ ": no filesystem")), m)
  else if p.pipeStdin then pure (.ok (.pipe p.stdin, []))
  else match p.terminal with
    | some t => pure (.ok (.terminal t, []))
    | none => pure (.ok (.pipe p.stdin, []))

/-- Builds a process's context from its start payload. -/
def setup (id : String) (hasFs : Bool) (p : StartPayload) :
    Prog (Except Fault (ProcessContext × ProcState)) := do
  let stderr ← errorPipe p
  let base : ProcessContext :=
    { pid := p.pid, path := p.path, args := p.args, cwd := p.cwd, source := p.source,
      stdin := p.stdin, stdout := p.stdout, stderr, terminal := p.terminal,
      pipeStdin := p.pipeStdin, pipeStdout := p.pipeStdout, redirectStdin := p.redirectStdin,
      redirectStdout := p.redirectStdout, unit := id, client := Client.ofProcess p.pid p.signal (.unit id),
      hasFs, input := .pipe p.stdin, output := .pipe p.stdout, errOutput := .pipe stderr }
  let state : ProcState := ⟨[], [], #[], false, false⟩
  match ← openInput hasFs p with
  | .error e => return .error e
  | .ok (input, held) =>
    let output : Output :=
      if p.redirectStdout ≠ "" then .captured
      else if p.pipeStdout then .pipe p.stdout
      else match p.terminal with
        | some t => .terminal t
        | none => .pipe p.stdout
    let errOutput : Output := match p.terminal with
      | some t => if p.pipeStdout then .pipe stderr else .terminal t
      | none => .pipe stderr
    return .ok ({ base with input, output, errOutput }, { state with held })

/-- Whether a unit was terminated. -/
def terminated (id : String) : Prog Bool :=
  Prog.read fun m => ((m.unit? id).map (·.cancelled)).getD false

/-- Reports a process running and logs its start. -/
def begin (client : Client) (pc : ProcessContext) : Proc Unit := do
  let _ ← Proc.lift (client.changeState .running)
  Proc.log pc .debug "Process started" []

/-- The code a process exits with after its program returned `code` and
`err`: a failure is logged, and a code of 0 then becomes 1. -/
def exitCode (pc : ProcessContext) (code : Int) (err : Option Fault) : Proc Int := do
  match err with
  | some e =>
    Proc.log pc .warn "Process failed" [("error", .str e.message)]
    return if code = 0 then 1 else code
  | none => return code

/-- Ends a process whose program returned `code` and `err`, by whether the
worker found its unit terminated after the program returned. -/
def conclude (pc : ProcessContext) (cancelled : Bool) (code : Int) (err : Option Fault) (st : ProcState) :
    Prog Unit := do
  if cancelled then
    let ((), st) ← (Proc.log pc .debug "Process terminated" []).run st
    let _ ← (Proc.release pc).run st
  else if st.exited || err.any (·.cause matches .exited) then
    pure ()
  else
    let (code, st) ← (exitCode pc code err).run st
    let (f, st) ← (Proc.exit pc code).run st
    if !(f.cause matches .exited) then
      let _ ← (Proc.log pc .debug "Exit not acknowledged" [("error", .str f.message)]).run st

/-- A process's life on a worker, from the start payload it was sent. -/
def live (runner : Runner) (hasFs : Bool) (id : String) (p : StartPayload) : Prog Unit := do
  let client := Client.ofProcess p.pid p.signal (.unit id)
  let ctx := Ctx.ofUnit id
  match ← setup id hasFs p with
  | .error e =>
    Prog.change (·.log .warn id "Process setup failed"
      [("pid", .int p.pid), ("path", .str p.path), ("error", .str e.message)])
    if let some f := (← client.exit ctx 1).error then
      Prog.change (·.log .debug id "Exit after failed setup"
        [("pid", .int p.pid), ("path", .str p.path), ("error", .str f.message)])
  | .ok (pc, st) =>
    let ((), st) ← (begin client pc).run st
    let ((code, err), st) ← (runner pc).run st
    conclude pc (← terminated id) code err st

/-- The whole life of a worker that runs programs with `runner` and offers
itself with `announce`. -/
def run (runner : Runner) (announce : String → Prog Unit) (hasFs : Bool) (id : String) : Prog Unit := do
  announce id
  match ← awaitStart id streamFuel with
  | .error e =>
    Prog.change (·.log .debug id "Unit stopped before start" [("error", .str e.message)])
  | .ok p => live runner hasFs id p

end Worker

end Userland
