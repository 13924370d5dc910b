import Userland.Proofs.Task.Posting

namespace Userland

/-! # A worker reports its process's exit once

A process ends by an exit request to the supervisor, and each started process
is to get exactly one. Exit (`Proc.exit`) first releases the process: the
captured output goes to its redirect file, and both its outputs are closed, so
their readers see the end of the stream. Only then does it post the request,
and a process that exited already posts nothing (`Proc.exit_releases_first`).
`Outputs` is what a process's state says of its pipes, kept by every step.

A program is seen through its `Worker.Course`: stretches of work that post no
exit, calls to exit, and the code and fault it returns. Over a whole process
life (`Worker.live_inv`) the worker then posts the code of the program's first
exit or, if there was none, its own request: 1 when the process's context could
not be built, the program's code otherwise, a failure turning 0 into 1. It
posts nothing of its own when it finds its unit terminated after the program
returned, and the outputs are closed either way (`Worker.Reports`).
-/

/-- What a process's state says of its outputs on a machine: both are pipes of
the machine, a process that exited was released, and a released process's
outputs are closed. -/
structure Outputs (pc : ProcessContext) (st : ProcState) (m : Machine) : Prop where
  stdout_lt : pc.stdout < m.pipes.size
  stderr_lt : pc.stderr < m.pipes.size
  released_of_exited : st.exited = true → st.released = true
  closed_of_released : st.released = true → (m.pipe pc.stdout).closed = true ∧ (m.pipe pc.stderr).closed = true

namespace Outputs

variable {pc : ProcessContext} {st : ProcState} {m m' : Machine} {id : String} {L : List Int}

/-- The machine moving on keeps what the state says. -/
theorem posts (ho : Outputs pc st m) (hp : m.Posts id m' L) : Outputs pc st m' where
  stdout_lt := lt_of_lt_of_le ho.stdout_lt hp.size_pipes
  stderr_lt := lt_of_lt_of_le ho.stderr_lt hp.size_pipes
  released_of_exited := ho.released_of_exited
  closed_of_released hr := (ho.closed_of_released hr).imp (hp.closed _) (hp.closed _)

theorem closed (ho : Outputs pc st m) (hx : st.exited = true) :
    (m.pipe pc.stdout).closed = true ∧ (m.pipe pc.stderr).closed = true :=
  ho.closed_of_released (ho.released_of_exited hx)

end Outputs

namespace Proc

variable {id : String} {pc : ProcessContext} {st st' : ProcState} {m m' : Machine}

/-- Logging changes nothing an observer of exits sees, nor the files. -/
theorem log_inv {l : Level} {msg : String} {fs : List (String × Json)} {u : Unit}
    (h : Prog.Run id ((log pc l msg fs).run st) m (u, st') m') (hs : m.Scripted id) :
    st' = st ∧ m.Posts id m' [] ∧ m'.files = m.files := by
  unfold log at h
  obtain ⟨rfl, hp⟩ := Prog.Run.lift_inv h
  obtain ⟨m₀, hc, hc'⟩ := Prog.Run.change_inv hp
  refine ⟨rfl, Prog.quiet_change (fun m => m.same_log _ _ _ _) hs hp, ?_⟩
  rw [Machine.files_of_cuts hc']
  show m₀.files = m.files
  exact Machine.files_of_cuts hc

theorem quiet_log {l : Level} {msg : String} {fs : List (String × Json)} :
    Prog.Quiet id ((log pc l msg fs).run st) := fun _ ⟨_, _⟩ _ hs h => (log_inv h hs).2.1

/-- Closing both outputs of a process leaves them closed. -/
theorem closeOutputs_inv {u : Unit} (h : Prog.Run id (Prog.change fun m => (m.closePipe pc.stdout).closePipe pc.stderr) m u m')
    (hs : m.Scripted id) (hout : pc.stdout < m.pipes.size) (herr : pc.stderr < m.pipes.size) :
    m.Posts id m' [] ∧ (m'.pipe pc.stdout).closed = true ∧ (m'.pipe pc.stderr).closed = true ∧
      m'.files = m.files := by
  obtain ⟨m₀, hc, hc'⟩ := Prog.Run.change_inv h
  have p₀ := Machine.Posts.of_cuts hc hs
  have p₁ := Machine.posts_closePipe p₀.scripted pc.stdout
  have p₂ := Machine.posts_closePipe p₁.scripted pc.stderr
  have p₃ := Machine.Posts.of_cuts hc' p₂.scripted
  have hout₀ : pc.stdout < m₀.pipes.size := lt_of_lt_of_le hout p₀.size_pipes
  have herr₁ : pc.stderr < (m₀.closePipe pc.stdout).pipes.size := by simpa using lt_of_lt_of_le herr p₀.size_pipes
  refine ⟨by simpa using p₀.trans (p₁.trans (p₂.trans p₃)), p₃.closed _ ?_, p₃.closed _ ?_, ?_⟩
  · exact Machine.closed_closePipe_of_closed _ (Machine.closed_closePipe _ hout₀)
  · exact Machine.closed_closePipe _ herr₁
  · rw [Machine.files_of_cuts hc', Machine.files_closePipe, Machine.files_closePipe, Machine.files_of_cuts hc]

/-- Writing a file of the process changes the files alone, as the file system writes it. -/
theorem writeFile_inv {name : String} {data : List UInt8} {r : Option (Except Fault Unit)}
    (h : Prog.Run id ((writeFile pc name data).run st) m (r, st') m') (hs : m.Scripted id) :
    st' = st ∧ m.Posts id m' [] ∧
      m'.files = ((m.files.writeFile (Path.resolve pc.cwd name) data).map (·.2)).getD m.files := by
  obtain ⟨rfl, hw⟩ := Prog.Run.lift_inv h
  obtain ⟨m₀, hc, -, hc'⟩ := Prog.Run.atomic_inv hw
  obtain ⟨hsame, hfiles⟩ := m₀.same_writeFile (Path.resolve pc.cwd name) data
  refine ⟨rfl, Machine.Posts.around hc hs hsame.posts hc', ?_⟩
  exact (Machine.files_of_cuts hc').trans (hfiles.trans (by rw [Machine.files_of_cuts hc]))

/-- Releasing a process that was not released writes its captured output to
its redirect file, if it has one, and closes both its outputs; it posts nothing. -/
theorem release_inv {u : Unit} (h : Prog.Run id ((release pc).run st) m (u, st') m') (hs : m.Scripted id)
    (hr : st.released = false) (hout : pc.stdout < m.pipes.size) (herr : pc.stderr < m.pipes.size) :
    st' = { st with released := true } ∧ m.Posts id m' [] ∧
      (m'.pipe pc.stdout).closed = true ∧ (m'.pipe pc.stderr).closed = true ∧
      m'.files = if pc.redirectStdout ≠ "" then
        ((m.files.writeFile (Path.resolve pc.cwd pc.redirectStdout) st.captured.toList).map (·.2)).getD m.files
      else m.files := by
  simp only [release, StateT.run_bind, StateT.run_get, pure_bind, hr, Bool.false_eq_true, if_false,
    StateT.run_modify] at h
  by_cases hred : pc.redirectStdout ≠ ""
  · rw [if_pos hred] at h ⊢
    simp only [StateT.run_bind, StateT.run_get, pure_bind] at h
    obtain ⟨⟨r, st₁⟩, m₁, hw, h⟩ := Prog.Run.bind_inv h
    obtain ⟨rfl, p₁, hfiles₁⟩ := writeFile_inv hw hs
    have hout₁ := lt_of_lt_of_le hout p₁.size_pipes
    have herr₁ := lt_of_lt_of_le herr p₁.size_pipes
    -- a failed write is logged; then both outputs are closed
    split at h
    · simp only [StateT.run_bind] at h
      obtain ⟨⟨u₁, st₁⟩, m₂, hlog, h⟩ := Prog.Run.bind_inv h
      obtain ⟨rfl, p₂, hfiles₂⟩ := log_inv hlog p₁.scripted
      obtain ⟨rfl, hp⟩ := Prog.Run.lift_inv h
      obtain ⟨p₃, c₁, c₂, hf⟩ := closeOutputs_inv hp p₂.scripted (lt_of_lt_of_le hout₁ p₂.size_pipes)
        (lt_of_lt_of_le herr₁ p₂.size_pipes)
      exact ⟨rfl, by simpa using p₁.trans (p₂.trans p₃), c₁, c₂, by rw [hf, hfiles₂, hfiles₁]⟩
    · obtain ⟨rfl, hp⟩ := Prog.Run.lift_inv h
      obtain ⟨p₂, c₁, c₂, hf⟩ := closeOutputs_inv hp p₁.scripted hout₁ herr₁
      exact ⟨rfl, by simpa using p₁.trans p₂, c₁, c₂, by rw [hf, hfiles₁]⟩
  · rw [if_neg hred] at h ⊢
    obtain ⟨rfl, hp⟩ := Prog.Run.lift_inv h
    obtain ⟨p, c₁, c₂, hf⟩ := closeOutputs_inv hp hs hout herr
    exact ⟨rfl, p, c₁, c₂, hf⟩

/-- Releasing a released process does nothing. -/
theorem release_of_released {u : Unit} (h : Prog.Run id ((release pc).run st) m (u, st') m')
    (hr : st.released = true) : st' = st ∧ Prog.Cuts id m m' := by
  simp only [release, StateT.run_bind, StateT.run_get, pure_bind, hr, if_true, StateT.run_pure] at h
  obtain ⟨-, hst, hc⟩ := Prog.Run.pure_pair_inv h
  exact ⟨hst, hc⟩

/-- After a release the process is released and both its outputs are closed,
whether it was released before or not; nothing is posted. -/
theorem release_closes_outputs {u : Unit} (h : Prog.Run id ((release pc).run st) m (u, st') m')
    (hs : m.Scripted id) (hout : pc.stdout < m.pipes.size) (herr : pc.stderr < m.pipes.size)
    (hcl : st.released = true → (m.pipe pc.stdout).closed = true ∧ (m.pipe pc.stderr).closed = true) :
    m.Posts id m' [] ∧ st'.released = true ∧ st'.exited = st.exited ∧
      (m'.pipe pc.stdout).closed = true ∧ (m'.pipe pc.stderr).closed = true := by
  cases hr : st.released
  · obtain ⟨rfl, p, c₁, c₂, -⟩ := release_inv h hs hr hout herr
    exact ⟨p, rfl, rfl, c₁, c₂⟩
  · -- a second release finds the outputs closed already
    obtain ⟨rfl, hc⟩ := release_of_released h hr
    have p := Machine.Posts.of_cuts hc hs
    exact ⟨p, hr, rfl, (hcl hr).imp (p.closed _) (p.closed _)⟩

/-- Exiting a process that exited already does nothing. -/
theorem exit_of_exited {code : Int} {f : Fault} (h : Prog.Run id ((exit pc code).run st) m (f, st') m')
    (hx : st.exited = true) : st' = st ∧ Prog.Cuts id m m' := by
  simp only [exit, StateT.run_bind, StateT.run_get, pure_bind, hx, if_true, StateT.run_pure] at h
  obtain ⟨-, hst, hc⟩ := Prog.Run.pure_pair_inv h
  exact ⟨hst, hc⟩

/-- Exiting a process that has not exited: it is marked exited and released,
and only then the supervisor is asked to end it. -/
theorem exit_inv {code : Int} {f : Fault} (h : Prog.Run id ((exit pc code).run st) m (f, st') m')
    (hx : st.exited = false) :
    ∃ st₁ m₁ a m₂, Prog.Run id ((release pc).run { st with exited := true }) m ((), st₁) m₁ ∧
      Prog.Run id (pc.client.exit pc.ctx code) m₁ a m₂ ∧ Prog.Cuts id m₂ m' ∧ st' = st₁ := by
  simp only [exit, StateT.run_bind, StateT.run_get, pure_bind, hx, Bool.false_eq_true, if_false,
    StateT.run_modify] at h
  obtain ⟨⟨u, st₁⟩, m₁, hrel, hrest⟩ := Prog.Run.bind_inv h
  obtain ⟨⟨a, st₂⟩, m₂, hlift, hend⟩ := Prog.Run.bind_inv hrest
  obtain ⟨hst₂, hcall⟩ := Prog.Run.lift_inv hlift
  refine ⟨st₁, m₁, a, m₂, hrel, hcall, ?_⟩
  dsimp only at hend
  -- the answer only decides the fault the process unwinds with
  split at hend <;>
  · obtain ⟨-, hst, hc⟩ := Prog.Run.pure_pair_inv hend
    exact ⟨hc, hst.trans hst₂⟩

/-- Exit posts one exit request, unless the process exited already; either way
the process ends up exited, with its outputs closed. -/
theorem exit_outputs {code : Int} {f : Fault} (h : Prog.Run id ((exit pc code).run st) m (f, st') m')
    (hs : m.Scripted id) (hpc : pc.client.poster = .unit id) (ho : Outputs pc st m) :
    m.Posts id m' (if st.exited then [] else [code]) ∧ st'.exited = true ∧ Outputs pc st' m' := by
  cases hx : st.exited
  · obtain ⟨st₁, m₁, a, m₂, hrel, hcall, hc, rfl⟩ := exit_inv h hx
    -- the outputs are released now, or were before
    obtain ⟨p₁, hr₁, hx₁, c₁, c₂⟩ :=
      release_closes_outputs hrel hs ho.stdout_lt ho.stderr_lt ho.closed_of_released
    have p₂ := Client.posting_exit hpc pc.ctx code p₁.scripted hcall
    have p₃ := Machine.Posts.of_cuts hc p₂.scripted
    have p : m.Posts id m' [code] := by simpa using p₁.trans (p₂.trans p₃)
    have ho₁ : Outputs pc st' m₁ :=
      ⟨lt_of_lt_of_le ho.stdout_lt p₁.size_pipes, lt_of_lt_of_le ho.stderr_lt p₁.size_pipes,
        fun _ => hr₁, fun _ => ⟨c₁, c₂⟩⟩
    exact ⟨p, hx₁, ho₁.posts (p₂.trans p₃)⟩
  · obtain ⟨rfl, hc⟩ := exit_of_exited h hx
    have p := Machine.Posts.of_cuts hc hs
    exact ⟨by simpa using p, hx, ho.posts p⟩

/-- A run of exit from `m` to `m'` released the process before it asked the
supervisor to end it: when the exit request was made, on `m₁`, the redirect
file had been written with the captured output and both outputs were closed,
and nothing had been posted yet; the request posted one exit with `code`. -/
def ReleasesFirst (id : String) (pc : ProcessContext) (code : Int) (st : ProcState) (m m' : Machine) : Prop :=
  ∃ st₁ m₁ a m₂, Prog.Run id ((release pc).run { st with exited := true }) m ((), st₁) m₁ ∧
    Prog.Run id (pc.client.exit pc.ctx code) m₁ a m₂ ∧ Prog.Cuts id m₂ m' ∧
    m₁.exitCodes = m.exitCodes ∧ (m₁.pipe pc.stdout).closed = true ∧ (m₁.pipe pc.stderr).closed = true ∧
    (m₁.files = if pc.redirectStdout ≠ "" then
      ((m.files.writeFile (Path.resolve pc.cwd pc.redirectStdout) st.captured.toList).map (·.2)).getD m.files
    else m.files) ∧
    m'.exitCodes = m.exitCodes ++ [code]

/-- Exiting a process that neither exited nor was released writes its redirect
file and closes both its outputs first; only then is its exit request posted,
once, with its code. -/
theorem exit_releases_first {code : Int} {f : Fault} (hpc : pc.client.poster = .unit id)
    (hs : m.Scripted id) (hx : st.exited = false) (hr : st.released = false)
    (hout : pc.stdout < m.pipes.size) (herr : pc.stderr < m.pipes.size)
    (h : Prog.Run id ((exit pc code).run st) m (f, st') m') : ReleasesFirst id pc code st m m' := by
  obtain ⟨st₁, m₁, a, m₂, hrel, hcall, hc, -⟩ := exit_inv h hx
  obtain ⟨-, p₁, c₁, c₂, hfiles⟩ := release_inv hrel hs hr hout herr
  have p₂ := Client.posting_exit hpc pc.ctx code p₁.scripted hcall
  have p₃ := Machine.Posts.of_cuts hc p₂.scripted
  refine ⟨st₁, m₁, a, m₂, hrel, hcall, hc, by simpa using p₁.exitCodes, c₁, c₂, hfiles, ?_⟩
  simpa using (p₁.trans (p₂.trans p₃)).exitCodes

end Proc

namespace Worker

/-- The code a worker ends a process with after its program returned `code`
and `err`: a failure turns 0 into 1. -/
def reportedCode (code : Int) (err : Option Fault) : Int :=
  match err with
  | some _ => if code = 0 then 1 else code
  | none => code

/-- How a program goes, as far as its exit is concerned: stretches of work,
calls to exit, and in the end the code and the fault it returns. -/
inductive Course where
  | done (code : Int) (fault : Option Fault)
  | work (w : ProcessContext → Proc Unit) (rest : Course)
  | exit (code : Int) (rest : Course)

namespace Course

/-- The program that goes this course. -/
def runner : Course → Runner
  | .done code fault => fun _ => pure (code, fault)
  | .work w rest => fun pc => do w pc; rest.runner pc
  | .exit code rest => fun pc => do let _ ← Proc.exit pc code; rest.runner pc

/-- The codes it calls exit with, in order. -/
def exits : Course → List Int
  | .done _ _ => []
  | .work _ rest => rest.exits
  | .exit code rest => code :: rest.exits

/-- What it returns in the end. -/
def result : Course → Int × Option Fault
  | .done code fault => (code, fault)
  | .work _ rest => rest.result
  | .exit _ rest => rest.result

/-- It returns the fault of an exit only after calling exit, as programs are asked to. -/
def Honest (c : Course) : Prop :=
  (c.result.2.any fun f => f.cause matches .exited) = true → c.exits ≠ []

/-- Its work, run on unit `id`, posts no exit request and leaves alone whether
the process exited or was released. -/
def Silent (id : String) : Course → Prop
  | .done _ _ => True
  | .work w rest =>
    (∀ pc st m st' m', m.Scripted id → Prog.Run id ((w pc).run st) m ((), st') m' →
      m.Posts id m' [] ∧ st'.exited = st.exited ∧ st'.released = st.released) ∧ rest.Silent id
  | .exit _ rest => rest.Silent id

/-- The code a worker reports for a process that goes this course: that of the
first exit, or else the code it returns, a failure turning 0 into 1. -/
def reported (c : Course) : Int :=
  match c.exits with
  | code :: _ => code
  | [] => reportedCode c.result.1 c.result.2

variable {id : String} {pc : ProcessContext} {st st' : ProcState} {m m' : Machine}

/-- A course posts the code of its first exit, unless the process had exited
before; the process has exited after it iff before it or if it called exit. -/
theorem run_inv (c : Course) (hw : c.Silent id) (hpc : pc.client.poster = .unit id)
    (ho : Outputs pc st m) (hs : m.Scripted id) {r : Int × Option Fault}
    (h : Prog.Run id ((c.runner pc).run st) m (r, st') m') :
    r = c.result ∧ m.Posts id m' (if st.exited then [] else c.exits.take 1) ∧
      st'.exited = (st.exited || !c.exits.isEmpty) ∧ Outputs pc st' m' := by
  induction c generalizing st m with
  | done code fault =>
    obtain ⟨rfl, rfl, hc⟩ := Prog.Run.pure_pair_inv h
    have p := Machine.Posts.of_cuts hc hs
    exact ⟨rfl, by simpa [exits] using p, by simp [exits], ho.posts p⟩
  | work w rest ih =>
    simp only [runner, StateT.run_bind] at h
    obtain ⟨⟨u, st₁⟩, m₁, hw₁, hrest⟩ := Prog.Run.bind_inv h
    obtain ⟨p₁, hx, hrel⟩ := hw.1 pc st m st₁ m₁ hs hw₁
    have ho₁ : Outputs pc st₁ m₁ := by
      obtain ⟨h₁, h₂, h₃, h₄⟩ := ho.posts p₁
      exact ⟨h₁, h₂, hx ▸ hrel ▸ h₃, hrel ▸ h₄⟩
    obtain ⟨hr, p₂, hx₂, ho₂⟩ := ih hw.2 ho₁ p₁.scripted hrest
    rw [hx] at p₂ hx₂
    exact ⟨hr, by simpa [exits] using p₁.trans p₂, hx₂, ho₂⟩
  | exit code rest ih =>
    simp only [runner, StateT.run_bind] at h
    obtain ⟨⟨f, st₁⟩, m₁, hexit, hrest⟩ := Prog.Run.bind_inv h
    obtain ⟨p₁, hx₁, ho₁⟩ := Proc.exit_outputs hexit hs hpc ho
    obtain ⟨hr, p₂, hx₂, ho₂⟩ := ih hw ho₁ p₁.scripted hrest
    rw [hx₁] at p₂ hx₂
    refine ⟨hr, ?_, by simpa [exits] using hx₂, ho₂⟩
    cases hx : st.exited <;> simpa [exits, hx] using p₁.trans p₂

/-- What the worker posts after a course: its first exit, or else its own
exit request unless the unit was found terminated. -/
theorem posted_after (c : Course) (t : Bool) :
    c.exits.take 1 ++ (if t || !c.exits.isEmpty then [] else [reportedCode c.result.1 c.result.2]) =
      if t = true ∧ c.exits = [] then [] else [c.reported] := by
  unfold reported
  cases c.exits <;> cases t <;> simp

end Course

variable {id : String} {pc : ProcessContext} {st st' : ProcState} {m m' : Machine}

/-- Reporting a process running posts no exit request and leaves its state alone. -/
theorem begin_inv {client : Client} (hc : client.poster = .unit id) {u : Unit}
    (h : Prog.Run id ((begin client pc).run st) m (u, st') m') (hs : m.Scripted id) :
    st' = st ∧ m.Posts id m' [] := by
  simp only [begin, StateT.run_bind] at h
  obtain ⟨⟨r, st₁⟩, m₁, hrep, hlog⟩ := Prog.Run.bind_inv h
  obtain ⟨hst₁, hrep'⟩ := Prog.Run.lift_inv hrep
  have p₁ := Client.quiet_changeState hc .running hs hrep'
  obtain ⟨hst', p₂, -⟩ := Proc.log_inv hlog p₁.scripted
  exact ⟨hst'.trans hst₁, by simpa using p₁.trans p₂⟩

/-- The error pipe of a process is the payload's, or a new one. -/
theorem errorPipe_inv {p : StartPayload} {e : Nat} (h : Prog.Run id (errorPipe p) m e m')
    (hs : m.Scripted id) (herr : ∀ e, p.stderr = some e → e < m.pipes.size) :
    m.Posts id m' [] ∧ e < m'.pipes.size ∧ ∀ e', p.stderr = some e' → e = e' := by
  unfold errorPipe at h
  revert h
  cases hpe : p.stderr with
  | some e' =>
    intro h
    obtain ⟨rfl, hc⟩ := Prog.Run.pure_inv h
    have p₁ := Machine.Posts.of_cuts hc hs
    exact ⟨p₁, lt_of_lt_of_le (herr e hpe) p₁.size_pipes, fun _ h' => Option.some.inj h'⟩
  | none =>
    intro h
    obtain ⟨m₀, hc, rfl, hc'⟩ := Prog.Run.atomic_inv h
    have p₀ := Machine.Posts.of_cuts hc hs
    have p₁ := Machine.posts_newPipe p₀.scripted 1
    have p₂ := Machine.Posts.of_cuts hc' p₁.scripted
    refine ⟨by simpa using p₀.trans (p₁.trans p₂), lt_of_lt_of_le ?_ p₂.size_pipes, fun _ h' => nomatch h'⟩
    simp [Machine.newPipe]

/-- Opening a process's input changes the files at most. -/
theorem quiet_openInput (hasFs : Bool) (p : StartPayload) : Prog.Quiet id (openInput hasFs p) := by
  unfold openInput
  refine Prog.Posting.ite (Prog.Posting.ite (Prog.quiet_pure _) (Prog.quiet_atomic fun m => ?_))
    (Prog.Posting.ite (Prog.quiet_pure _) ?_)
  · split
    all_goals first | exact .refl m | exact Machine.same_of_readFile? ‹_›
  · split <;> exact Prog.quiet_pure _

/-- Building a process's context posts no exit request; a context that was
built speaks to the supervisor through the unit, writes the payload's pipes,
and has not exited. -/
theorem setup_inv {hasFs : Bool} {p : StartPayload} {r : Except Fault (ProcessContext × ProcState)}
    (h : Prog.Run id (setup id hasFs p) m r m') (hs : m.Scripted id)
    (hout : p.stdout < m.pipes.size) (herr : ∀ e, p.stderr = some e → e < m.pipes.size) :
    m.Posts id m' [] ∧ ∀ pc st, r = .ok (pc, st) →
      pc.client = Client.ofProcess p.pid p.signal (.unit id) ∧ pc.stdout = p.stdout ∧
        (∀ e, p.stderr = some e → pc.stderr = e) ∧ st.exited = false ∧ Outputs pc st m' := by
  unfold setup at h
  obtain ⟨e, m₁, he, hrest⟩ := Prog.Run.bind_inv h
  obtain ⟨p₁, he₁, hpe⟩ := errorPipe_inv he hs herr
  obtain ⟨input, m₂, hin, hend⟩ := Prog.Run.bind_inv hrest
  have p₂ := quiet_openInput hasFs p p₁.scripted hin
  split at hend
  · obtain ⟨rfl, hc⟩ := Prog.Run.pure_inv hend
    have p₃ := Machine.Posts.of_cuts hc p₂.scripted
    exact ⟨by simpa using p₁.trans (p₂.trans p₃), fun _ _ h' => nomatch h'⟩
  · obtain ⟨rfl, hc⟩ := Prog.Run.pure_inv hend
    have p₂₃ := p₂.trans (Machine.Posts.of_cuts hc p₂.scripted)
    refine ⟨by simpa using p₁.trans p₂₃, fun pc st hpcst => ?_⟩
    simp only [Except.ok.injEq, Prod.mk.injEq] at hpcst
    obtain ⟨rfl, rfl⟩ := hpcst
    -- a new process has neither exited nor been released
    refine ⟨rfl, rfl, hpe, rfl, ⟨?_, ?_, nofun, nofun⟩⟩
    · exact lt_of_lt_of_le hout (p₁.trans p₂₃).size_pipes
    · exact lt_of_lt_of_le he₁ p₂₃.size_pipes

/-- Working out the exit code posts nothing and leaves the process's state alone. -/
theorem exitCode_inv {code c : Int} {err : Option Fault} (h : Prog.Run id ((exitCode pc code err).run st) m (c, st') m')
    (hs : m.Scripted id) : c = reportedCode code err ∧ st' = st ∧ m.Posts id m' [] := by
  unfold exitCode at h
  cases err with
  | none =>
    obtain ⟨hc, hst, hcut⟩ := Prog.Run.pure_pair_inv h
    exact ⟨hc, hst, Machine.Posts.of_cuts hcut hs⟩
  | some e =>
    simp only [StateT.run_bind] at h
    obtain ⟨⟨u, st₁⟩, m₁, hlog, hend⟩ := Prog.Run.bind_inv h
    obtain ⟨hst₁, p₁, -⟩ := Proc.log_inv hlog hs
    obtain ⟨hc, hst, hcut⟩ := Prog.Run.pure_pair_inv hend
    exact ⟨hc, hst.trans hst₁, by simpa using p₁.trans (Machine.Posts.of_cuts hcut p₁.scripted)⟩

/-- Ending a process after its program returned: the worker posts its own exit
request, with the code it works out, unless it found the unit terminated or the
process exited already; either way the outputs end up closed. -/
theorem conclude_inv {t : Bool} {code : Int} {err : Option Fault} {u : Unit}
    (h : Prog.Run id (conclude pc t code err st) m u m') (hs : m.Scripted id)
    (hpc : pc.client.poster = .unit id) (ho : Outputs pc st m)
    (hexit : (err.any fun f => f.cause matches .exited) = true → st.exited = true) :
    m.Posts id m' (if t || st.exited then [] else [reportedCode code err]) ∧
      (m'.pipe pc.stdout).closed = true ∧ (m'.pipe pc.stderr).closed = true := by
  unfold conclude at h
  cases t
  · simp only [Bool.false_eq_true, if_false] at h
    split at h
    · -- the process exited already, by itself or by its program's exit
      next hx =>
      have hx' : st.exited = true := by
        rcases Bool.or_eq_true_iff.mp hx with hst | hfault
        · exact hst
        · exact hexit hfault
      have p := Machine.Posts.of_cuts (Prog.Run.pure_inv h).2 hs
      exact ⟨by simpa [hx'] using p, (ho.posts p).closed hx'⟩
    · next hx =>
      have hx' : st.exited = false := by
        simp only [Bool.or_eq_true, not_or, Bool.not_eq_true] at hx
        exact hx.1
      obtain ⟨⟨c, st₁⟩, m₁, hcode, hrest⟩ := Prog.Run.bind_inv h
      obtain ⟨hc, hst₁, p₁⟩ := exitCode_inv hcode hs
      obtain ⟨⟨f, st₂⟩, m₂, hquit, hend⟩ := Prog.Run.bind_inv hrest
      rw [hst₁] at hquit
      obtain ⟨p₂, hx₂, ho₂⟩ := Proc.exit_outputs hquit p₁.scripted hpc (ho.posts p₁)
      -- an exit the supervisor did not acknowledge is logged
      have p₃ := (Prog.Posting.ite (Prog.Quiet.bind Proc.quiet_log fun _ => Prog.quiet_pure _)
        (Prog.quiet_pure _)) p₂.scripted hend
      simp only [hx', hc] at p₂
      exact ⟨by simpa [hx'] using p₁.trans (p₂.trans p₃), (ho₂.posts p₃).closed hx₂⟩
  · -- the unit was terminated: the worker only releases the outputs
    simp only [if_true] at h
    obtain ⟨⟨⟨⟩, st₁⟩, m₁, hlog, hrest⟩ := Prog.Run.bind_inv h
    obtain ⟨hst₁, p₁, -⟩ := Proc.log_inv hlog hs
    obtain ⟨⟨u₂, st₂⟩, m₂, hrel, hend⟩ := Prog.Run.bind_inv hrest
    rw [hst₁] at hrel
    have ho₁ := ho.posts p₁
    obtain ⟨p₂, -, -, c₁, c₂⟩ :=
      Proc.release_closes_outputs hrel p₁.scripted ho₁.stdout_lt ho₁.stderr_lt ho₁.closed_of_released
    have p₃ := Machine.Posts.of_cuts (Prog.Run.pure_inv hend).2 p₂.scripted
    exact ⟨by simpa using p₁.trans (p₂.trans p₃), p₃.closed _ c₁, p₃.closed _ c₂⟩

/-- How a whole process life of unit `id` from `m` to `m'` went, as far as the
exit goes. Either the process's context could not be built, and the worker
posted an exit with 1; or the program ran: the run went through the context
built, the report of the process running, the program (which returned what its
course says), the worker's check whether the unit was terminated, which found
`t`, and the end of the process. Then what was posted is the course's reported
code, unless the unit was found terminated and the program called no exit, in
which case nothing was; and both outputs are closed. -/
def Reports (c : Course) (id : String) (hasFs : Bool) (p : StartPayload) (m m' : Machine) : Prop :=
  (∃ e m₁, Prog.Run id (setup id hasFs p) m (.error e) m₁ ∧ m'.exitCodes = m.exitCodes ++ [1]) ∨
  ∃ pc st m₁ st₁ m₂ st₂ m₃ t m₄,
    Prog.Run id (setup id hasFs p) m (.ok (pc, st)) m₁ ∧
    Prog.Run id ((begin (Client.ofProcess p.pid p.signal (.unit id)) pc).run st) m₁ ((), st₁) m₂ ∧
    Prog.Run id ((c.runner pc).run st₁) m₂ (c.result, st₂) m₃ ∧
    Prog.Run id (terminated id) m₃ t m₄ ∧
    Prog.Run id (conclude pc t c.result.1 c.result.2 st₂) m₄ () m' ∧
    m'.exitCodes = m.exitCodes ++ (if t = true ∧ c.exits = [] then [] else [c.reported]) ∧
    pc.stdout = p.stdout ∧ (m'.pipe pc.stdout).closed = true ∧ (m'.pipe pc.stderr).closed = true

/-- Every whole process life of a played unit whose program goes an honest
course reports as `Reports` says. -/
theorem live_inv (c : Course) (hc : c.Honest) (hw : c.Silent id) {hasFs : Bool} {p : StartPayload}
    (hs : m.Scripted id) (hout : p.stdout < m.pipes.size) (herr : ∀ e, p.stderr = some e → e < m.pipes.size)
    {u : Unit} (h : Prog.Run id (live c.runner hasFs id p) m u m') : Reports c id hasFs p m m' := by
  unfold live at h
  obtain ⟨r, m₁, hsetup, hrest⟩ := Prog.Run.bind_inv h
  obtain ⟨p₁, hok⟩ := setup_inv hsetup hs hout herr
  cases r with
  | error e =>
    -- the failure is logged, and the worker exits the process with 1
    refine .inl ⟨e, m₁, hsetup, ?_⟩
    obtain ⟨_, m₂, hlog, hrest₂⟩ := Prog.Run.bind_inv hrest
    have p₂ := Prog.quiet_change (fun m => m.same_log _ _ _ _) p₁.scripted hlog
    obtain ⟨a, m₃, hexit, hend⟩ := Prog.Run.bind_inv hrest₂
    have p₃ := Client.posting_exit rfl _ 1 p₂.scripted hexit
    have p₄ : m₃.Posts id m' [] := by
      revert hend
      split
      · exact fun hend => Prog.quiet_change (fun m => m.same_log _ _ _ _) p₃.scripted hend
      · exact fun hend => Prog.quiet_pure _ p₃.scripted hend
    simpa using (p₁.trans (p₂.trans (p₃.trans p₄))).exitCodes
  | ok pcst =>
    obtain ⟨pc, st⟩ := pcst
    obtain ⟨hclient, hstdout, -, hx, ho⟩ := hok pc st rfl
    have hpc : pc.client.poster = .unit id := by rw [hclient]; rfl
    obtain ⟨⟨⟨⟩, st₁⟩, m₂, hbegin, hrest₂⟩ := Prog.Run.bind_inv hrest
    obtain ⟨hst₁, p₂⟩ := begin_inv rfl hbegin p₁.scripted
    obtain ⟨⟨res, st₂⟩, m₃, hrun, hrest₃⟩ := Prog.Run.bind_inv hrest₂
    have ho₂ : Outputs pc st₁ m₂ := hst₁ ▸ ho.posts p₂
    obtain ⟨rfl, p₃, hx₃, ho₃⟩ := Course.run_inv c hw hpc ho₂ p₂.scripted hrun
    obtain ⟨t, m₄, hcheck, hcon⟩ := Prog.Run.bind_inv hrest₃
    have p₄ := Prog.quiet_read _ p₃.scripted hcheck
    -- a program that returns the fault of an exit called exit, so the process exited
    have hexit : (c.result.2.any fun f => f.cause matches .exited) = true → st₂.exited = true := by
      intro hf
      rw [hx₃]
      simp [hc hf]
    obtain ⟨p₅, c₁, c₂⟩ := conclude_inv hcon p₄.scripted hpc (ho₃.posts p₄) hexit
    refine .inr ⟨pc, st, m₁, st₁, m₂, st₂, m₃, t, m₄, hsetup, hbegin, hrun, hcheck, hcon, ?_, hstdout, c₁, c₂⟩
    have hx₁ : st₁.exited = false := hst₁ ▸ hx
    rw [hx₃, hx₁, Bool.false_or] at p₅
    rw [hx₁] at p₃
    have hposted := (p₁.trans (p₂.trans (p₃.trans (p₄.trans p₅)))).exitCodes
    simp only [List.nil_append, if_false, Bool.false_eq_true] at hposted
    rwa [Course.posted_after] at hposted

/-- A worker reports each started process's exit once. Exit releases a process
before it asks the supervisor to end it, and posts one exit request; and over a
whole process life whose program goes an honest course, the worker posts the
code of the program's first exit, or else its own exit request (1 when the
context could not be built, the program's code otherwise, a failure turning 0
into 1), unless it found the unit terminated after the program returned; the
outputs are closed in the end either way. -/
theorem exit_reported_once :
    (∀ (id : String) (pc : ProcessContext) (code : Int) (st st' : ProcState) (f : Fault) (m m' : Machine),
      pc.client.poster = .unit id → m.Scripted id → st.exited = false → st.released = false →
      pc.stdout < m.pipes.size → pc.stderr < m.pipes.size →
      Prog.Run id ((Proc.exit pc code).run st) m (f, st') m' → Proc.ReleasesFirst id pc code st m m') ∧
    (∀ (id : String) (c : Course) (hasFs : Bool) (p : StartPayload) (m m' : Machine),
      c.Honest → c.Silent id → m.Scripted id → p.stdout < m.pipes.size →
      (∀ e, p.stderr = some e → e < m.pipes.size) →
      Prog.Run id (live c.runner hasFs id p) m () m' → Reports c id hasFs p m m') :=
  ⟨fun _ _ _ _ _ _ _ _ hpc hs hx hr hout herr h => Proc.exit_releases_first hpc hs hx hr hout herr h,
    fun _ c _ _ _ _ hc hw hs hout herr h => live_inv c hc hw hs hout herr h⟩

/-- A played unit `w` with three open pipes and a signal. -/
def sampleMachine : Machine :=
  let m : Machine := default
  let m := (m.newPipe 4).2
  let m := (m.newPipe 4).2
  let m := (m.newPipe 4).2
  let m := (m.newSignal 0).2
  m.addUnit { ExecUnit.fresh "w" false with handler := .script }

/-- A process on `w` reading pipe 0 and writing pipes 1 and 2. -/
def samplePayload : StartPayload :=
  { (default : StartPayload) with pid := 1, stdin := 0, stdout := 1, stderr := some 2 }

/-- The context of that process. -/
def sampleContext : ProcessContext :=
  { (default : ProcessContext) with
    stdout := 1, stderr := 2, unit := "w", client := Client.ofProcess 1 0 (.unit "w") }

/-- A program that calls exit with 3 and returns the fault of an exit. -/
def exitThree : Course := .exit 3 (.done 3 (some .exited))

theorem exit_reported_once_three :
    (∃ f st' m', Prog.Run "w" ((Proc.exit sampleContext 3).run default) sampleMachine (f, st') m' ∧
      Proc.ReleasesFirst "w" sampleContext 3 default sampleMachine m') ∧
    (∃ m', Prog.Run "w" (live exitThree.runner true "w" samplePayload) sampleMachine () m' ∧
      Reports exitThree "w" true samplePayload sampleMachine m') := by
  have hs : sampleMachine.Scripted "w" := by decide +kernel
  obtain ⟨⟨⟨f, st'⟩, m'⟩, hexit⟩ := Option.isSome_iff_exists.mp
    (by decide +kernel : (Prog.eval ((Proc.exit sampleContext 3).run default) sampleMachine).isSome = true)
  obtain ⟨⟨⟨⟩, m''⟩, hlive⟩ := Option.isSome_iff_exists.mp
    (by decide +kernel : (Prog.eval (live exitThree.runner true "w" samplePayload) sampleMachine).isSome = true)
  refine ⟨⟨f, st', m', Prog.Run.of_eval hexit, exit_reported_once.1 "w" sampleContext 3 default st' f
    sampleMachine m' rfl hs rfl rfl (by decide +kernel) (by decide +kernel) (Prog.Run.of_eval hexit)⟩,
    ⟨m'', Prog.Run.of_eval hlive, exit_reported_once.2 "w" exitThree true samplePayload sampleMachine m''
    (fun _ => by simp [exitThree, Course.exits]) trivial hs (by decide +kernel)
    (fun e he => by cases he; decide +kernel) (Prog.Run.of_eval hlive)⟩⟩

end Worker

end Userland
