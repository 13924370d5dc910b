import Userland.Proofs.Task.Run
import Userland.Proofs.Supervisor.View

namespace Userland

/-! # What a task posts

Where unit `id` is played (`Machine.Scripted`), every message its tasks post is
recorded by the played supervisor, and `Machine.exitCodes` reads the codes of
the exit requests among them, in order. `Machine.Posts id m m' L` says that
from `m` to `m'` the exit requests with codes `L` were posted, while no pipe
went away and no closed pipe opened again; `Prog.Posting id L p` says it of
every run of `p`, and `Prog.Quiet` is posting nothing.

Most steps are quiet: terminations, logs, signals, files, new and closed pipes
(`Machine.Same` collects what they leave alone). Posting composes along a
`do` block (`Prog.Posting.bind`), so a client's call posts its request and
nothing else (`Client.posting_call`), and an exit request posts exactly its
code (`Client.posting_exit`).
-/

namespace Machine

/-- The codes of the exit requests the played supervisor was posted, in order. -/
def exitCodes (m : Machine) : List Int :=
  (m.script.posted.toList.filter (·.op == .exit)).map (·.code)

/-- Unit `id` hands what its process posts to the played supervisor. -/
def Scripted (m : Machine) (id : String) : Prop := (m.unit? id).map (·.handler) = some .script

instance (m : Machine) (id : String) : Decidable (m.Scripted id) :=
  inferInstanceAs (Decidable ((m.unit? id).map (·.handler) = some .script))

/-- `m'` has the pipes of `m`, the same record of what the played supervisor
was posted, and the same handler on every unit. -/
structure Same (m m' : Machine) : Prop where
  posted : m'.script.posted = m.script.posted
  pipes : m'.pipes = m.pipes
  handler : ∀ id, (m'.unit? id).map (·.handler) = (m.unit? id).map (·.handler)

/-- From `m` to `m'`, unit `id` still hands its posts to the played supervisor,
which was posted exit requests with the codes `L`, and no pipe went away or
opened again. -/
structure Posts (id : String) (m m' : Machine) (L : List Int) : Prop where
  scripted : m'.Scripted id
  exitCodes : m'.exitCodes = m.exitCodes ++ L
  size_pipes : m.pipes.size ≤ m'.pipes.size
  closed : ∀ n, (m.pipe n).closed = true → (m'.pipe n).closed = true

variable {m m₁ m₂ m' : Machine} {id : String}

namespace Same

theorem refl (m : Machine) : Same m m := ⟨rfl, rfl, fun _ => rfl⟩

theorem trans (h₁ : Same m m₁) (h₂ : Same m₁ m₂) : Same m m₂ :=
  ⟨h₂.posted.trans h₁.posted, h₂.pipes.trans h₁.pipes, fun id => (h₂.handler id).trans (h₁.handler id)⟩

/-- Nothing an observer of exits watches moved. -/
theorem posts (h : Same m m') (hs : m.Scripted id) : Posts id m m' [] where
  scripted := (h.handler id).trans hs
  exitCodes := by simp [exitCodes, h.posted]
  size_pipes := h.pipes ▸ le_rfl
  closed n hn := by rwa [pipe_congr m h.pipes n]

/-- A change that leaves the units, the pipes and the script's record alone. -/
theorem of_eq (hu : m'.units = m.units) (hp : m'.pipes = m.pipes) (hs : m'.script.posted = m.script.posted) :
    Same m m' :=
  ⟨hs, hp, fun id => by simp only [unit?, hu]⟩

/-- A change of units that keeps their ids and handlers. -/
theorem updateUnit {f : ExecUnit → ExecUnit} (hf : ∀ u, (f u).id = u.id ∧ (f u).handler = u.handler)
    (j : String) : Same m (m.updateUnit j f) where
  posted := rfl
  pipes := rfl
  handler id := by
    rw [unit?_updateUnit m (fun u => (hf u).1)]
    cases m.unit? id with
    | none => rfl
    | some u => by_cases h : u.id = j <;> simp [h, (hf u).2]

theorem terminate (j : String) : Same m (m.terminate j) := by
  have hup : Same m (m.updateUnit j fun u => { u with cancelled := true, mailboxClosed := true }) :=
    updateUnit (f := fun u => { u with cancelled := true, mailboxClosed := true }) (fun _ => ⟨rfl, rfl⟩) j
  unfold Machine.terminate
  dsimp only
  split
  · split
    · exact hup.trans (of_eq rfl rfl rfl)
    · exact hup
  · exact hup

end Same

namespace Posts

theorem trans {L₁ L₂ : List Int} (h₁ : Posts id m m₁ L₁) (h₂ : Posts id m₁ m₂ L₂) : Posts id m m₂ (L₁ ++ L₂) where
  scripted := h₂.scripted
  exitCodes := by rw [h₂.exitCodes, h₁.exitCodes, List.append_assoc]
  size_pipes := h₁.size_pipes.trans h₂.size_pipes
  closed n hn := h₂.closed n (h₁.closed n hn)

/-- Terminations of the unit post nothing. -/
theorem of_cuts (hc : Prog.Cuts id m m') (hs : m.Scripted id) : Posts id m m' [] :=
  (Prog.Cuts.keep (fun m m' => Same m m') Same.refl (fun _ _ h => h.trans (Same.terminate id)) hc).posts hs

/-- A change that posts `L`, with terminations before and after it, posts `L`. -/
theorem around {m₀ : Machine} {L : List Int} (hc : Prog.Cuts id m m₀) (hs : m.Scripted id)
    (hp : m₀.Scripted id → Posts id m₀ m₁ L) (hc' : Prog.Cuts id m₁ m') : Posts id m m' L := by
  have p₀ := of_cuts hc hs
  have p₁ := hp p₀.scripted
  simpa using p₀.trans (p₁.trans (of_cuts hc' p₁.scripted))

end Posts

/-! ### Steps that post nothing -/

theorem files_terminate (j : String) : (m.terminate j).files = m.files := by
  unfold terminate
  dsimp only
  split
  · split <;> rfl
  · rfl

theorem files_of_cuts {m' : Machine} (hc : Prog.Cuts id m m') : m'.files = m.files :=
  Prog.Cuts.keep (fun m m' => m'.files = m.files) (fun _ => rfl) (fun _ _ h => (files_terminate id).trans h) hc

theorem same_log (l : Level) (logger msg : String) (fs : List (String × Json)) : m.Same (m.log l logger msg fs) :=
  .of_eq rfl rfl rfl

@[simp] theorem files_closePipe (j : Nat) : (m.closePipe j).files = m.files := by
  unfold closePipe
  split <;> rfl

theorem posts_closePipe (hs : m.Scripted id) (j : Nat) : m.Posts id (m.closePipe j) [] where
  scripted := by unfold closePipe; split <;> exact hs
  exitCodes := by unfold closePipe; split <;> simp [exitCodes, setPipe]
  size_pipes := (size_closePipe m j).ge
  closed _ hn := closed_closePipe_of_closed m hn

/-- Writing a file changes the files alone. -/
theorem same_writeFile (name : String) (data : List UInt8) :
    m.Same (match m.writeFile? name data with
      | some (r, m') => (some r, m')
      | none => (none, m)).2 ∧
    (match m.writeFile? name data with
      | some (r, m') => (some r, m')
      | none => (none, m)).2.files = ((m.files.writeFile name data).map (·.2)).getD m.files := by
  unfold writeFile?
  cases m.files.writeFile name data with
  | none => exact ⟨.refl m, rfl⟩
  | some rf => exact ⟨.of_eq rfl rfl rfl, rfl⟩

/-- Reading a file changes the files alone. -/
theorem same_of_readFile? {name : String} {r : Except Fault (List UInt8)} {m' : Machine}
    (h : m.readFile? name = some (r, m')) : m.Same m' := by
  unfold readFile? at h
  obtain ⟨⟨r₀, fs⟩, -, h⟩ := Option.map_eq_some_iff.mp h
  cases h
  exact .of_eq rfl rfl rfl

/-- A new pipe is open, so it closes no pipe that was closed. -/
theorem posts_newPipe (hs : m.Scripted id) (c : Nat) : m.Posts id (m.newPipe c).2 [] where
  scripted := hs
  exitCodes := by simp [exitCodes, newPipe]
  size_pipes := by simp [newPipe]
  closed n hn := by
    simp only [pipe, newPipe, Array.getElem?_push] at hn ⊢
    split
    · next hsize => simp [hsize, Ring.new] at hn
    · exact hn

end Machine

namespace Act

variable {α β : Type}

/-- An action after which an observer of exits sees the machine as before. -/
def Plain (a : Act β) : Prop := ∀ m, Machine.Same m (a.run m).2

theorem plain_pure (x : β) : Plain (pure x : Act β) := Machine.Same.refl

theorem plain_get : Plain (get : Act Machine) := Machine.Same.refl

theorem plain_modify {f : Machine → Machine} (hf : ∀ m, Machine.Same m (f m)) : Plain (modify f) := hf

theorem Plain.bind {x : Act α} {f : α → Act β} (hx : Plain x) (hf : ∀ a, Plain (f a)) : Plain (x >>= f) :=
  fun m => (hx m).trans (hf _ _)

theorem Plain.ite {c : Prop} [Decidable c] {a b : Act β} (ha : Plain a) (hb : Plain b) :
    Plain (if c then a else b) := by
  split
  · exact ha
  · exact hb

theorem plain_terminate (j : String) : Plain (terminate j) := fun _ => Machine.Same.terminate j

/-- A scripted supervisor records the message, then only answers and terminates. -/
theorem same_scripted (id : String) (msg : Message) (m : Machine) :
    Machine.Same { m with script := { m.script with posted := m.script.posted.push msg } }
      ((scripted (some id) msg).run m).2 := by
  unfold scripted
  rw [run_bind, run_modify]
  refine (?_ : Plain _) _
  split
  · exact plain_pure _
  · refine plain_get.bind fun s => ?_
    refine Plain.bind (plain_modify fun _ => .of_eq rfl rfl rfl) fun _ => ?_
    dsimp only
    -- one branch per action of the script, each with its own copy of what follows the answer
    split <;> simp only [pure_bind, Bool.false_eq_true, if_false, if_true]
    -- the answer writes the signal at most
    all_goals try refine Plain.bind (plain_modify fun _ => .of_eq rfl rfl rfl) fun _ => ?_
    -- then the unit may be terminated, and once more after an exit
    all_goals refine Plain.ite (Plain.bind (plain_terminate id) fun _ => ?_) ?_
    all_goals first
      | exact plain_pure _
      | exact plain_get.bind fun _ => Plain.ite (Plain.bind (plain_terminate id) fun _ => plain_pure _) (plain_pure _)

/-- A message posted through a played unit is recorded, an exit request with its code. -/
theorem posts_post {m : Machine} {id : String} (hs : m.Scripted id) (msg : Message) :
    m.Posts id ((post id msg).run m).2 (if msg.op = .exit then [msg.code] else []) := by
  obtain ⟨u, hu, hh⟩ := Option.map_eq_some_iff.mp hs
  have hpost : (post id msg).run m = (scripted (some id) msg).run m := by simp [post, hu, hh]
  have hpush : m.Posts id { m with script := { m.script with posted := m.script.posted.push msg } }
      (if msg.op = .exit then [msg.code] else []) :=
    ⟨hs, by by_cases hop : msg.op = .exit <;> simp [Machine.exitCodes, hop], le_rfl, fun _ hn => hn⟩
  rw [hpost]
  simpa using hpush.trans ((same_scripted id msg m).posts hpush.scripted)

end Act

namespace Prog

variable {α β : Type} {id : String} {L : List Int}

/-- Every run of `p` from a machine whose unit `id` is played posts exit
requests with the codes `L`, and keeps closed pipes closed. -/
def Posting (id : String) (L : List Int) (p : Prog α) : Prop :=
  ∀ ⦃m : Machine⦄ ⦃a : α⦄ ⦃m' : Machine⦄, m.Scripted id → Run id p m a m' → m.Posts id m' L

/-- Every run of `p` posts no exit request. -/
def Quiet (id : String) (p : Prog α) : Prop := Posting id [] p

theorem quiet_pure (a : α) : Quiet id (Prog.pure a) := fun _ _ _ hs h =>
  Machine.Posts.of_cuts (Run.pure_inv h).2 hs

theorem Posting.bind {L₁ L₂ : List Int} {p : Prog α} {g : α → Prog β} (hp : Posting id L₁ p)
    (hg : ∀ a, Posting id L₂ (g a)) : Posting id (L₁ ++ L₂) (p >>= g) := fun _ _ _ hs h => by
  obtain ⟨a, m₁, h₁, h₂⟩ := Run.bind_inv h
  have p₁ := hp hs h₁
  exact p₁.trans (hg a p₁.scripted h₂)

theorem Posting.quiet_bind {p : Prog α} {g : α → Prog β} (hp : Quiet id p) (hg : ∀ a, Posting id L (g a)) :
    Posting id L (p >>= g) := by
  simpa using Posting.bind hp hg

theorem Posting.bind_quiet {p : Prog α} {g : α → Prog β} (hp : Posting id L p) (hg : ∀ a, Quiet id (g a)) :
    Posting id L (p >>= g) := by
  simpa using Posting.bind hp hg

theorem Quiet.bind {p : Prog α} {g : α → Prog β} (hp : Quiet id p) (hg : ∀ a, Quiet id (g a)) :
    Quiet id (p >>= g) :=
  Posting.quiet_bind hp hg

theorem Posting.ite {c : Prop} [Decidable c] {p q : Prog α} (hp : Posting id L p) (hq : Posting id L q) :
    Posting id L (if c then p else q) := by
  split
  · exact hp
  · exact hq

/-- A single step that only ever makes changes an observer of exits does not see. -/
theorem quiet_step_pure {f : Machine → Attempt α} (hf : ∀ m a m₁, f m = .done a m₁ → m.Same m₁) :
    Quiet id (.step f .pure) := fun _ _ _ hs h => by
  obtain ⟨m₀, m₁, hc, hstep, hc'⟩ := Run.step_pure_inv h
  exact Machine.Posts.around hc hs (hf _ _ _ hstep).posts hc'

theorem quiet_atomic {f : Machine → β × Machine} (hf : ∀ m : Machine, m.Same (f m).2) : Quiet id (atomic f) :=
  quiet_step_pure fun m _ _ h => by
    simp only [Attempt.done.injEq] at h
    exact h.2 ▸ hf m

theorem quiet_change {f : Machine → Machine} (hf : ∀ m : Machine, m.Same (f m)) : Quiet id (change f) :=
  quiet_atomic hf

theorem quiet_read (f : Machine → β) : Quiet id (read f) := quiet_atomic Machine.Same.refl

theorem quiet_block {c : Ctx} {f : Machine → Option (β × Machine)} (w : Option Nat)
    (hf : ∀ m b m₁, f m = some (b, m₁) → m.Same m₁) : Quiet id (c.block f w) := fun _ _ _ hs h => by
  obtain ⟨m₀, hc, ⟨b, m₁, hfm, -, hc'⟩ | ⟨e, -, -, -, hc'⟩⟩ := Run.block_inv h
  · exact Machine.Posts.around hc hs (hf _ _ _ hfm).posts hc'
  · exact Machine.Posts.of_cuts (hc.trans hc') hs

end Prog

namespace Client

variable {c : Client} {id : String}

/-- A client of a played unit posts through it. -/
theorem posting_post (hc : c.poster = .unit id) (msg : Message) :
    Prog.Posting id (if msg.op = .exit then [msg.code] else []) (c.post msg) := fun _ _ _ hs h => by
  simp only [post, hc] at h
  obtain ⟨m₀, hc₀, -, hc₁⟩ := Prog.Run.act_inv h
  exact Machine.Posts.around hc₀ hs (fun hs₀ => Act.posts_post hs₀ msg) hc₁

theorem quiet_changeState (hc : c.poster = .unit id) (s : State) : Prog.Quiet id (c.changeState s) := by
  have h := posting_post hc { Message.of .changeState with pid := c.pid, state := s.name }
  rw [if_neg (by simp [Message.of])] at h
  exact h

theorem quiet_receive (op : Op) (sig : Nat) : Prog.Quiet id (c.receive op sig) := by
  unfold receive
  refine Prog.Quiet.bind (Prog.quiet_atomic fun _ => .of_eq rfl rfl rfl) fun r => ?_
  split
  · exact Prog.quiet_pure _
  · exact Prog.Posting.ite (Prog.quiet_pure _) (Prog.quiet_pure _)

theorem quiet_sleepOn (ctx : Ctx) (sig : Nat) : Prog.Quiet id (ctx.sleepOn sig) :=
  Prog.quiet_block none fun m _ _ h => by
    obtain ⟨s, -, h⟩ := Option.map_eq_some_iff.mp h
    cases h
    exact .of_eq rfl rfl rfl

/-- A call of a played unit's client posts its request and nothing else. -/
theorem posting_call (hc : c.poster = .unit id) (ctx : Ctx) (msg : Message) :
    Prog.Posting id (if msg.op = .exit then [msg.code] else []) (c.call ctx msg) := by
  unfold call
  -- a new signal for a caller without one, a report of sleeping, the post, the wait and the answer
  rcases c.signal with _ | s <;> dsimp only <;> refine Prog.Posting.quiet_bind ?_ fun sig => ?_
  all_goals first
    | exact Prog.quiet_pure _
    | exact Prog.quiet_atomic fun _ => .of_eq rfl rfl rfl
    | refine Prog.Posting.ite (Prog.Posting.quiet_bind (quiet_changeState hc _) fun _ => ?_) ?_
  all_goals refine Prog.Posting.bind_quiet (posting_post hc _) fun r => ?_
  all_goals split
  all_goals first
    | exact Prog.quiet_pure _
    | refine Prog.Quiet.bind (quiet_sleepOn ctx sig) fun r => ?_
  all_goals split
  all_goals first
    | exact Prog.quiet_pure _
    | exact Prog.Posting.ite (Prog.Quiet.bind (quiet_changeState hc _) fun _ => quiet_receive _ _) (quiet_receive _ _)

/-- An exit request posts its code. -/
theorem posting_exit (hc : c.poster = .unit id) (ctx : Ctx) (code : Int) :
    Prog.Posting id [code] (c.exit ctx code) := by
  unfold exit
  simpa [Message.of] using posting_call hc ctx { Message.of .exit with code := code }

end Client

end Userland
