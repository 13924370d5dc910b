import Userland.Proofs.Supervisor.View

namespace Userland

/-! # What one served item does to the view

Serving an item of the inbox runs a handler, or pairs an announced unit with a
pending process. Whatever the item, what changes in the view is one of a few
moves (`Move`): a process changes state, is started, reads another's output,
waits or is waited on, is created, is undone, ends, or is claimed by a unit.
Each handler's lemma below reads its code once and says which move it makes;
the invariants are then proved once per move, never by opening a handler again.
-/

namespace Machine

/-- The pipes of `m` and three new ones of capacity `c`: what opening the
channels of a new process leaves. -/
def withNewPipes (m : Machine) (c : Nat) : Array Ring :=
  ((m.pipes.push (Ring.new c)).push (Ring.new c)).push (Ring.new c)

@[simp] theorem size_withNewPipes (m : Machine) (c : Nat) : (m.withNewPipes c).size = m.pipes.size + 3 := by
  simp [withNewPipes]

/-- The view once process `r` has ended and its slot is gone from table `t`:
its waiters are released and its outputs closed. -/
def endedView (m : Machine) (r : Record) (t : Table) : View :=
  { table := t, pending := m.supervisor.pending, waiting := m.supervisor.waiting.filter (·.1 != r.pid),
    pipes := ((m.closePipe r.stdout).closePipe r.stderr).pipes, starts := m.startsSent }

/-- The start counts once unit `id` was sent the start message of process `p`. -/
def startsAfter (m : Machine) (id : String) (p : Nat) : String → Nat → Nat :=
  fun id' q => m.startsSent id' q + if id' = id ∧ q = p then 1 else 0

end Machine

/-- Whether the loop may serve an item in machine `m`: a request must not come
from a process that no unit runs yet, since only the host (whose pid names no
process) and units post requests; an announcement may always be served. -/
def Inbound.Admissible (m : Machine) : Inbound → Prop
  | .request msg => ∀ r, m.table.get? msg.pid = some r → r.registered
  | .announce _ => True

/-- Everything one served item can do to the view of the machine `m`, with the
guards the code checked on the way. -/
inductive Move (m : Machine) : View → Prop where
  /-- Nothing the invariants read changes. -/
  | calm : Move m m.view
  /-- A registered process moves itself to another state. -/
  | state {p : Int} {r : Record} {s : State} {t : Table} (hr : m.table.get? p = some r)
      (hreg : r.registered) (hs : m.table.setState p s = .ok t) : Move m { m.view with table := t }
  /-- Someone waits on a live process. -/
  | waits {target : Int} (w : Waiter) (hlive : (m.table.get? target).isSome) :
      Move m { m.view with waiting := (m.supervisor.addWaiter target.toNat w).waiting }
  /-- A new process has a slot and its three pipes, and waits for a unit. -/
  | created {spec : Spec} {ends : Endpoints} {now c : Nat} {r : Record} {t : Table}
      (sig : Option Nat) (hends : ends.stdout = m.pipes.size + 1 ∧ ends.stderr = m.pipes.size + 2)
      (ha : m.table.allocate spec ends now = .ok (r, t)) :
      Move m
        { m.view with
          table := t, pending := m.supervisor.pending ++ [⟨r.pid, sig⟩], pipes := m.withNewPipes c }
  /-- No unit could be spawned for a new process: its slot is freed again. -/
  | undone {spec : Spec} {ends : Endpoints} {now c : Nat} {r : Record} {t t' : Table}
      (ha : m.table.allocate spec ends now = .ok (r, t)) (hfree : t.free r.pid = .ok t') :
      Move m { m.view with table := t', pipes := m.withNewPipes c }
  /-- A registered process ends. -/
  | ended {r : Record} {t : Table} (hr : m.table.get? r.pid = some r) (hreg : r.registered)
      (hfree : m.table.free r.pid = .ok t) : Move m (m.endedView r t)
  /-- A process not started yet reads from another pipe. -/
  | piped {r : Record} (pipe : Nat) (hr : m.table.get? r.pid = some r) (hns : r.started = false) :
      Move m { m.view with table := m.table.put r.pid { r with stdin := pipe } }
  /-- A registered process is marked started; its unit was sent its start message if `sent`. -/
  | started {r : Record} {id : String} (sent : Bool) (hr : m.table.get? r.pid = some r)
      (hid : r.unit = some id) (hns : r.started = false) :
      Move m
        { m.view with
          table := m.table.put r.pid { r with started := true },
          starts := if sent then m.startsAfter id r.pid else m.startsSent }
  /-- An announced unit claims the oldest pending process. -/
  | registered {p : Pending} {rest : List Pending} {r : Record} (id : String)
      (hp : m.supervisor.pending = p :: rest) (hr : m.table.get? p.pid = some r)
      (hnone : r.unit = none) :
      Move m { m.view with pending := rest, table := m.table.put p.pid { r with unit := some id } }
  /-- An announced unit claims the oldest pending process and starts it. -/
  | registeredStarted {p : Pending} {rest : List Pending} {r : Record} (id : String) (sent : Bool)
      (hp : m.supervisor.pending = p :: rest) (hr : m.table.get? p.pid = some r)
      (hnone : r.unit = none) (hns : r.started = false) :
      Move m
        { m.view with
          pending := rest, table := m.table.put p.pid { r with unit := some id, started := true },
          starts := if sent then m.startsAfter id p.pid else m.startsSent }
  /-- The oldest pending process could not be claimed: it was gone or had a unit already. -/
  | unpaired {p : Pending} {rest : List Pending} (hp : m.supervisor.pending = p :: rest)
      (hfail : ∀ r, m.table.get? p.pid = some r → r.registered) :
      Move m { m.view with pending := rest }

namespace Machine

variable (m : Machine)

theorem addWaiter_waiting (s : Supervisor) (target : Nat) (w : Waiter) :
    (s.addWaiter target w).waiting =
      match s.waiting.lookup target with
      | some ws => s.waiting.map fun (t, l) => if t = target then (t, ws ++ [w]) else (t, l)
      | none => s.waiting ++ [(target, [w])] := by
  unfold Supervisor.addWaiter
  cases s.waiting.lookup target <;> rfl

/-- Adding a waiter changes the waiters and nothing else in the view. -/
theorem view_addWaiter (target : Nat) (w : Waiter) :
    { m with supervisor := m.supervisor.addWaiter target w }.view =
      { m.view with waiting := (m.supervisor.addWaiter target w).waiting } := by
  unfold Supervisor.addWaiter
  cases m.supervisor.waiting.lookup target <;> rfl

/-- What an ending leaves depends on the view of the machine it starts from. -/
theorem endedView_congr {m' : Machine} (h : m'.view = m.view) (r : Record) (t : Table) :
    m'.endedView r t = m.endedView r t := by
  have hp : m'.supervisor.pending = m.supervisor.pending := congrArg View.pending h
  have hw : m'.supervisor.waiting = m.supervisor.waiting := congrArg View.waiting h
  have hpi : m'.pipes = m.pipes := congrArg View.pipes h
  have hs : m'.startsSent = m.startsSent := congrArg View.starts h
  simp only [endedView, hp, hw, hs, pipes_closePipe_congr _ (pipes_closePipe_congr _ hpi _)]

end Machine

/-- A move depends on the view of the machine it starts from, and on nothing else. -/
theorem Move.congr {m m' : Machine} (h : m'.view = m.view) {v : View} (hv : Move m v) : Move m' v := by
  have ht : m'.table = m.table := congrArg View.table h
  have hp : m'.supervisor.pending = m.supervisor.pending := congrArg View.pending h
  have hw : m'.supervisor.waiting = m.supervisor.waiting := congrArg View.waiting h
  have hpi : m'.pipes = m.pipes := congrArg View.pipes h
  have hs : m'.startsSent = m.startsSent := congrArg View.starts h
  have hnew : ∀ c, m'.withNewPipes c = m.withNewPipes c := fun c => by
    simp only [Machine.withNewPipes, hpi]
  have hafter : ∀ id p, m'.startsAfter id p = m.startsAfter id p := fun id p => by
    unfold Machine.startsAfter
    rw [hs]
  cases hv with
  | calm => rw [← h]; exact .calm
  | state hr hreg hs' => rw [← h]; exact .state (ht ▸ hr) hreg (ht ▸ hs')
  | @waits target w hlive =>
    have hadd : (m.supervisor.addWaiter target.toNat w).waiting =
        (m'.supervisor.addWaiter target.toNat w).waiting := by
      rw [Machine.addWaiter_waiting, Machine.addWaiter_waiting, hw]
    rw [hadd, ← h]
    exact .waits w (ht ▸ hlive)
  | created sig hends ha =>
    rw [← hp, ← hnew, ← h]
    exact .created sig (hpi ▸ hends) (ht ▸ ha)
  | undone ha hfree => rw [← hnew, ← h]; exact .undone (ht ▸ ha) hfree
  | @ended r t hr hreg hfree =>
    rw [← Machine.endedView_congr _ h]
    exact .ended (ht ▸ hr) hreg (ht ▸ hfree)
  | piped pipe hr hns => rw [← ht, ← h]; exact .piped pipe (ht ▸ hr) hns
  | started sent hr hid hns =>
    rw [← ht, ← hafter, ← hs, ← h]
    exact .started sent (ht ▸ hr) hid hns
  | registered id hp' hr hnone =>
    rw [← ht, ← h]
    exact .registered id (hp ▸ hp') (ht ▸ hr) hnone
  | registeredStarted id sent hp' hr hnone hns =>
    rw [← ht, ← hafter, ← hs, ← h]
    exact .registeredStarted id sent (hp ▸ hp') (ht ▸ hr) hnone hns
  | unpaired hp' hfail => rw [← h]; exact .unpaired (hp ▸ hp') (ht ▸ hfail)

/-! ## The handlers

Each lemma reads one handler from top to bottom with the rules of `Ends`. The
shared assumption is that the table keeps its invariant: the handlers look a
process up by a number and then act on the number the record carries. -/

namespace Act

variable {m : Machine} (hwf : m.table.Wf)

theorem ends_changeState (msg : Message)
    (hsender : ∀ r, m.table.get? msg.pid = some r → r.registered) :
    Ends (changeState msg) m (Move m) := by
  unfold changeState
  cases State.ofName? msg.state with
  | none => exact Ends.pure _ .calm
  | some s =>
    refine Ends.get_bind ?_
    cases hs : m.table.setState msg.pid s with
    | error f => exact Ends.pure _ .calm
    | ok t =>
      obtain ⟨r, -, hr, -⟩ := Table.setStateNamed_moves hs
      exact Ends.modify_bind (Ends.pure _ (.state hr (hsender r hr) hs))

theorem ends_wait (msg : Message) : Ends (wait msg) m (Move m) := by
  unfold wait
  cases msg.signal with
  | none => exact Ends.pure _ .calm
  | some sig =>
    refine Ends.get_bind (Ends.ite (fun _ => Ends.pure _ .calm)
      fun _ => Ends.ite (fun _ => Ends.pure _ .calm) fun hlive => ?_)
    refine Ends.modify_bind (Ends.calm
      (calm_get_bind fun m' => ((calm_log _ _ _).bind fun _ => calm_pure _) m') ?_)
    rw [Machine.view_addWaiter]
    exact .waits ⟨msg.pid, sig⟩
      (by simpa [Option.isNone_iff_eq_none, Option.isSome_iff_ne_none] using hlive)

/-- Ending a live process frees its slot, releases its waiters and closes its outputs. -/
theorem ends_finish {r : Record} (hr : m.table.get? r.pid = some r) (code : Int) (reason : String) :
    ∃ t, m.table.free r.pid = .ok t ∧ Ends (finish r code reason) m (· = m.endedView r t) := by
  obtain ⟨t, ht⟩ : ∃ t, m.table.free r.pid = .ok t := ⟨_, Table.free_of_get? hr⟩
  refine ⟨t, ht, ?_⟩
  unfold finish
  -- marking the process terminating leaves its slot to be freed as before
  refine Ends.modify_bind (Ends.of_state
    (fun m₁ => m₁.table.free r.pid = .ok t ∧ m₁.view = { m.view with table := m₁.table }) ?_
    fun m₁ ⟨hfree₁, hv₁⟩ => ?_)
  · cases hs : m.table.setState r.pid .terminating with
    | error e => exact ⟨ht, rfl⟩
    | ok t₀ => exact ⟨(Table.free_of_update hs).trans ht, rfl⟩
  refine Ends.get_bind ?_
  rw [hfree₁]
  -- answering the waiters is calm
  refine Ends.modify_bind (Ends.get_bind (Ends.modify_bind
    (Ends.calm_bind (Calm.forIn _ _ fun w _ => ?_) fun m₄ hv₄ _ => ?_)))
  · exact calm_get_bind fun m' =>
      (Calm.ite ((calm_reply _ _).bind fun _ => calm_pure _) ((calm_log _ _ _).bind fun _ => calm_pure _)) m'
  refine Ends.modify_bind (Ends.calm ((calm_log _ _ _).bind fun _ => calm_measureLive.bind fun _ =>
    (calm_measure _).bind fun _ => calm_modify fun _ => rfl) ?_)
  have hv : m₄.view = { m.view with table := t, waiting := m.supervisor.waiting.filter (·.1 != r.pid) } := by
    rw [hv₄]
    have hw : m₁.supervisor.waiting = m.supervisor.waiting := congrArg View.waiting hv₁
    exact (show _ = { m₁.view with table := t, waiting := m₁.supervisor.waiting.filter (·.1 != r.pid) }
      from rfl).trans (by rw [hv₁, hw])
  have hp₄ : m₄.pipes = m.pipes := congrArg View.pipes hv
  rw [Machine.view_closePipe, Machine.view_closePipe, hv,
    Machine.pipes_closePipe_congr _ (Machine.pipes_closePipe_congr _ hp₄ _)]
  rfl

include hwf in
theorem ends_kill (msg : Message) : Ends (kill msg) m (Move m) := by
  unfold kill
  refine Ends.get_bind ?_
  cases hr : m.table.get? msg.target with
  | none => exact Ends.pure _ .calm
  | some r =>
    dsimp only
    cases hu : r.unit with
    | none => exact Ends.pure _ .calm
    | some id =>
      -- terminating the unit is calm; the process then ends
      refine Ends.calm_bind (calm_terminate id) fun m₁ hv₁ _ => Ends.bind (Ends.pure _ ?_)
      have ht₁ : m₁.table = m.table := congrArg View.table hv₁
      have hr₁ : m₁.table.get? r.pid = some r := by rw [ht₁]; exact hwf.get?_pid hr
      obtain ⟨t, hfree, hend⟩ := ends_finish hr₁ 137 "kill"
      rw [show ((finish r 137 "kill").run m₁).2.view = m₁.endedView r t from hend]
      exact Move.congr hv₁.symm (.ended hr₁ (by simp [Record.registered, hu]) hfree)

include hwf in
/-- An exit request ends the process that holds the number it carries, whichever
unit sent it. -/
theorem exit_ends_holder (msg : Message) {r : Record} (hr : m.table.get? msg.pid = some r) :
    ∃ t, m.table.free r.pid = .ok t ∧ Ends (exit msg) m (· = m.endedView r t) := by
  obtain ⟨t, hfree, hend⟩ := ends_finish (hwf.get?_pid hr) msg.code "exit"
  refine ⟨t, hfree, ?_⟩
  unfold exit
  refine Ends.get_bind ?_
  rw [hr]
  -- after the process ended, its answer and its unit's end are calm
  refine Ends.bind (Ends.calm ((calm_reply _ _).bind fun _ => ?_) hend)
  cases r.unit with
  | none => exact calm_pure _
  | some id => exact (calm_terminate id).bind fun _ => calm_pure _

include hwf in
theorem ends_exit (msg : Message) (hsender : ∀ r, m.table.get? msg.pid = some r → r.registered) :
    Ends (exit msg) m (Move m) := by
  cases hr : m.table.get? msg.pid with
  | none =>
    unfold exit
    refine Ends.get_bind ?_
    rw [hr]
    exact Ends.pure _ .calm
  | some r =>
    obtain ⟨t, hfree, hend⟩ := exit_ends_holder hwf msg hr
    unfold Ends at hend ⊢
    rw [hend]
    exact .ended (hwf.get?_pid hr) (hsender r hr) hfree

include hwf in
theorem ends_pipe (msg : Message) : Ends (pipe msg) m (Move m) := by
  unfold pipe
  refine Ends.get_bind ?_
  dsimp only
  cases m.table.get? msg.outPid with
  | none => exact Ends.pure _ .calm
  | some o =>
    cases m.table.get? msg.inPid with
    | none => exact Ends.pure _ .calm
    | some i =>
      dsimp only
      refine Ends.ite (fun _ => Ends.pure _ .calm) fun _ => Ends.ite (fun _ => Ends.pure _ .calm) fun _ => ?_
      split
      · exact Ends.pure _ .calm
      · rename_i t hu
        obtain ⟨r, r', hr, hf, rfl⟩ := Table.update_eq_ok_iff.mp hu
        -- the update refuses a process that was started
        obtain ⟨hns, rfl⟩ : r.started = false ∧ r' = { r with stdin := o.stdout } := by
          split at hf
          · cases hf
          · cases hf
            exact ⟨by simpa using ‹¬r.started = true›, rfl⟩
        refine Ends.modify_bind (Ends.calm ((calm_log _ _ _).bind fun _ => calm_pure _) ?_)
        have hput : m.table.put i.pid { r with stdin := o.stdout } =
            m.table.put r.pid { r with stdin := o.stdout } := by
          rw [hwf.pid_of_get? hr]
        show Move m { m.view with table := m.table.put i.pid { r with stdin := o.stdout } }
        rw [hput]
        exact .piped o.stdout (hwf.get?_pid hr) hns

/-- Starting a live process marks it started, once: a process already started,
or with no unit, is refused. Its unit is then sent the start message, which may fail. -/
theorem ends_start {r : Record} (hr : m.table.get? r.pid = some r) :
    Ends (start r) m fun v => v = m.view ∨ ∃ (id : String) (sent : Bool), r.unit = some id ∧ r.started = false ∧
      v = { m.view with
            table := m.table.put r.pid { r with started := true },
            starts := if sent then m.startsAfter id r.pid else m.startsSent } := by
  unfold start
  cases hu : r.unit with
  | none => exact Ends.pure _ (.inl rfl)
  | some id =>
    refine Ends.get_bind ?_
    dsimp only
    split
    · exact Ends.pure _ (.inl rfl)
    · rename_i t hup
      obtain ⟨r₀, r', hr₀, hf, rfl⟩ := Table.update_eq_ok_iff.mp hup
      rw [hr] at hr₀
      cases hr₀
      obtain ⟨hns, rfl⟩ : r.started = false ∧ r' = { r with started := true } := by
        split at hf
        · cases hf
        · cases hf
          exact ⟨by simpa using ‹¬r.started = true›, rfl⟩
      refine Ends.modify_bind (Ends.get_bind (Ends.get_bind ?_))
      -- the record read back is the one just marked
      have hback : (m.table.put r.pid { r with started := true }).get? r.pid =
          some { r with started := true } := by
        rw [Table.get?_put hr]
        simp
      rw [Machine.table_setTable, hback, Option.getD_some]
      split
      · rename_i m' hsend
        refine Ends.set_bind (Ends.pure _ (.inr ⟨id, true, rfl, hns, ?_⟩))
        rw [Machine.view_of_sendTo _ hsend, hu]
        refine View.ext rfl rfl rfl rfl ?_
        funext id' q
        by_cases hq : q = r.pid
        · subst hq
          simp [Machine.startsAfter, Message.startsPid, Message.of, payloadOf]
          rfl
        · have hq' : r.pid ≠ q := Ne.symm hq
          simp [Machine.startsAfter, Message.startsPid, Message.of, payloadOf, hq, hq']
          rfl
      · -- a failed delivery is only noted
        refine Ends.get_bind (Ends.calm (Calm.ite ((calm_modify fun m' => m'.view_note ?_).bind
          fun _ => calm_pure _) (calm_pure _)) (.inr ⟨id, false, rfl, hns, by rw [hu]; rfl⟩))
        intro _ _
        rfl

include hwf in
theorem ends_startTarget (msg : Message) : Ends (startTarget msg) m (Move m) := by
  unfold startTarget
  refine Ends.get_bind ?_
  cases hr : m.table.get? msg.target with
  | none => exact Ends.pure _ .calm
  | some r =>
    have hr' := hwf.get?_pid hr
    refine Ends.bind ?_
    -- the answer depends on whether the start was refused; the view does not
    have hmove : Move m ((start r).run m).2.view := by
      rcases ends_start hr' with h | ⟨id, sent, hid, hns, h⟩
      · rw [h]; exact .calm
      · rw [h]; exact .started sent hr' hid hns
    split <;> exact Ends.pure _ hmove

theorem allocate_eq_error {t : Table} {spec : Spec} {ends : Endpoints} {now : Nat} {f : Fault}
    (h : t.allocate spec ends now = .error f) : t.firstFree? = none := by
  unfold Table.allocate at h
  split at h
  · assumption
  · cases h

variable (m) in
theorem run_openChannels :
    ∃ c, (openChannels.run m).1 =
        ⟨m.pipes.size, m.pipes.size + 1, m.pipes.size + 2, m.signals.size⟩ ∧
      (openChannels.run m).2.view = { m.view with pipes := m.withNewPipes c } := by
  refine ⟨m.supervisor.config.pipeSize, ?_, ?_⟩ <;>
    simp only [openChannels, run_bind, run_get, run_modifyGet, run_pure, Machine.newPipe,
      Machine.newSignal, Array.size_push]
  rfl

include hwf in
/-- A creation is refused before it opens anything, or it opens the channels of
a new process and takes a slot; the process then waits for its unit, or, when no
unit can be spawned, gives its slot back. -/
theorem ends_create (caller : Int) (req : CreateRequest) (sig : Option Nat) :
    Ends (create caller req sig) m (Move m) := by
  unfold create
  refine Ends.get_bind ?_
  refine Ends.ite (fun _ => Ends.pure _ .calm) fun _ => ?_
  refine Ends.ite (fun _ => Ends.pure _ .calm) fun _ => ?_
  -- loading the program reads the file system only
  refine Ends.calm_bind (calm_load _) fun m₁ hv₁ loaded => ?_
  have ht₁ : m₁.table = m.table := congrArg View.table hv₁
  have hp₁ : m₁.pipes = m.pipes := congrArg View.pipes hv₁
  cases loaded with
  | crashed => exact Ends.pure _ (hv₁ ▸ .calm)
  | failed f => exact Ends.pure _ (hv₁ ▸ .calm)
  | source source =>
    refine Ends.get_bind (Ends.ite (fun _ => Ends.pure _ (hv₁ ▸ .calm)) fun hfree => ?_)
    refine Ends.bind ?_
    obtain ⟨c, hends, hv₂⟩ := run_openChannels m₁
    rw [hends]
    generalize (openChannels.run m₁).2 = m₂ at hv₂
    have ht₂ : m₂.table = m.table := (congrArg View.table hv₂).trans ht₁
    refine Ends.get_bind ?_
    rw [ht₂]
    split
    · -- the slot seen free a moment ago is still there
      rename_i f ha
      rw [ht₁, allocate_eq_error ha] at hfree
      exact absurd rfl hfree
    · rename_i r t ha
      have hP : m₂.supervisor.pending = m.supervisor.pending :=
        (congrArg View.pending hv₂).trans (congrArg View.pending hv₁)
      have hW : m₂.supervisor.waiting = m.supervisor.waiting :=
        (congrArg View.waiting hv₂).trans (congrArg View.waiting hv₁)
      have hS : m₂.startsSent = m.startsSent :=
        (congrArg View.starts hv₂).trans (congrArg View.starts hv₁)
      have hPi : m₂.pipes = m.withNewPipes c :=
        (congrArg View.pipes hv₂).trans (by simp only [Machine.withNewPipes, hp₁])
      have hends' : (⟨m₁.pipes.size, m₁.pipes.size + 1, m₁.pipes.size + 2, m₁.signals.size⟩ :
          Endpoints).stdout = m.pipes.size + 1 ∧
          (⟨m₁.pipes.size, m₁.pipes.size + 1, m₁.pipes.size + 2, m₁.signals.size⟩ : Endpoints).stderr =
            m.pipes.size + 2 := by
        simp [hp₁]
      -- the new process is allocated and queued for a unit; spawning one is calm
      refine Ends.set_bind (Ends.calm_bind calm_spawn fun m₄ hv₄ res => ?_)
      have hv₃ : m₄.view = { m.view with
          table := t, pending := m.supervisor.pending ++ [⟨r.pid, sig⟩], pipes := m.withNewPipes c } := by
        rw [hv₄]
        exact View.ext rfl (congrArg (· ++ [({ pid := r.pid, signal := sig } : Pending)]) hP) hW hPi hS
      cases res with
      | error f =>
        -- no unit: the pending entry is dropped and the slot freed again
        obtain ⟨-, -, -, -, -, -, -, hget⟩ := hwf.get?_of_allocate ha
        obtain ⟨t', hfree⟩ : ∃ t', t.free r.pid = .ok t' :=
          ⟨_, Table.free_of_get? (r := r) (by rw [hget, if_pos rfl])⟩
        refine Ends.modify_bind (Ends.of_state
          (fun m₅ => m₅.view = { m.view with table := t, pipes := m.withNewPipes c }) ?_
          fun m₅ hv₅ => Ends.modify_bind (Ends.pure _ ?_))
        · have hp₄ : m₄.supervisor.pending = m.supervisor.pending ++ [⟨r.pid, sig⟩] :=
            congrArg View.pending hv₃
          have hw₄ : m₄.supervisor.waiting = m.supervisor.waiting := congrArg View.waiting hv₃
          have hpi₄ : m₄.pipes = m.withNewPipes c := congrArg View.pipes hv₃
          have hs₄ : m₄.startsSent = m.startsSent := congrArg View.starts hv₃
          have ht₄ : m₄.table = t := congrArg View.table hv₃
          exact View.ext ht₄ (by rw [hp₄]; exact List.dropLast_concat) hw₄ hpi₄ hs₄
        · have ht₅ : m₅.table = t := congrArg View.table hv₅
          rw [ht₅, hfree, Machine.view_setTable, hv₅]
          exact .undone ha hfree
      | ok id =>
        refine Ends.calm (calm_measurePending.bind fun _ => calm_measureLive.bind fun _ =>
          (calm_measure _).bind fun _ => (calm_log _ _ _).bind fun _ => calm_pure _) ?_
        rw [hv₃]
        exact .created sig hends' ha

include hwf in
theorem ends_handlerFor {msg : Message} {h : Act Outcome} (hh : handlerFor msg = some h)
    (hsender : ∀ r, m.table.get? msg.pid = some r → r.registered) : Ends h m (Move m) := by
  unfold handlerFor at hh
  split at hh <;> cases hh
  · exact ends_changeState msg hsender
  · exact ends_wait msg
  · split
    · exact ends_create hwf _ _ _
    · exact Ends.pure _ .calm
  · exact ends_kill hwf msg
  · exact Ends.calm calm_list .calm
  · exact ends_pipe hwf msg
  · exact ends_startTarget hwf msg
  · exact ends_exit hwf msg hsender

/-- Answering and counting a request, whatever its outcome, is calm. -/
theorem calm_answer (msg : Message) (op : String) (o : Outcome) : Calm (answer msg op o) := by
  cases o with
  | deferred => exact calm_measure _
  | answer r => exact (calm_reply _ _).bind fun _ => calm_measure _
  | refused f => exact (calm_log _ _ _).bind fun _ => (calm_reply _ _).bind fun _ => calm_measure _
  | crashed => exact (calm_log _ _ _).bind fun _ => (calm_reply _ _).bind fun _ => calm_measure _

/-- A request with a handler ends where its handler ends, run from the machine
the loop logged it on: logging, answering and counting change no view. -/
theorem Ends.dispatch_handler {msg : Message} {h : Act Outcome} (hh : handlerFor msg = some h)
    {Q : View → Prop} (hQ : ∀ m₁ : Machine, m₁.view = m.view → Ends h m₁ Q) : Ends (dispatch msg) m Q := by
  unfold dispatch
  rw [hh]
  exact Ends.calm_bind (calm_log _ _ _) fun m₁ hv₁ _ =>
    Ends.bind (Ends.calm (calm_answer _ _ _) (hQ m₁ hv₁))

include hwf in
theorem ends_dispatch (msg : Message) (hsender : ∀ r, m.table.get? msg.pid = some r → r.registered) :
    Ends (dispatch msg) m (Move m) := by
  cases hh : handlerFor msg with
  | none =>
    unfold dispatch
    rw [hh]
    exact Ends.calm (calm_forward msg) .calm
  | some h =>
    refine Ends.dispatch_handler hh fun m₁ hv₁ => ?_
    have ht₁ : m₁.table = m.table := congrArg View.table hv₁
    exact Move.congr hv₁.symm (ends_handlerFor (ht₁ ▸ hwf) hh (ht₁ ▸ hsender))

include hwf in
/-- An announced unit claims the oldest pending process, if there is one, and
starts it when it was created to start. -/
theorem ends_register (id : String) : Ends (register id) m (Move m) := by
  unfold register
  refine Ends.get_bind ?_
  cases hp : m.supervisor.pending with
  | nil => exact Ends.calm ((calm_log _ _ _).bind fun _ => calm_terminate id) .calm
  | cons p rest =>
    -- the entry is taken first; counting and installing the unit's handler are calm
    refine Ends.modify_bind (Ends.calm_bind calm_measurePending fun m₁ hv₁ _ =>
      Ends.modify_bind (Ends.get_bind ?_))
    have hv₂ : (m₁.installHandler id (.supervisor p.pid)).view = { m.view with pending := rest } :=
      (Machine.view_installHandler _ _ _).trans hv₁
    generalize m₁.installHandler id (.supervisor p.pid) = m₂ at hv₂ ⊢
    have ht₂ : m₂.table = m.table := congrArg View.table hv₂
    rw [ht₂]
    cases hreg : m.table.register p.pid id with
    | error f =>
      -- the process was gone or had a unit: the entry is dropped all the same
      refine Ends.calm ((calm_log _ _ _).bind fun _ => (calm_terminate id).bind fun _ => calm_reply _ _) ?_
      rw [hv₂]
      refine .unpaired hp fun r hr => ?_
      cases hu : r.unit with
      | none => rw [Table.register_of_none hr hu] at hreg; cases hreg
      | some u => simp [Record.registered, hu]
    | ok t =>
      obtain ⟨r, hr, hnone, rfl⟩ := Table.register_eq_ok hreg
      have hpid : (r.pid : Int) = p.pid := hwf.pid_of_get? hr
      dsimp only
      refine Ends.modify_bind (Ends.get_bind ?_)
      have hv₃ : (m₂.setTable (m.table.put p.pid { r with unit := some id })).view =
          { m.view with pending := rest, table := m.table.put p.pid { r with unit := some id } } := by
        rw [Machine.view_setTable, hv₂]
      generalize m₂.setTable (m.table.put p.pid { r with unit := some id }) = m₃ at hv₃
      have ht₃ : m₃.table = m.table.put p.pid { r with unit := some id } := congrArg View.table hv₃
      -- the registered record, read back
      have hr₃ : m₃.table.get? p.pid = some { r with unit := some id } := by
        rw [ht₃, Table.get?_put hr, if_pos rfl]
      rw [hr₃]
      dsimp only
      have hreg' : Move m m₃.view := by
        rw [hv₃]
        exact .registered id hp hr hnone
      refine Ends.ite (fun _ => Ends.bind (Ends.calm ?tail ?_))
        fun _ => Ends.bind (Ends.calm ?tail' hreg')
      -- what follows the start, or its absence, only logs and answers
      case tail | tail' =>
        intro m'
        split
        · exact (calm_log _ _ _).bind (fun _ => (calm_log _ _ _).bind fun _ => calm_reply _ _) m'
        · exact (calm_log _ _ _).bind (fun _ => calm_reply _ _) m'
      have hr₃' : m₃.table.get? ({ r with unit := some id } : Record).pid =
          some { r with unit := some id } := by
        rw [show (({ r with unit := some id } : Record).pid : Int) = p.pid from hpid]
        exact hr₃
      rcases ends_start hr₃' with h | ⟨id', sent, hid, hns, h⟩
      · rw [h]
        exact hreg'
      · rw [h, hv₃]
        cases hid
        have hs₃ : m₃.startsSent = m.startsSent := congrArg View.starts hv₃
        have hsa : m₃.startsAfter id r.pid = m.startsAfter id p.pid := by
          have hpidN : r.pid = p.pid := by exact_mod_cast hpid
          unfold Machine.startsAfter
          rw [hs₃, hpidN]
        have htab : m₃.table.put r.pid { r with unit := some id, started := true } =
            m.table.put p.pid { r with unit := some id, started := true } := by
          rw [ht₃, hpid, Table.put_put]
        dsimp only at htab hsa ⊢
        rw [htab, hsa, hs₃]
        exact .registeredStarted id sent hp hr hnone hns

include hwf in
/-- Serving the head of the inbox makes one move, when the head is admissible. -/
theorem ends_serveOne {item : Inbound} {rest : List Inbound} (hin : m.supervisor.inbox = item :: rest)
    (hitem : item.Admissible m) : Ends serveOne m (Move m) := by
  unfold serveOne
  refine Ends.get_bind ?_
  rw [hin]
  -- taking the item off the inbox changes nothing the view reads
  refine Ends.modify_bind (Ends.of_state (·.view = m.view) rfl fun m₁ hv₁ => ?_)
  have ht₁ : m₁.table = m.table := congrArg View.table hv₁
  cases item with
  | request msg => exact Ends.bind (Move.congr hv₁.symm (ends_dispatch (ht₁ ▸ hwf) msg (ht₁ ▸ hitem)))
  | announce id => exact Ends.bind (Move.congr hv₁.symm (ends_register (ht₁ ▸ hwf) id))

end Act

end Userland
