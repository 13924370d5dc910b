import Userland.Proofs.Process.Alike
import Userland.Proofs.Supervisor.Answers

/-! # A refused request changes nothing the manager shows

The loop answers a request with an error code when its handler refuses it or
crashes. What the manager shows is its view: the table, the processes waiting
for a unit, the waiters, the pipes and the start messages sent. A refusal
leaves a view alike to the one before (`View.Alike`): alike tables (the same
records, the same next number handed out, whatever the cursor), the same
pending processes and waiters, every pipe as it was, no start message sent.

Most handlers refuse before they change anything. Two refuse after a change:

* a creation whose unit cannot be spawned has taken a slot and queued the new
  process; it takes both back, and freeing the slot moves the cursor onto the
  number the next creation takes anyway (`Table.Wf.alike_allocate_free`);
* a start marks its target started before the start message is sent, and a
  unit that refuses the message leaves the target marked: it is never sent
  the message and can no longer be started.

`refused_request_keeps_view` states it for every core request.
-/

namespace Userland

/-- Whether the loop answers an outcome with an error code: a refusal, or a crash. -/
def Outcome.isRefusal : Outcome → Bool
  | .refused _ | .crashed => true
  | .answer _ | .deferred => false

namespace View

/-- Two views that show the same: alike tables, the same processes waiting for
a unit and the same waiters, every pipe of the first as it was (the second may
have more), and the same start messages sent. -/
structure Alike (v v' : View) : Prop where
  table : v.table.Alike v'.table
  pending : v'.pending = v.pending
  waiting : v'.waiting = v.waiting
  pipes : v.pipes.toList <+: v'.pipes.toList
  starts : v'.starts = v.starts

theorem Alike.of_eq {v v' : View} (h : v' = v) : v.Alike v' := by
  subst h
  exact ⟨.refl _, rfl, rfl, List.prefix_refl _, rfl⟩

end View

namespace Act

variable {α β : Type} {m : Machine} {P : β → Machine → Prop}

/-- A calm action may be skipped when what follows is judged by the view alone. -/
theorem Runs.calm_bind {x : Act α} {f : α → Act β} (hx : Calm x)
    (h : ∀ m₁, m₁.view = m.view → ∀ a, Runs (f a) m₁ P) : Runs (x >>= f) m P :=
  h _ (hx m) _

/-- Whatever the first action does, when the rest holds from anywhere. -/
theorem Runs.bind_any {x : Act α} {f : α → Act β} (h : ∀ a m₁, Runs (f a) m₁ P) :
    Runs (x >>= f) m P :=
  h _ _

/-- Run the first action, then go on from what it returned and where it ended. -/
theorem Runs.bind_run {x : Act α} {f : α → Act β} (h : Runs (f (x.run m).1) (x.run m).2 P) :
    Runs (x >>= f) m P :=
  h

/-- An outcome that is no refusal asks nothing of where it ends. -/
theorem Runs.not_refused {Q : Machine → Prop} {o : Outcome} (ho : o.isRefusal = false) :
    Runs (Pure.pure o : Act Outcome) m fun o m' => o.isRefusal = true → Q m' :=
  Runs.pure o fun h => absurd (ho.symm.trans h) Bool.false_ne_true

/-- A handler whose refusals from `m` leave a view alike to `m`'s. -/
def KeepsOnRefusal (a : Act Outcome) (m : Machine) : Prop :=
  Runs a m fun o m' => o.isRefusal = true → m.view.Alike m'.view

/-- A refusal before any change keeps the view. -/
theorem keepsOnRefusal_refuse (o : Outcome) : KeepsOnRefusal (pure o) m :=
  Runs.pure o fun _ => .of_eq rfl

/-! ## Handlers that refuse before they change anything -/

theorem keepsOnRefusal_changeState (msg : Message) : KeepsOnRefusal (changeState msg) m := by
  unfold changeState
  cases State.ofName? msg.state with
  | none => exact keepsOnRefusal_refuse _
  | some s =>
    refine Runs.get_bind ?_
    cases m.table.setState msg.pid s with
    | error f => exact keepsOnRefusal_refuse _
    | ok t => exact Runs.modify_bind (Runs.not_refused rfl)

theorem keepsOnRefusal_wait (msg : Message) : KeepsOnRefusal (wait msg) m := by
  unfold wait
  cases msg.signal with
  | none => exact keepsOnRefusal_refuse _
  | some sig =>
    refine Runs.get_bind (Runs.ite (fun _ => keepsOnRefusal_refuse _)
      fun _ => Runs.ite (fun _ => keepsOnRefusal_refuse _) fun _ => ?_)
    -- the waiter is filed and the answer owed: no refusal
    exact Runs.modify_bind (Runs.get_bind (Runs.bind_any fun _ _ => Runs.not_refused rfl))

theorem keepsOnRefusal_kill (msg : Message) : KeepsOnRefusal (kill msg) m := by
  unfold kill
  refine Runs.get_bind ?_
  cases m.table.get? msg.target with
  | none => exact keepsOnRefusal_refuse _
  | some r =>
    dsimp only
    cases r.unit with
    | none => exact keepsOnRefusal_refuse _
    | some id => exact Runs.bind_any fun _ _ => Runs.bind_any fun _ _ => Runs.not_refused rfl

theorem keepsOnRefusal_list : KeepsOnRefusal list m :=
  Runs.get_bind (Runs.not_refused rfl)

theorem keepsOnRefusal_pipe (msg : Message) : KeepsOnRefusal (pipe msg) m := by
  unfold pipe
  refine Runs.get_bind ?_
  dsimp only
  cases m.table.get? msg.outPid with
  | none => exact keepsOnRefusal_refuse _
  | some o =>
    cases m.table.get? msg.inPid with
    | none => exact keepsOnRefusal_refuse _
    | some i =>
      dsimp only
      refine Runs.ite (fun _ => keepsOnRefusal_refuse _)
        fun _ => Runs.ite (fun _ => keepsOnRefusal_refuse _) fun _ => ?_
      split
      · exact keepsOnRefusal_refuse _
      · exact Runs.modify_bind (Runs.bind_any fun _ _ => Runs.not_refused rfl)

theorem keepsOnRefusal_exit (msg : Message) : KeepsOnRefusal (exit msg) m := by
  unfold exit
  refine Runs.get_bind ?_
  cases m.table.get? msg.pid with
  | none => exact keepsOnRefusal_refuse _
  | some r =>
    refine Runs.bind_any fun _ _ => Runs.bind_any fun _ _ => ?_
    cases r.unit with
    | none => exact Runs.not_refused rfl
    | some id => exact Runs.bind_any fun _ _ => Runs.not_refused rfl

/-! ## A creation takes back what it took -/

variable (hwf : m.table.Wf)

include hwf in
/-- A creation refused after its slot was taken, because no unit could be
spawned, drops the new process from the queue and frees its slot again. -/
theorem keepsOnRefusal_create (caller : Int) (req : CreateRequest) (sig : Option Nat) :
    KeepsOnRefusal (create caller req sig) m := by
  unfold create
  refine Runs.get_bind ?_
  refine Runs.ite (fun _ => keepsOnRefusal_refuse _) fun _ => ?_
  refine Runs.ite (fun _ => keepsOnRefusal_refuse _) fun _ => ?_
  -- loading the program reads the file system only
  refine Runs.calm_bind (calm_load _) fun m₁ hv₁ loaded => ?_
  have ht₁ : m₁.table = m.table := congrArg View.table hv₁
  cases loaded with
  | crashed => exact Runs.pure _ fun _ => .of_eq hv₁
  | failed f => exact Runs.pure _ fun _ => .of_eq hv₁
  | source source =>
    refine Runs.get_bind (Runs.ite (fun _ => Runs.pure _ fun _ => .of_eq hv₁) fun hfree => ?_)
    refine Runs.bind_run ?_
    obtain ⟨c, hends, hv₂⟩ := run_openChannels m₁
    rw [hends]
    generalize (openChannels.run m₁).2 = m₂ at hv₂
    have ht₂ : m₂.table = m.table := (congrArg View.table hv₂).trans ht₁
    refine Runs.get_bind ?_
    rw [ht₂]
    split
    · -- the slot seen free a moment ago is still there
      rename_i f ha
      rw [ht₁, allocate_eq_error ha] at hfree
      exact absurd rfl hfree
    · rename_i r t ha
      refine Runs.set_bind (Runs.calm_bind calm_spawn fun m₄ hv₄ res => ?_)
      cases res with
      | ok id =>
        exact Runs.bind_any fun _ _ => Runs.bind_any fun _ _ => Runs.bind_any fun _ _ =>
          Runs.bind_any fun _ _ => Runs.not_refused rfl
      | error f =>
        -- no unit: the new process leaves the queue and its slot is freed
        obtain ⟨-, -, -, -, -, -, -, hget⟩ := hwf.get?_of_allocate ha
        obtain ⟨t', hfree'⟩ : ∃ t', t.free r.pid = .ok t' :=
          ⟨_, Table.free_of_get? (r := r) (by rw [hget, if_pos rfl])⟩
        have hp₁ : m₁.pipes = m.pipes := congrArg View.pipes hv₁
        have hP : m₂.supervisor.pending = m.supervisor.pending :=
          (congrArg View.pending hv₂).trans (congrArg View.pending hv₁)
        have hW : m₂.supervisor.waiting = m.supervisor.waiting :=
          (congrArg View.waiting hv₂).trans (congrArg View.waiting hv₁)
        have hS : m₂.startsSent = m.startsSent :=
          (congrArg View.starts hv₂).trans (congrArg View.starts hv₁)
        have hPi : m₂.pipes = m.withNewPipes c :=
          (congrArg View.pipes hv₂).trans (by simp only [Machine.withNewPipes, hp₁])
        have hv₃ : m₄.view = { m.view with
            table := t, pending := m.supervisor.pending ++ [⟨r.pid, sig⟩], pipes := m.withNewPipes c } := by
          rw [hv₄]
          exact View.ext rfl (congrArg (· ++ [({ pid := r.pid, signal := sig } : Pending)]) hP) hW hPi hS
        refine Runs.modify_bind (Runs.of_state
          (fun m₅ => m₅.view = { m.view with table := t, pipes := m.withNewPipes c }) ?_
          fun m₅ hv₅ => Runs.modify_bind (Runs.pure _ fun _ => ?_))
        · have hp₄ : m₄.supervisor.pending = m.supervisor.pending ++ [⟨r.pid, sig⟩] :=
            congrArg View.pending hv₃
          have ht₄ : m₄.table = t := congrArg View.table hv₃
          have hw₄ : m₄.supervisor.waiting = m.supervisor.waiting := congrArg View.waiting hv₃
          have hpi₄ : m₄.pipes = m.withNewPipes c := congrArg View.pipes hv₃
          have hs₄ : m₄.startsSent = m.startsSent := congrArg View.starts hv₃
          exact View.ext ht₄ (by rw [hp₄]; exact List.dropLast_concat) hw₄ hpi₄ hs₄
        · have ht₅ : m₅.table = t := congrArg View.table hv₅
          rw [ht₅, hfree', Machine.view_setTable, hv₅]
          refine ⟨hwf.alike_allocate_free ha hfree', rfl, rfl, ?_, rfl⟩
          simp only [Machine.withNewPipes, Array.toList_push, List.append_assoc]
          exact List.prefix_append _ _

/-! ## A start marks its target before the message goes out -/

/-- A start that fails leaves the view as it was, or, when the unit refused the
start message, the process marked started and no message sent. -/
theorem runs_start_error {r : Record} (hr : m.table.get? r.pid = some r) :
    Runs (start r) m fun res m' => res.isOk = false →
      m'.view = m.view ∨ ∃ id, r.unit = some id ∧ r.started = false ∧
        m'.view = { m.view with table := m.table.put r.pid { r with started := true } } := by
  unfold start
  cases hu : r.unit with
  | none => exact Runs.pure _ fun _ => .inl rfl
  | some id =>
    refine Runs.get_bind ?_
    dsimp only
    split
    · exact Runs.pure _ fun _ => .inl rfl
    · rename_i t hup
      obtain ⟨r₀, r', hr₀, hf, rfl⟩ := Table.update_eq_ok_iff.mp hup
      rw [hr] at hr₀
      cases hr₀
      obtain ⟨hns, rfl⟩ : r.started = false ∧ r' = { r with started := true } := by
        split at hf
        · cases hf
        · cases hf
          exact ⟨by simpa using ‹¬r.started = true›, rfl⟩
      refine Runs.modify_bind (Runs.get_bind (Runs.get_bind ?_))
      split
      · exact Runs.set_bind (Runs.pure _ nofun)
      · -- a refused delivery is only noted
        refine Runs.get_bind (Runs.ite (fun _ => Runs.modify_bind (Runs.pure _ fun _ =>
          .inr ⟨id, rfl, hns, ?_⟩)) fun _ => Runs.pure _ fun _ => .inr ⟨id, rfl, hns, ?_⟩)
        · rw [Machine.view_note _ fun _ _ => rfl, hu]
          rfl
        · rw [hu]
          rfl

include hwf in
/-- A refused start request leaves the view alike, or its target, live and
unstarted, marked started because its unit refused the start message. -/
theorem runs_startTarget_refused (msg : Message) :
    Runs (startTarget msg) m fun o m' => o.isRefusal = true →
      m.view.Alike m'.view ∨ ∃ r id, m.table.get? msg.target = some r ∧ r.unit = some id ∧
        r.started = false ∧ m'.view = { m.view with table := m.table.put r.pid { r with started := true } } := by
  unfold startTarget
  refine Runs.get_bind ?_
  cases hr : m.table.get? msg.target with
  | none => exact Runs.pure _ fun _ => .inl (.of_eq rfl)
  | some r =>
    refine Runs.bind_of _ (runs_start_error (hwf.get?_pid hr)) fun res m₁ h₁ => ?_
    cases res with
    | error f =>
      refine Runs.pure _ fun _ => ?_
      rcases h₁ rfl with hv | ⟨id, hid, hns, hv⟩
      · exact .inl (.of_eq hv)
      · exact .inr ⟨r, id, rfl, hid, hns, hv⟩
    | ok u =>
      cases u
      exact Runs.pure _ nofun

/-! ## Every core request -/

include hwf in
/-- Every core request whose handler refuses it or crashes, so that the loop
answers it with an error code, leaves a view alike to the one before; the one
exception is a start whose unit refused the start message, which leaves its
target, live, registered and unstarted before, marked started. -/
theorem refused_request_keeps_view {msg : Message} {h : Act Outcome}
    (hh : handlerFor msg = some h) (hrefused : (h.run m).1.isRefusal = true) :
    m.view.Alike (h.run m).2.view ∨
      msg.op = .start ∧ ∃ r id, m.table.get? msg.target = some r ∧ r.unit = some id ∧
        r.started = false ∧
        (h.run m).2.view = { m.view with table := m.table.put r.pid { r with started := true } } := by
  unfold handlerFor at hh
  split at hh <;> cases hh
  case h_1 => exact .inl (keepsOnRefusal_changeState msg hrefused)
  case h_2 => exact .inl (keepsOnRefusal_wait msg hrefused)
  case h_3 =>
    revert hrefused
    cases msg.create with
    | some req => exact fun hr => .inl (keepsOnRefusal_create hwf _ req _ hr)
    | none => exact fun hr => .inl (keepsOnRefusal_refuse _ hr)
  case h_4 => exact .inl (keepsOnRefusal_kill msg hrefused)
  case h_5 => exact .inl (keepsOnRefusal_list hrefused)
  case h_6 => exact .inl (keepsOnRefusal_pipe msg hrefused)
  case h_7 hop =>
    rcases runs_startTarget_refused hwf msg hrefused with hv | hmark
    · exact .inl hv
    · exact .inr ⟨hop, hmark⟩
  case h_8 => exact .inl (keepsOnRefusal_exit msg hrefused)

/-- A join of process 1's output into process 2. -/
def lateJoin : Message := { Message.of .pipe with outPid := 1, inPid := 2 }

/-- On the sample's last machine process 2 has started, so a join into it is
refused, and the view stays alike. -/
theorem refused_late_join_keeps_view :
    sampleBusy.table.Wf ∧ handlerFor lateJoin = some (pipe lateJoin) ∧
      ((pipe lateJoin).run sampleBusy).1.isRefusal = true ∧
      (sampleBusy.view.Alike ((pipe lateJoin).run sampleBusy).2.view ∨
        lateJoin.op = .start ∧ ∃ r id, sampleBusy.table.get? lateJoin.target = some r ∧ r.unit = some id ∧
          r.started = false ∧
          ((pipe lateJoin).run sampleBusy).2.view =
            { sampleBusy.view with table := sampleBusy.table.put r.pid { r with started := true } }) :=
  have hwf : sampleBusy.table.Wf := reachable_sampleBusy.inv.wf
  have hrefused : ((pipe lateJoin).run sampleBusy).1.isRefusal = true := by decide +kernel
  ⟨hwf, rfl, hrefused, refused_request_keeps_view hwf rfl hrefused⟩

/-- The start message is sent after the mark: a process whose unit is gone is
refused its start and stays marked started, although it was not before. -/
theorem refused_start_keeps_mark :
    ¬ ∀ (m : Machine) (msg : Message) (h : Act Outcome), m.table.Wf → handlerFor msg = some h →
      (h.run m).1.isRefusal = true →
        ((h.run m).2.table.get? msg.target).map (·.started) =
          (m.table.get? msg.target).map (·.started) := by
  intro hall
  have hwf : ((Table.new 3).run [.allocate default default 0, .register 1 "u1"]).Wf :=
    (Table.wf_new 3).run _ fun c hc => by
      simp only [List.mem_cons, List.not_mem_nil, or_false] at hc
      rcases hc with rfl | rfl <;> trivial
  have hkeep := hall ((Machine.new (SupervisorConfig.withDefaults 3 0 0 false "") .pool .none []).setTable
    ((Table.new 3).run [.allocate default default 0, .register 1 "u1"]))
    { Message.of .start with target := 1 } _ hwf rfl (by decide)
  exact absurd hkeep (by decide)

end Act

end Userland
