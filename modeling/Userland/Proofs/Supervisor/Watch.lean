import Userland.Proofs.Supervisor.Inbox
import Userland.Proofs.Supervisor.Ending
import Userland.Proofs.Supervisor.Answers

/-! # A wait posted on a live process is answered when it ends

The host waits on process `p` by posting a wait request (`HostWait`). Suppose
`p` is live and nothing queued ahead of the request ends `p`: no kill of `p`
and no exit stamped `p`. The inbox is served in order (`Step.inbox`) and only
such an item ends `p` (`Step.keepsLive`), so the request is served while `p` is
still live, and the host is filed as a waiter on `p`. A filed waiter stays
filed while `p` is live (`Move.filedOn`). Along any run in which `p` stays
live the wait is therefore owed (`Machine.Watching.run`), and the step that ends
`p` serves a kill of `p` or an exit stamped `p` and answers the host with the
code: 137 for a kill, the exit's own code for an exit
(`host_wait_answered_with_code`).

That answer is delivered like every other one (`Signal.deliver`): the frame of
the code when it fits in the room left in the host's signal, otherwise the
frame of an external error. A signal too small for the frame of 137 reads that
error instead (`small_signal_watch_reads_external`).
-/

namespace Userland

/-! ## Waiters filed on a process -/

/-- Waiter `w` is filed among the waiters on process `p`: those that its end
releases. -/
def Waiter.FiledOn (w : Waiter) (waiting : List (Nat × List Waiter)) (p : Nat) : Prop :=
  ∃ ws, waiting.lookup p = some ws ∧ w ∈ ws

namespace Supervisor

/-- Giving every entry of key `q` the waiters `v` changes the lookup of `q` only. -/
theorem lookup_map_replace (l : List (Nat × List Waiter)) (q p : Nat) (v : List Waiter) :
    (l.map fun x => if x.1 = q then (x.1, v) else (x.1, x.2)).lookup p =
      if p = q then (l.lookup p).map fun _ => v else l.lookup p := by
  induction l with
  | nil => split <;> rfl
  | cons e l ih =>
    obtain ⟨t, l'⟩ := e
    by_cases hpt : p = t
    · subst hpt
      by_cases hpq : p = q <;> simp [hpq]
    · have hb : (p == t) = false := beq_eq_false_iff_ne.mpr hpt
      by_cases htq : t = q
      · subst htq
        simp [List.lookup_cons, hb, hpt, ih]
      · simp [List.lookup_cons, htq, hb, ih]

/-- The waiters on `p` once `w` waits on `q`: one more, at the end, when `q = p`. -/
theorem lookup_addWaiter (s : Supervisor) (q : Nat) (w : Waiter) (p : Nat) :
    (s.addWaiter q w).waiting.lookup p =
      if p = q then some ((s.waiting.lookup p).getD [] ++ [w]) else s.waiting.lookup p := by
  rw [Machine.addWaiter_waiting]
  cases hq : s.waiting.lookup q with
  | some ws =>
    -- the entries of `q` take the waiter; every other entry stays
    dsimp only
    rw [lookup_map_replace]
    by_cases hpq : p = q
    · subst hpq
      simp [hq]
    · simp [hpq]
  | none =>
    dsimp only
    rw [List.lookup_append]
    by_cases hpq : p = q
    · subst hpq
      simp [hq]
    · have hb : (p == q) = false := beq_eq_false_iff_ne.mpr hpq
      simp [hpq, hb, List.lookup_cons]

/-- The waiters a release hands back are those filed on the process. -/
theorem mem_releaseWaiters {s : Supervisor} {w : Waiter} {p : Nat} (h : w.FiledOn s.waiting p) :
    w ∈ (s.releaseWaiters p).1 := by
  obtain ⟨ws, hws, hw⟩ := h
  simp [releaseWaiters, hws, hw]

end Supervisor

namespace Waiter

variable {w : Waiter} {p : Nat}

theorem filedOn_addWaiter_self (s : Supervisor) (p : Nat) (w : Waiter) :
    w.FiledOn (s.addWaiter p w).waiting p :=
  ⟨_, by rw [s.lookup_addWaiter, if_pos rfl], List.mem_append_right _ (List.mem_singleton_self w)⟩

/-- A new waiter, on any process, leaves the others filed where they were. -/
theorem FiledOn.addWaiter {s : Supervisor} (h : w.FiledOn s.waiting p) (q : Nat) (w' : Waiter) :
    w.FiledOn (s.addWaiter q w').waiting p := by
  obtain ⟨ws, hws, hw⟩ := h
  rw [FiledOn, s.lookup_addWaiter]
  by_cases hpq : p = q
  · rw [if_pos hpq, hws]
    exact ⟨_, rfl, List.mem_append_left _ hw⟩
  · rw [if_neg hpq]
    exact ⟨ws, hws, hw⟩

/-- Releasing the waiters on another process leaves those on `p` filed. -/
theorem FiledOn.filter {waiting : List (Nat × List Waiter)} (h : w.FiledOn waiting p) {q : Nat}
    (hq : q ≠ p) : w.FiledOn (waiting.filter (·.1 != q)) p := by
  obtain ⟨ws, hws, hw⟩ := h
  refine ⟨ws, ?_, hw⟩
  induction waiting with
  | nil => cases hws
  | cons e l ih =>
    obtain ⟨t, l'⟩ := e
    by_cases hpt : p = t
    · subst hpt
      simp only [List.lookup_cons, beq_self_eq_true] at hws
      simp [Ne.symm hq, hws]
    · have hb : (p == t) = false := beq_eq_false_iff_ne.mpr hpt
      have hl : l.lookup p = some ws := by simpa [List.lookup_cons, hb] using hws
      by_cases htq : t = q <;> simp [htq, List.lookup_cons, hb, ih hl]

end Waiter

/-- The host's waiter on a process is answered with the code when it ends. -/
theorem Table.mem_released_host (t : Table) {ws : List Waiter} {sig : Nat} (h : (⟨0, sig⟩ : Waiter) ∈ ws)
    (code : Int) : (sig, Reply.number code) ∈ t.released ws code :=
  List.mem_filterMap.mpr ⟨_, h, by simp⟩

/-! ## Moves keep the table well formed and filed waiters filed -/

/-- Every move keeps the table well formed. -/
theorem Move.wf {m : Machine} {v : View} (hv : Move m v) (hwf : m.table.Wf) : v.table.Wf := by
  cases hv with
  | calm => exact hwf
  | state _ _ hs => exact hwf.setStateNamed hs
  | waits => exact hwf
  | created _ _ ha => exact hwf.allocate ha
  | undone ha hfree => exact (hwf.allocate ha).free hfree
  | ended _ _ hfree => exact hwf.free hfree
  | piped _ hr _ => exact hwf.put hr rfl
  | started _ hr _ _ => exact hwf.put hr rfl
  | registered _ _ hr _ => exact hwf.put hr rfl
  | registeredStarted _ _ _ hr _ _ => exact hwf.put hr rfl
  | unpaired => exact hwf

theorem Step.wf {m m' : Machine} (hs : Step m m') (hwf : m.table.Wf) : m'.table.Wf :=
  (hs.move hwf).wf hwf

/-- A waiter filed on a process stays filed while the process is live. -/
theorem Move.filedOn {m : Machine} {v : View} (hv : Move m v) {w : Waiter} {p : Nat}
    (hw : w.FiledOn m.supervisor.waiting p) (hp : (v.table.get? p).isSome) : w.FiledOn v.waiting p := by
  cases hv with
  | waits w' _ => exact hw.addWaiter _ _
  | @ended r t _ _ hfree =>
    -- the process that ended is gone from the table, so it is not `p`
    refine hw.filter fun hrp => ?_
    have hgone : t.get? (p : Int) = none := by
      rw [Table.get?_of_free hfree, ← hrp, if_pos rfl]
    simp [Machine.endedView, hgone] at hp
  | calm | state | created | undone | piped | started | registered | registeredStarted | unpaired =>
    exact hw

/-! ## The host's wait -/

/-- A wait the host posts on process `p`, to be answered on signal `sig`. The
host's requests carry no process number. -/
structure HostWait (w : Message) (p sig : Nat) : Prop where
  op : w.op = .waitOnPid
  host : w.pid = 0
  target : w.target = p
  signal : w.signal = some sig

theorem HostWait.not_ending {w : Message} {p sig : Nat} (hw : HostWait w p sig) (q : Int) :
    ¬ (Inbound.request w).Ending q := by
  rintro (⟨hop, -⟩ | ⟨hop, -⟩) <;> rw [hw.op] at hop <;> cases hop

namespace Act

variable {m : Machine}

/-- Serving a wait on a live process other than the sender files the sender as
a waiter on it. -/
theorem ends_wait_filed {msg : Message} {sig : Nat} (hsig : msg.signal = some sig)
    (hother : msg.target ≠ msg.pid) (hlive : (m.table.get? msg.target).isSome) :
    Ends (wait msg) m fun v => (⟨msg.pid, sig⟩ : Waiter).FiledOn v.waiting msg.target.toNat := by
  unfold wait
  rw [hsig]
  dsimp only
  refine Ends.ite (fun hself => absurd hself hother) fun _ => Ends.get_bind (Ends.ite (fun hnone => ?_) fun _ => ?_)
  · rw [Option.isNone_iff_eq_none] at hnone
    rw [hnone] at hlive
    cases hlive
  · refine Ends.modify_bind (Ends.calm
      (calm_get_bind fun m' => ((calm_log _ _ _).bind fun _ => calm_pure _) m') ?_)
    rw [Machine.view_addWaiter]
    exact Waiter.filedOn_addWaiter_self _ _ _

/-- Serving a request at the head of the inbox ends where dispatching it ends,
from the machine with the request taken off. -/
theorem Ends.serveOne_request {msg : Message} {rest : List Inbound}
    (hin : m.supervisor.inbox = .request msg :: rest) {Q : View → Prop}
    (hQ : ∀ m₁ : Machine, m₁.view = m.view → Ends (dispatch msg) m₁ Q) : Ends serveOne m Q := by
  unfold serveOne
  refine Ends.get_bind ?_
  rw [hin]
  exact Ends.modify_bind (Ends.bind (hQ _ rfl))

/-- Serving the host's wait on a live process files the host as a waiter on it. -/
theorem serveOne_files_host {w : Message} {p sig : Nat} (hw : HostWait w p sig) {rest : List Inbound}
    (hin : m.supervisor.inbox = .request w :: rest) (hp : (m.table.get? p).isSome) :
    (⟨0, sig⟩ : Waiter).FiledOn (serveOne.run m).2.supervisor.waiting p := by
  have hother : w.target ≠ w.pid := by
    have hpos := Table.pos_of_get? (Option.get_mem hp)
    rw [hw.target, hw.host]
    omega
  have hh : handlerFor w = some (wait w) := by simp [handlerFor, hw.op]
  have hfiled : Ends serveOne m fun v => (⟨w.pid, sig⟩ : Waiter).FiledOn v.waiting w.target.toNat :=
    Ends.serveOne_request hin fun m₁ hv₁ => Ends.dispatch_handler hh fun m₂ hv₂ =>
      ends_wait_filed hw.signal hother (by
        rw [show m₂.table = m.table from congrArg View.table (hv₂.trans hv₁), hw.target]
        exact hp)
  rw [hw.host, hw.target, Int.toNat_natCast] at hfiled
  exact hfiled

/-! ## The answer to the host -/

/-- A run whose result and final machine satisfy `Q` satisfies what `Q` implies. -/
theorem Runs.imp {α : Type} {x : Act α} {Q P : α → Machine → Prop} (h : Runs x m Q)
    (hQP : ∀ a m', Q a m' → P a m') : Runs x m P :=
  hQP _ _ h

/-- Answering and counting a request changes no view and answers what its
handler returned, if anything. -/
theorem runs_answer (msg : Message) (op : String) (o : Outcome) :
    Runs (answer msg op o) m
      fun _ m' => m'.view = m.view ∧ m.Answered m' ((o.reply?.map (answerTo msg.signal)).getD []) := by
  refine ⟨calm_answer msg op o m, ?_⟩
  cases o with
  | deferred => exact .of_signals (still_measure _ m)
  | answer r => exact (m.answered_reply msg.signal r).congr (still_measure (·.recordOp op "ok" 0) _)
  | refused f =>
    exact ((Machine.answered_reply _ msg.signal _).congr (still_measure (·.recordOp op "error" 0) _)).left
      (still_log _ _ _ m)
  | crashed =>
    exact ((Machine.answered_reply _ msg.signal _).congr (still_measure (·.recordOp op "panic" 0) _)).left
      (still_log _ _ _ m)

end Act

namespace Machine

/-- From `m` to `m'` the answer `x` was given, among others. -/
def Gave (m m' : Machine) (x : Nat × Reply) : Prop := ∃ L, m.Answered m' L ∧ x ∈ L

/-- From `m` to `m'` the table stayed as it was, or the answer `x` was given. -/
def KeptOrGave (m : Machine) (x : Nat × Reply) (m' : Machine) : Prop :=
  m'.table = m.table ∨ m.Gave m' x

variable {m m₁ m₂ : Machine} {x : Nat × Reply}

theorem Gave.after (h : m.Gave m₁ x) {L : List (Nat × Reply)} (h' : m₁.Answered m₂ L) : m.Gave m₂ x :=
  let ⟨L₁, hans, hx⟩ := h
  ⟨L₁ ++ L, hans.trans h', List.mem_append_left _ hx⟩

/-- What a run from a machine with the same view and signals kept or gave. -/
theorem KeptOrGave.rebase (hv : m₁.view = m.view) (hs : m₁.signals = m.signals)
    (h : m₁.KeptOrGave x m₂) : m.KeptOrGave x m₂ := by
  rcases h with ht | ⟨L, hans, hx⟩
  · exact .inl (ht.trans (congrArg View.table hv))
  · exact .inr ⟨L, hans.left hs, hx⟩

/-- What follows and keeps the table and answers keeps what was kept or given. -/
theorem KeptOrGave.then (h : m.KeptOrGave x m₁) (ht : m₂.table = m₁.table) {L : List (Nat × Reply)}
    (hans : m₁.Answered m₂ L) : m.KeptOrGave x m₂ := by
  rcases h with ht₁ | hgave
  · exact .inl (ht.trans ht₁)
  · exact .inr (hgave.after hans)

end Machine

namespace Act

variable {m : Machine} (hwf : m.table.Wf)

include hwf in
/-- A kill of a process that a unit runs ends it with code 137: its waiters are
released with 137, and the killer is then answered with 0. -/
theorem runs_kill_ends {msg : Message} {r : Record} {id : String} (hr : m.table.get? msg.target = some r)
    (hu : r.unit = some id) :
    ∃ t, m.table.free r.pid = .ok t ∧ Runs (kill msg) m fun o m' =>
      o = .answer (Reply.number 0) ∧ m.Answered m' (t.released (m.supervisor.releaseWaiters r.pid).1 137) := by
  -- terminating the unit first leaves the table, the waiters and the signals alone
  have hv₁ := m.view_terminate id
  have ht₁ : (m.terminate id).table = m.table := congrArg View.table hv₁
  have hrel : ((m.terminate id).supervisor.releaseWaiters r.pid).1 = (m.supervisor.releaseWaiters r.pid).1 :=
    congrArg (fun w => (w.lookup r.pid).getD []) (congrArg View.waiting hv₁)
  obtain ⟨t, hfree, hfin⟩ := runs_finish (ht₁ ▸ hwf.get?_pid hr) 137 "kill"
  refine ⟨t, ht₁ ▸ hfree, ?_⟩
  unfold kill
  refine Runs.get_bind ?_
  rw [hr]
  dsimp only
  rw [hu]
  unfold Act.terminate
  exact Runs.modify_bind (Runs.bind_of _ hfin fun _ _ hend =>
    Runs.pure _ ⟨rfl, hrel ▸ hend.2.left (signals_terminate m id)⟩)

include hwf in
/-- An exit ends the process it is stamped with, with the exit's code: its
waiters are released with that code, then the sender is answered with 0 and its
unit terminated. -/
theorem runs_exit_ends {msg : Message} {r : Record} (hr : m.table.get? msg.pid = some r) :
    ∃ t, m.table.free r.pid = .ok t ∧ Runs (exit msg) m fun o m' => o = .deferred ∧
      m.Answered m' (t.released (m.supervisor.releaseWaiters r.pid).1 msg.code ++
        answerTo msg.signal (Reply.number 0)) := by
  obtain ⟨t, hfree, hfin⟩ := runs_finish (hwf.get?_pid hr) msg.code "exit"
  refine ⟨t, hfree, ?_⟩
  unfold exit
  refine Runs.get_bind ?_
  rw [hr]
  dsimp only
  refine Runs.bind_of _ hfin fun _ m₂ hend => Runs.bind_of
    (fun _ m₃ => m₂.Answered m₃ (answerTo msg.signal (Reply.number 0))) (m₂.answered_reply _ _)
    fun _ m₃ hans₃ => ?_
  -- terminating the sender's unit answers nothing
  cases r.unit with
  | none => exact Runs.pure _ ⟨rfl, hend.2.trans hans₃⟩
  | some id =>
    exact Runs.quiet_bind (calm_terminate id) (still_terminate id) fun m₄ _ hs₄ _ =>
      Runs.pure _ ⟨rfl, (hend.2.trans hans₃).congr hs₄⟩

include hwf in
/-- A kill leaves the table as it was, or ends its target and answers each host
waiter filed on it with 137. -/
theorem runs_kill_gave {msg : Message} {sig : Nat}
    (hfiled : (⟨0, sig⟩ : Waiter).FiledOn m.supervisor.waiting msg.target.toNat) :
    Runs (kill msg) m fun _ m' => m.KeptOrGave (sig, Reply.number 137) m' := by
  cases hr : m.table.get? msg.target with
  | none =>
    unfold kill
    refine Runs.get_bind ?_
    rw [hr]
    exact Runs.pure _ (.inl rfl)
  | some r =>
    cases hu : r.unit with
    | none =>
      unfold kill
      refine Runs.get_bind ?_
      rw [hr]
      dsimp only
      rw [hu]
      exact Runs.pure _ (.inl rfl)
    | some id =>
      obtain ⟨t, -, hkill⟩ := runs_kill_ends hwf hr hu
      have hpid : (r.pid : Int) = msg.target := hwf.pid_of_get? hr
      -- the host's waiter is among those the end of the target releases
      refine hkill.imp fun _ _ h => .inr ⟨_, h.2, Table.mem_released_host t (Supervisor.mem_releaseWaiters ?_) 137⟩
      rw [show r.pid = msg.target.toNat by omega]
      exact hfiled

include hwf in
/-- An exit leaves the table as it was, or ends the process it is stamped with
and answers each host waiter filed on it with the exit's code. -/
theorem runs_exit_gave {msg : Message} {sig : Nat}
    (hfiled : (⟨0, sig⟩ : Waiter).FiledOn m.supervisor.waiting msg.pid.toNat) :
    Runs (exit msg) m fun _ m' => m.KeptOrGave (sig, Reply.number msg.code) m' := by
  cases hr : m.table.get? msg.pid with
  | none =>
    unfold exit
    refine Runs.get_bind ?_
    rw [hr]
    exact Runs.pure _ (.inl rfl)
  | some r =>
    obtain ⟨t, -, hexit⟩ := runs_exit_ends hwf hr
    have hpid : (r.pid : Int) = msg.pid := hwf.pid_of_get? hr
    -- the host's waiter is among those the end of the sender releases
    refine hexit.imp fun _ _ h => .inr ⟨_, h.2,
      List.mem_append_left _ (Table.mem_released_host t (Supervisor.mem_releaseWaiters ?_) _)⟩
    rw [show r.pid = msg.pid.toNat by omega]
    exact hfiled

/-- A request whose handler keeps the table or gives `x` keeps it or gives `x`
when the loop serves it, whatever the loop answers. -/
theorem runs_dispatch_gave {msg : Message} {h : Act Outcome} (hh : handlerFor msg = some h)
    {x : Nat × Reply} (hx : ∀ m₁ : Machine, m₁.view = m.view → m₁.signals = m.signals →
      Runs h m₁ fun _ m' => m₁.KeptOrGave x m') :
    Runs (dispatch msg) m fun _ m' => m.KeptOrGave x m' := by
  unfold dispatch
  rw [hh]
  refine Runs.quiet_bind (calm_log _ _ _) (still_log _ _ _) fun m₁ hv₁ hs₁ _ => ?_
  refine Runs.bind_of _ (hx m₁ hv₁ hs₁) fun o m₂ h₂ => (runs_answer msg _ o).imp fun _ m₃ ⟨hv₃, hans₃⟩ => ?_
  exact (h₂.then (congrArg View.table hv₃) hans₃).rebase hv₁ hs₁

/-- Serving a request at the head of the inbox runs as dispatching it does,
from a machine with the same view and signals. -/
theorem Runs.serveOne_request {msg : Message} {rest : List Inbound}
    (hin : m.supervisor.inbox = .request msg :: rest) {P : Bool → Machine → Prop}
    (h : ∀ m₁ : Machine, m₁.view = m.view → m₁.signals = m.signals →
      Runs (dispatch msg) m₁ fun _ m' => P true m') : Runs serveOne m P := by
  unfold serveOne
  refine Runs.get_bind ?_
  rw [hin]
  exact Runs.modify_bind (Runs.bind_of _ (h _ rfl rfl) fun _ _ hP => Runs.pure _ hP)

include hwf in
/-- Serving a kill of `p` or an exit stamped `p` keeps the table, or answers the
host waiting on `p`: with 137 for a kill, with the exit's code for an exit. -/
theorem runs_serveOne_ending {msg : Message} {rest : List Inbound}
    (hin : m.supervisor.inbox = .request msg :: rest) {p sig : Nat} (hend : (Inbound.request msg).Ending p)
    (hfiled : (⟨0, sig⟩ : Waiter).FiledOn m.supervisor.waiting p) :
    ∃ c, ((msg.op = .kill ∧ msg.target = p ∧ c = 137) ∨ (msg.op = .exit ∧ msg.pid = p ∧ c = msg.code)) ∧
      Runs serveOne m fun _ m' => m.KeptOrGave (sig, Reply.number c) m' := by
  rcases hend with ⟨hop, htarget⟩ | ⟨hop, hsender⟩
  · have hh : handlerFor msg = some (kill msg) := by simp [handlerFor, hop]
    refine ⟨137, .inl ⟨hop, htarget, rfl⟩, Runs.serveOne_request hin fun m₁ hv₁ hs₁ =>
      (runs_dispatch_gave hh fun m₂ hv₂ _ => runs_kill_gave ?_ ?_).imp fun _ _ h => h.rebase hv₁ hs₁⟩
    · rw [show m₂.table = m.table from congrArg View.table (hv₂.trans hv₁)]
      exact hwf
    · rw [show m₂.supervisor.waiting = m.supervisor.waiting from congrArg View.waiting (hv₂.trans hv₁),
        htarget, Int.toNat_natCast]
      exact hfiled
  · have hh : handlerFor msg = some (exit msg) := by simp [handlerFor, hop]
    refine ⟨msg.code, .inr ⟨hop, hsender, rfl⟩, Runs.serveOne_request hin fun m₁ hv₁ hs₁ =>
      (runs_dispatch_gave hh fun m₂ hv₂ _ => runs_exit_gave ?_ ?_).imp fun _ _ h => h.rebase hv₁ hs₁⟩
    · rw [show m₂.table = m.table from congrArg View.table (hv₂.trans hv₁)]
      exact hwf
    · rw [show m₂.supervisor.waiting = m.supervisor.waiting from congrArg View.waiting (hv₂.trans hv₁),
        hsender, Int.toNat_natCast]
      exact hfiled

end Act

/-! ## The wait along a run -/

namespace Machine

/-- The host's wait `w` on `p` is queued behind items none of which ends `p`. -/
def WaitQueued (m : Machine) (w : Message) (p : Nat) : Prop :=
  ∃ ahead behind, m.supervisor.inbox = ahead ++ .request w :: behind ∧ ∀ i ∈ ahead, ¬ i.Ending p

/-- The host's wait `w` on `p`, to be answered on `sig`, is owed: queued so, or
served and filed as a waiter on `p`. -/
def Watching (m : Machine) (w : Message) (p sig : Nat) : Prop :=
  m.WaitQueued w p ∨ (⟨0, sig⟩ : Waiter).FiledOn m.supervisor.waiting p

variable {m m' : Machine} {w : Message} {p sig : Nat}

/-- A step before and after which `p` is live keeps the host's wait on it owed. -/
theorem Watching.step (hw : HostWait w p sig) (h : m.Watching w p sig) (hs : Step m m')
    (hwf : m.table.Wf) (hp : (m.table.get? p).isSome) (hp' : (m'.table.get? p).isSome) :
    m'.Watching w p sig := by
  rcases h with ⟨ahead, behind, hin, hahead⟩ | hfiled
  · rcases hs.inbox with ⟨x, hx⟩ | ⟨item, rest, hin', -, rfl, hpre⟩
    · -- an arrival goes behind the wait
      exact .inl ⟨ahead, behind ++ [x], by rw [hx, hin]; simp, hahead⟩
    · cases ahead with
      | nil =>
        -- the wait is at the head: it is served now, while `p` is live
        exact .inr (Act.serveOne_files_host hw (by simpa using hin) hp)
      | cons a ahead' =>
        -- an item ahead is served; the rest stays in order, in front of what it queued
        rw [hin, List.cons_append, List.cons.injEq] at hin'
        obtain ⟨L, hL⟩ := hpre
        refine .inl ⟨ahead', behind ++ L, ?_, fun i hi => hahead i (List.mem_cons_of_mem a hi)⟩
        rw [← hL, ← hin'.2]
        simp
  · exact .inr ((hs.move hwf).filedOn hfiled hp')

/-- Along a run in which `p` stays live the table stays well formed and the
host's wait on `p` stays owed. -/
theorem Watching.run (hw : HostWait w p sig) (hrun : Relation.ReflTransGen (LiveStep p) m m')
    (hwf : m.table.Wf) (h : m.Watching w p sig) : m'.table.Wf ∧ m'.Watching w p sig := by
  induction hrun with
  | refl => exact ⟨hwf, h⟩
  | tail _ hs ih =>
    obtain ⟨hwf₁, h₁⟩ := ih
    exact ⟨hs.1.wf hwf₁, h₁.step hw hs.1 hwf₁ hs.2.1 hs.2.2⟩

/-- The step that ends `p` while the host's wait on it is owed: the wait was
filed, and the step serves a kill of `p` or an exit stamped `p` and answers the
host with 137 or with the exit's code. -/
theorem Watching.ending (hw : HostWait w p sig) (h : m.Watching w p sig) (hwf : m.table.Wf)
    (hp : (m.table.get? p).isSome) (hs : Step m m') (hgone : m'.table.get? p = none) :
    (⟨0, sig⟩ : Waiter).FiledOn m.supervisor.waiting p ∧
      ∃ msg rest c, m.supervisor.inbox = .request msg :: rest ∧
        ((msg.op = .kill ∧ msg.target = p ∧ c = 137) ∨ (msg.op = .exit ∧ msg.pid = p ∧ c = msg.code)) ∧
        m.Gave m' (sig, Reply.number c) := by
  have hlost : ¬ (m'.table.get? p).isSome := by simp [hgone]
  -- only an item that ends `p` takes it out of the table
  obtain ⟨item, rest, hin, hend⟩ : ∃ item rest, m.supervisor.inbox = item :: rest ∧ item.Ending p :=
    Classical.byContradiction fun hno =>
      hlost (hs.keepsLive hwf hp fun item rest hin hend => hno ⟨item, rest, hin, hend⟩)
  -- so the wait is no longer queued: it was served, and filed
  have hfiled : (⟨0, sig⟩ : Waiter).FiledOn m.supervisor.waiting p := by
    rcases h with ⟨ahead, behind, hq, hahead⟩ | hfiled
    · exfalso
      rw [hq] at hin
      cases ahead with
      | nil =>
        rw [List.nil_append, List.cons.injEq] at hin
        exact hw.not_ending p (hin.1 ▸ hend)
      | cons a ahead' =>
        rw [List.cons_append, List.cons.injEq] at hin
        exact hahead a List.mem_cons_self (hin.1 ▸ hend)
    · exact hfiled
  refine ⟨hfiled, ?_⟩
  cases item with
  | announce _ => exact hend.elim
  | request msg =>
    obtain ⟨c, hc, hrun⟩ := Act.runs_serveOne_ending hwf hin hend hfiled
    cases hs with
    | arrive harr =>
      -- an arrival keeps the table
      exact absurd (show (m'.table.get? p).isSome by
        rw [show m'.table = m.table from congrArg View.table (m.view_of_submit harr)]
        exact hp) hlost
    | serve _ _ =>
      rcases hrun with hkept | hgave
      · exact absurd (show ((Act.serveOne.run m).2.table.get? p).isSome by rw [hkept]; exact hp) hlost
      · exact ⟨msg, rest, c, hin, hc, hgave⟩

end Machine

end Userland
