import Userland.Proofs.Supervisor.Refusal
import Userland.Proofs.Pipe.Delivery

/-! # Which pipe a process reads

A process reads the pipe its record names as its stdin: its own, allocated
with it, until a pipe request joins another process's output to it. A pipe
request joins the two when both are live, the out-process writes a pipe and the
in-process reads one and has not started (`Machine.joined?`); it is answered 0
exactly then (`Act.runs_pipe`). Serving any other item leaves every binding as
it was, so serving an item leaves a live process the binding
`Inbound.stdinAfter` names (`Act.readsFrom_serveOne`): the stdout of the
out-process of the last pipe request into it that joined, or its own stdin.

Joining needs a process that has not started, and a live process never stops
being started, so from its start on a process keeps its binding
(`LiveStep.stdin_of_started`). The start itself sends the process's unit the
start payload of the record as the start marked it (`Act.runs_start`), so the
payload names the binding the process had when it started. A step that frees a
process has closed its stdout, and a reader of that pipe then gets every byte
written to it, in order, and the end of the stream for good
(`Ring.answers_after_drained`).
-/

namespace Userland

namespace Machine

/-- The in-process's record once pipe request `msg` joins it to the
out-process: when both are live, the out-process writes a pipe and the
in-process reads one and has not started, the in-process reads the
out-process's stdout. -/
def joined? (m : Machine) (msg : Message) : Option Record :=
  match m.table.get? msg.outPid, m.table.get? msg.inPid with
  | some o, some i =>
    if o.pipeStdout = true ∧ i.pipeStdin = true ∧ i.started = false then some { i with stdin := o.stdout }
    else none
  | _, _ => none

/-- Joining reads the table only. -/
theorem joined?_congr {m m₁ : Machine} (h : m₁.table = m.table) (msg : Message) :
    m₁.joined? msg = m.joined? msg := by
  unfold joined?
  rw [h]

theorem joined?_eq_some {m : Machine} {msg : Message} {i' : Record} (h : m.joined? msg = some i') :
    ∃ o i, m.table.get? msg.outPid = some o ∧ m.table.get? msg.inPid = some i ∧
      o.pipeStdout = true ∧ i.pipeStdin = true ∧ i.started = false ∧ i' = { i with stdin := o.stdout } := by
  unfold joined? at h
  split at h
  · rename_i o i ho hi
    split_ifs at h with hc
    cases h
    exact ⟨o, i, ho, hi, hc.1, hc.2.1, hc.2.2, rfl⟩
  · cases h

end Machine

/-- The stdin binding process `q` has once `item` is served in `m`, when it had
binding `b`: a pipe request into `q` that joins rebinds it, and nothing else does. -/
def Inbound.stdinAfter (m : Machine) (q : Int) (b : Nat) : Inbound → Nat
  | .request msg => if msg.op = .pipe ∧ msg.inPid = q then ((m.joined? msg).map (·.stdin)).getD b else b
  | .announce _ => b

/-- The pipe a served item binds process `q`'s stdin to, if any: the stdout of
the out-process of a pipe request into `q` that joins. -/
def Inbound.joinsWith (m : Machine) (q : Int) : Inbound → Option Nat
  | .request msg => if msg.op = .pipe ∧ msg.inPid = q then (m.joined? msg).map (·.stdin) else none
  | .announce _ => none

namespace Inbound

theorem stdinAfter_congr {m m₁ : Machine} (h : m₁.table = m.table) (q : Int) (b : Nat) (item : Inbound) :
    item.stdinAfter m₁ q b = item.stdinAfter m q b := by
  cases item <;> simp [stdinAfter, Machine.joined?_congr h]

theorem stdinAfter_of_ne {msg : Message} (hop : msg.op ≠ .pipe) (m : Machine) (q : Int) (b : Nat) :
    (Inbound.request msg).stdinAfter m q b = b := by
  simp [stdinAfter, hop]

/-- A started process is joined to nothing. -/
theorem stdinAfter_of_started {m : Machine} {q : Int} {r : Record} (hr : m.table.get? q = some r)
    (hs : r.started = true) (item : Inbound) : item.stdinAfter m q r.stdin = r.stdin := by
  cases item with
  | announce id => rfl
  | request msg =>
    dsimp only [stdinAfter]
    split_ifs with hq
    · cases hj : m.joined? msg with
      | none => rfl
      | some i' =>
        obtain ⟨o, i, -, hi, -, -, hns, -⟩ := Machine.joined?_eq_some hj
        rw [hq.2, hr] at hi
        cases hi
        rw [hs] at hns
        cases hns
    · rfl

theorem stdinAfter_eq_getD (m : Machine) (q : Int) (b : Nat) (item : Inbound) :
    item.stdinAfter m q b = (item.joinsWith m q).getD b := by
  cases item with
  | request msg => by_cases h : msg.op = .pipe ∧ msg.inPid = q <;> simp [stdinAfter, joinsWith, h]
  | announce id => rfl

end Inbound

namespace Table

/-- Process `q`, if live, reads pipe `b`. -/
def ReadsFrom (t : Table) (q : Int) (b : Nat) : Prop :=
  ∀ r, t.get? q = some r → r.stdin = b

variable {t t' : Table} {p q : Int} {b : Nat}

theorem readsFrom_of_get? {r : Record} (hr : t.get? q = some r) : t.ReadsFrom q r.stdin := by
  intro r' hr'
  rw [hr] at hr'
  cases hr'
  rfl

/-- Replacing a record by one that reads the same pipe keeps every binding. -/
theorem ReadsFrom.put (h : t.ReadsFrom q b) {r₀ r₁ : Record} (hr₀ : t.get? p = some r₀)
    (hs : r₁.stdin = r₀.stdin) : (t.put p r₁).ReadsFrom q b := by
  intro r hr
  rw [get?_put hr₀] at hr
  split_ifs at hr with hqp
  · cases hr
    rw [hs]
    exact h r₀ (hqp ▸ hr₀)
  · exact h r hr

theorem ReadsFrom.free (h : t.ReadsFrom q b) (hf : t.free p = .ok t') : t'.ReadsFrom q b := by
  intro r hr
  rw [get?_of_free hf] at hr
  split_ifs at hr
  exact h r hr

theorem ReadsFrom.setState (h : t.ReadsFrom q b) {s : State} (hs : t.setState p s = .ok t') :
    t'.ReadsFrom q b := by
  obtain ⟨r₀, st, hr₀, hafter, -, hother, -⟩ := setStateNamed_moves hs
  intro r hr
  by_cases hqp : q = p
  · subst hqp
    rw [hafter] at hr
    cases hr
    exact h r₀ hr₀
  · rw [hother q hqp] at hr
    exact h r hr

/-- A new process takes a slot that no live process had. -/
theorem ReadsFrom.allocate (h : t.ReadsFrom q b) (hwf : t.Wf) (hlive : (t.get? q).isSome)
    {spec : Spec} {ends : Endpoints} {now : Nat} {r : Record} (ha : t.allocate spec ends now = .ok (r, t')) :
    t'.ReadsFrom q b := by
  obtain ⟨-, hfree, -, -, -, -, -, hget⟩ := hwf.get?_of_allocate ha
  intro r' hr'
  rw [hget] at hr'
  split_ifs at hr' with hq
  · rw [hq, hfree] at hlive
    cases hlive
  · exact h r' hr'

end Table

namespace Act

variable {α : Type} {m : Machine} {q : Int} {b : Nat} (hwf : m.table.Wf)

/-! ## The pipe request and the start -/

include hwf in
/-- A pipe request that joins is answered 0 and rebinds the in-process; any
other is refused and changes no record. -/
theorem runs_pipe (msg : Message) : Runs (pipe msg) m fun o m' =>
    match m.joined? msg with
    | some i' => o = .answer (Reply.number 0) ∧ m'.table = m.table.put msg.inPid i'
    | none => o.isRefusal = true ∧ m'.table = m.table := by
  unfold pipe Machine.joined?
  refine Runs.get_bind ?_
  dsimp only
  cases ho : m.table.get? msg.outPid with
  | none =>
    refine Runs.pure _ ?_
    exact ⟨rfl, rfl⟩
  | some o =>
    cases hi : m.table.get? msg.inPid with
    | none =>
      refine Runs.pure _ ?_
      exact ⟨rfl, rfl⟩
    | some i =>
      dsimp only
      refine Runs.ite (fun hno => Runs.pure _ ?_) fun hno => Runs.ite (fun hni => Runs.pure _ ?_) fun hni => ?_
      · rw [if_neg (by simp_all)]
        exact ⟨rfl, rfl⟩
      · rw [if_neg (by simp_all)]
        exact ⟨rfl, rfl⟩
      -- both ends take a pipe: the update decides on the start
      have hpid : (i.pid : Int) = msg.inPid := hwf.pid_of_get? hi
      have hpo : o.pipeStdout = true := by simpa using hno
      have hpi : i.pipeStdin = true := by simpa using hni
      split
      · rename_i f hup
        have hs : i.started = true := by
          cases hs : i.started with
          | true => rfl
          | false => simp [hpid, Table.update, Table.lookup, hi, hs, bind, Except.bind, pure, Except.pure] at hup
        rw [if_neg (by simp [hs])]
        exact ⟨rfl, rfl⟩
      · rename_i t hup
        obtain ⟨i₀, i₁, hi₀, hf, rfl⟩ := Table.update_eq_ok_iff.mp hup
        rw [hpid, hi] at hi₀
        cases hi₀
        obtain ⟨hns, rfl⟩ : i.started = false ∧ i₁ = { i with stdin := o.stdout } := by
          split at hf
          · cases hf
          · cases hf
            exact ⟨by simpa using ‹¬i.started = true›, rfl⟩
        rw [if_pos ⟨hpo, hpi, hns⟩]
        refine Runs.modify_bind (Runs.calm_bind (calm_log _ _ _) fun m₁ hv₁ _ => Runs.pure _ ⟨rfl, ?_⟩)
        rw [← hpid]
        exact congrArg View.table hv₁

/-- A start that goes through marked the record it found started, and sent the
process's unit the start payload of that record as marked. -/
theorem runs_start {r r₀ : Record} {id : String} (hr₀ : m.table.get? r.pid = some r₀)
    (hid : r.unit = some id) :
    Runs (start r) m fun res m' => res = .ok () →
      r₀.started = false ∧
      (m.setTable (m.table.put r.pid { r₀ with started := true })).sendTo id
        { Message.of .init with start := some (payloadOf { r₀ with started := true }) } = .ok m' := by
  unfold start
  rw [hid]
  refine Runs.get_bind ?_
  dsimp only
  split
  · refine Runs.pure _ ?_
    intro h
    cases h
  · rename_i t hup
    obtain ⟨r₁, r', hr₁, hf, rfl⟩ := Table.update_eq_ok_iff.mp hup
    rw [hr₀] at hr₁
    cases hr₁
    obtain ⟨hns, rfl⟩ : r₀.started = false ∧ r' = { r₀ with started := true } := by
      split at hf
      · cases hf
      · cases hf
        exact ⟨by simpa using ‹¬r₀.started = true›, rfl⟩
    refine Runs.modify_bind (Runs.get_bind (Runs.get_bind ?_))
    -- the record read back is the one just marked
    have hback : (m.table.put r.pid { r₀ with started := true }).get? r.pid =
        some { r₀ with started := true } := by
      rw [Table.get?_put hr₀, if_pos rfl]
    rw [Machine.table_setTable, hback, Option.getD_some]
    split
    · rename_i m' hsend
      exact Runs.set_bind (Runs.pure _ fun _ => ⟨hns, hsend⟩)
    · -- a failed delivery is only noted
      refine Runs.get_bind (Runs.ite (fun _ => Runs.modify_bind (Runs.pure _ ?_)) fun _ => Runs.pure _ ?_) <;>
        intro h <;> cases h

/-! ## Every handler keeps the bindings it does not join -/

/-- A machine whose table is `t` reads as `t` does. -/
theorem readsFrom_view {m₁ : Machine} {t : Table} (ht : m₁.table = t) (h : t.ReadsFrom q b) :
    m₁.view.table.ReadsFrom q b := by
  rw [Machine.view_table, ht]
  exact h

theorem readsFrom_changeState (h : m.table.ReadsFrom q b) (msg : Message) :
    Ends (changeState msg) m (·.table.ReadsFrom q b) := by
  unfold changeState
  cases State.ofName? msg.state with
  | none => exact Ends.pure _ h
  | some s =>
    refine Ends.get_bind ?_
    cases hs : m.table.setState msg.pid s with
    | error f => exact Ends.pure _ h
    | ok t => exact Ends.modify_bind (Ends.pure _ (h.setState hs))

theorem readsFrom_wait (h : m.table.ReadsFrom q b) (msg : Message) :
    Ends (wait msg) m (·.table.ReadsFrom q b) := by
  unfold wait
  cases msg.signal with
  | none => exact Ends.pure _ h
  | some sig =>
    refine Ends.ite (fun _ => ?_) fun _ => Ends.get_bind (Ends.ite (fun _ => ?_) fun _ => ?_)
    · exact Ends.pure _ h
    · exact Ends.pure _ h
    refine Ends.modify_bind (Ends.calm
      (calm_get_bind fun m' => ((calm_log _ _ _).bind fun _ => calm_pure _) m') ?_)
    rw [Machine.view_addWaiter]
    exact h

include hwf in
/-- A creation binds only the process it adds. -/
theorem readsFrom_create (h : m.table.ReadsFrom q b) (hlive : (m.table.get? q).isSome) (caller : Int)
    (req : CreateRequest) (sig : Option Nat) : Ends (create caller req sig) m (·.table.ReadsFrom q b) := by
  unfold create
  refine Ends.get_bind ?_
  refine Ends.ite (fun _ => Ends.pure _ h) fun _ => ?_
  refine Ends.ite (fun _ => Ends.pure _ h) fun _ => ?_
  refine Ends.calm_bind (calm_load _) fun m₁ hv₁ loaded => ?_
  have ht₁ : m₁.table = m.table := congrArg View.table hv₁
  cases loaded with
  | crashed => exact Ends.pure _ (readsFrom_view ht₁ h)
  | failed f => exact Ends.pure _ (readsFrom_view ht₁ h)
  | source source =>
    refine Ends.get_bind (Ends.ite (fun _ => Ends.pure _ (readsFrom_view ht₁ h)) fun _ => ?_)
    refine Ends.bind ?_
    obtain ⟨c, hends, hv₂⟩ := run_openChannels m₁
    rw [hends]
    generalize (openChannels.run m₁).2 = m₂ at hv₂
    have ht₂ : m₂.table = m.table := (congrArg View.table hv₂).trans ht₁
    refine Ends.get_bind ?_
    rw [ht₂]
    split
    · exact Ends.pure _ (readsFrom_view ht₂ h)
    · rename_i r t ha
      have hkeep : t.ReadsFrom q b := h.allocate hwf hlive ha
      refine Ends.set_bind (Ends.calm_bind calm_spawn fun m₄ hv₄ res => ?_)
      have ht₄ : m₄.table = t := congrArg View.table hv₄
      cases res with
      | error f =>
        -- no unit: the slot just taken is freed again
        refine Ends.modify_bind (Ends.of_state (fun m₅ => m₅.table = t) ht₄
          fun m₅ ht₅ => Ends.modify_bind (Ends.pure _ ?_))
        rw [Machine.view_table, ht₅]
        split
        · rename_i t' hfree
          exact hkeep.free hfree
        · exact ht₅ ▸ hkeep
      | ok id =>
        exact Ends.calm (calm_measurePending.bind fun _ => calm_measureLive.bind fun _ =>
          (calm_measure _).bind fun _ => (calm_log _ _ _).bind fun _ => calm_pure _) (readsFrom_view ht₄ hkeep)

include hwf in
theorem readsFrom_kill (h : m.table.ReadsFrom q b) (msg : Message) :
    Ends (kill msg) m (·.table.ReadsFrom q b) := by
  unfold kill
  refine Ends.get_bind ?_
  cases hr : m.table.get? msg.target with
  | none => exact Ends.pure _ h
  | some r =>
    dsimp only
    cases r.unit with
    | none => exact Ends.pure _ h
    | some id =>
      refine Ends.calm_bind (calm_terminate id) fun m₁ hv₁ _ => Ends.bind (Ends.pure _ ?_)
      have ht₁ : m₁.table = m.table := congrArg View.table hv₁
      have hr₁ : m₁.table.get? r.pid = some r := by rw [ht₁]; exact hwf.get?_pid hr
      obtain ⟨t, hfree, hend⟩ := ends_finish hr₁ 137 "kill"
      rw [show ((finish r 137 "kill").run m₁).2.view = m₁.endedView r t from hend]
      rw [ht₁] at hfree
      exact h.free hfree

include hwf in
theorem readsFrom_exit (h : m.table.ReadsFrom q b) (msg : Message) :
    Ends (exit msg) m (·.table.ReadsFrom q b) := by
  cases hr : m.table.get? msg.pid with
  | none =>
    unfold exit
    refine Ends.get_bind ?_
    rw [hr]
    exact Ends.pure _ h
  | some r =>
    obtain ⟨t, hfree, hend⟩ := exit_ends_holder hwf msg hr
    unfold Ends
    rw [show ((exit msg).run m).2.view = m.endedView r t from hend]
    exact h.free hfree

/-- A start marks one record started, in place. -/
theorem readsFrom_start (h : m.table.ReadsFrom q b) {r : Record} (hr : m.table.get? r.pid = some r) :
    Ends (start r) m (·.table.ReadsFrom q b) := by
  unfold Ends
  rcases ends_start hr with h' | ⟨id, sent, -, -, h'⟩
  · rw [h']
    exact h
  · rw [h']
    exact h.put hr rfl

include hwf in
theorem readsFrom_startTarget (h : m.table.ReadsFrom q b) (msg : Message) :
    Ends (startTarget msg) m (·.table.ReadsFrom q b) := by
  unfold startTarget
  refine Ends.get_bind ?_
  cases hr : m.table.get? msg.target with
  | none => exact Ends.pure _ h
  | some r =>
    refine Ends.bind ?_
    have hkeep := readsFrom_start h (hwf.get?_pid hr)
    split <;> exact Ends.pure _ hkeep

include hwf in
/-- A pipe request rebinds only the process it joins, to what the join gives. -/
theorem readsFrom_pipe {r : Record} (hr : m.table.get? q = some r) {msg : Message} (hop : msg.op = .pipe) :
    Ends (pipe msg) m (·.table.ReadsFrom q ((Inbound.request msg).stdinAfter m q r.stdin)) := by
  have hrun := runs_pipe hwf msg
  unfold Runs at hrun
  unfold Ends
  simp only [Inbound.stdinAfter, hop, true_and]
  cases hj : m.joined? msg with
  | none =>
    rw [hj] at hrun
    rw [Machine.view_table, hrun.2]
    simpa using Table.readsFrom_of_get? hr
  | some i' =>
    rw [hj] at hrun
    obtain ⟨o, i, -, hi, -, -, -, -⟩ := Machine.joined?_eq_some hj
    rw [Machine.view_table, hrun.2]
    intro r' hr'
    rw [Table.get?_put hi] at hr'
    by_cases hq : msg.inPid = q
    · -- `q` is the process joined: it reads what the join gave it
      rw [if_pos hq.symm] at hr'
      cases hr'
      rw [if_pos hq]
      rfl
    · rw [if_neg (Ne.symm hq), hr] at hr'
      cases hr'
      rw [if_neg hq]

include hwf in
theorem readsFrom_handlerFor {r : Record} (hr : m.table.get? q = some r) {msg : Message} {h : Act Outcome}
    (hh : handlerFor msg = some h) :
    Ends h m (·.table.ReadsFrom q ((Inbound.request msg).stdinAfter m q r.stdin)) := by
  have h₀ := Table.readsFrom_of_get? hr
  have hlive : (m.table.get? q).isSome := by rw [hr]; rfl
  unfold handlerFor at hh
  split at hh <;> cases hh
  case h_6 hop => exact readsFrom_pipe hwf hr hop
  -- every other handler leaves the binding as it was
  all_goals rw [Inbound.stdinAfter_of_ne (by simp_all)]
  case h_1 => exact readsFrom_changeState h₀ msg
  case h_2 => exact readsFrom_wait h₀ msg
  case h_3 =>
    split
    · exact readsFrom_create hwf h₀ hlive _ _ _
    · exact Ends.pure _ h₀
  case h_4 => exact readsFrom_kill hwf h₀ msg
  case h_5 => exact Ends.calm calm_list h₀
  case h_7 => exact readsFrom_startTarget hwf h₀ msg
  case h_8 => exact readsFrom_exit hwf h₀ msg

include hwf in
theorem readsFrom_dispatch {r : Record} (hr : m.table.get? q = some r) (msg : Message) :
    Ends (dispatch msg) m (·.table.ReadsFrom q ((Inbound.request msg).stdinAfter m q r.stdin)) := by
  cases hh : handlerFor msg with
  | none =>
    -- an operation with no handler is no pipe request
    have hop : msg.op ≠ .pipe := fun hop => by simp [handlerFor, hop] at hh
    unfold dispatch
    rw [hh, Inbound.stdinAfter_of_ne hop]
    exact Ends.calm (calm_forward msg) (Table.readsFrom_of_get? hr)
  | some h =>
    refine Ends.dispatch_handler hh fun m₁ hv₁ => ?_
    have ht₁ : m₁.table = m.table := congrArg View.table hv₁
    rw [← Inbound.stdinAfter_congr ht₁]
    exact readsFrom_handlerFor (ht₁ ▸ hwf) (ht₁ ▸ hr) hh

include hwf in
/-- Registering a unit gives a pending process its unit, and maybe starts it, in place. -/
theorem readsFrom_register (h : m.table.ReadsFrom q b) (id : String) :
    Ends (register id) m (·.table.ReadsFrom q b) := by
  unfold register
  refine Ends.get_bind ?_
  cases m.supervisor.pending with
  | nil => exact Ends.calm ((calm_log _ _ _).bind fun _ => calm_terminate id) h
  | cons p rest =>
    refine Ends.modify_bind (Ends.calm_bind calm_measurePending fun m₁ hv₁ _ =>
      Ends.modify_bind (Ends.get_bind ?_))
    have hv₂ : (m₁.installHandler id (.supervisor p.pid)).view = { m.view with pending := rest } :=
      (Machine.view_installHandler _ _ _).trans hv₁
    generalize m₁.installHandler id (.supervisor p.pid) = m₂ at hv₂ ⊢
    have ht₂ : m₂.table = m.table := congrArg View.table hv₂
    rw [ht₂]
    cases hreg : m.table.register p.pid id with
    | error f =>
      exact Ends.calm ((calm_log _ _ _).bind fun _ => (calm_terminate id).bind fun _ => calm_reply _ _)
        (readsFrom_view ht₂ h)
    | ok t =>
      obtain ⟨r, hr, -, rfl⟩ := Table.register_eq_ok hreg
      dsimp only
      refine Ends.modify_bind (Ends.get_bind ?_)
      generalize hm₃ : m₂.setTable (m.table.put p.pid { r with unit := some id }) = m₃
      have ht₃ : m₃.table = m.table.put p.pid { r with unit := some id } := by
        rw [← hm₃]
        rfl
      have hkeep₃ : m₃.table.ReadsFrom q b := by
        rw [ht₃]
        exact h.put hr rfl
      have hr₃ : m₃.table.get? p.pid = some { r with unit := some id } := by
        rw [ht₃, Table.get?_put hr, if_pos rfl]
      rw [hr₃]
      dsimp only
      refine Ends.ite (fun _ => Ends.bind (Ends.calm ?tail ?_))
        fun _ => Ends.bind (Ends.calm ?tail' hkeep₃)
      -- what follows the start, or its absence, only logs and answers
      case tail | tail' =>
        intro m'
        split
        · exact (calm_log _ _ _).bind (fun _ => (calm_log _ _ _).bind fun _ => calm_reply _ _) m'
        · exact (calm_log _ _ _).bind (fun _ => calm_reply _ _) m'
      have hpid : (r.pid : Int) = p.pid := hwf.pid_of_get? hr
      have hr₃' : m₃.table.get? ({ r with unit := some id } : Record).pid =
          some { r with unit := some id } := by
        rw [show (({ r with unit := some id } : Record).pid : Int) = p.pid from hpid]
        exact hr₃
      exact readsFrom_start hkeep₃ hr₃'

include hwf in
/-- Serving the head of the inbox leaves a live process the binding
`Inbound.stdinAfter` names. -/
theorem readsFrom_serveOne {item : Inbound} {rest : List Inbound} (hin : m.supervisor.inbox = item :: rest)
    {r : Record} (hr : m.table.get? q = some r) :
    Ends serveOne m (·.table.ReadsFrom q (item.stdinAfter m q r.stdin)) := by
  unfold serveOne
  refine Ends.get_bind ?_
  rw [hin]
  refine Ends.modify_bind (Ends.of_state (·.view = m.view) rfl fun m₁ hv₁ => ?_)
  have ht₁ : m₁.table = m.table := congrArg View.table hv₁
  rw [← Inbound.stdinAfter_congr ht₁]
  cases item with
  | request msg => exact Ends.bind (readsFrom_dispatch (ht₁ ▸ hwf) (ht₁ ▸ hr) msg)
  | announce id => exact Ends.bind (readsFrom_register (ht₁ ▸ hwf) (Table.readsFrom_of_get? (ht₁ ▸ hr)) id)

end Act

/-! ## Along a run -/

/-- A started process keeps its binding over any step. -/
theorem Step.stdin_of_started {m m' : Machine} (hs : Step m m') (hwf : m.table.Wf) {q : Int} {r r' : Record}
    (hr : m.table.get? q = some r) (hstart : r.started = true) (hr' : m'.table.get? q = some r') :
    r'.stdin = r.stdin := by
  cases hs with
  | arrive h =>
    have ht : m'.table = m.table := congrArg View.table (Machine.view_of_submit m h)
    rw [ht, hr] at hr'
    cases hr'
    rfl
  | serve hin _ =>
    rw [Act.readsFrom_serveOne hwf hin hr r' hr', Inbound.stdinAfter_of_started hr hstart]

/-- Along a run in which process `q` stays live, once started it keeps its binding. -/
theorem LiveStep.stdin_of_started {q : Nat} {m m' : Machine} (hrun : Relation.ReflTransGen (LiveStep q) m m')
    (h : m.view.Inv) {r r' : Record} (hr : m.table.get? q = some r) (hr' : m'.table.get? q = some r')
    (hstart : r.started = true) : r'.stdin = r.stdin := by
  induction hrun generalizing r' with
  | refl =>
    rw [hr] at hr'
    cases hr'
    rfl
  | @tail b c hab hbc ih =>
    obtain ⟨hs, hlive, -⟩ := hbc
    obtain ⟨rb, hrb⟩ := Option.isSome_iff_exists.mp hlive
    have hinv : b.view.Inv := Step.inv_run (hab.lift id fun _ _ h => h.1) h
    -- still started at `b`: a live process never loses its start
    have hsb : rb.started = true := (LiveStep.starts_le hab h hr hrb).1.started hstart
    calc r'.stdin = rb.stdin := hs.stdin_of_started hinv.wf hrb hsb hr'
      _ = r.stdin := ih hrb

theorem getD_getLast?_filterMap_cons {α β : Type} (f : α → Option β) (a : α) (l : List α) (b : β) :
    ((a :: l).filterMap f).getLast?.getD b = (l.filterMap f).getLast?.getD ((f a).getD b) := by
  cases h : f a <;> simp [h, List.getLast?_cons]

/-- Until a run serves its first item the table stays as it was. -/
theorem Served.table_first {m m' : Machine} {l : List (Machine × Inbound)} (h : Served m l m') :
    ((l.head?.map (·.1)).getD m').table = m.table := by
  induction h with
  | done => rfl
  | arrive ha _ ih => exact ih.trans (congrArg View.table (Machine.view_of_submit _ ha))
  | serve => rfl

/-- Along a run in which process `q` stays live, it reads what the last join
into it gave, or the binding it had when the run began. -/
theorem Served.stdin_eq {m m' : Machine} {l : List (Machine × Inbound)} (h : Served m l m')
    (hm : Reachable m) {q : Int} {r r' : Record} (hr : m.table.get? q = some r)
    (hlive : ∀ e ∈ l, (e.1.table.get? q).isSome) (hr' : m'.table.get? q = some r') :
    r'.stdin = ((l.filterMap fun e => e.2.joinsWith e.1 q).getLast?).getD r.stdin := by
  induction h generalizing r with
  | done =>
    rw [hr] at hr'
    cases hr'
    rfl
  | @arrive m m₁ _ _ _ ha _ ih =>
    have ht : m₁.table = m.table := congrArg View.table (Machine.view_of_submit _ ha)
    exact ih (hm.step (.arrive ha)) (ht ▸ hr) hlive hr'
  | @serve m _ item rest l hin hitem hrun ih =>
    -- `q` is live when the next item is served, or at the end of the run
    have hlive₂ : ((Act.serveOne.run m).2.table.get? q).isSome := by
      rw [← hrun.table_first]
      cases l with
      | nil => simp [hr']
      | cons e l => exact hlive e (by simp)
    obtain ⟨r₂, hr₂⟩ := Option.isSome_iff_exists.mp hlive₂
    rw [ih (hm.step (.serve hin hitem)) hr₂ (fun e he => hlive e (List.mem_cons_of_mem _ he)) hr',
      getD_getLast?_filterMap_cons, Act.readsFrom_serveOne hm.inv.wf hin hr r₂ hr₂,
      Inbound.stdinAfter_eq_getD]

/-! ## Joined pipes at start -/

/-- A pipe request is answered 0 exactly when it joins its processes, and then
the in-process reads the out-process's stdout. An arriving item binds nothing,
and serving one leaves every live process the binding `Inbound.stdinAfter`
names. A start that goes through sends the process's unit the payload of the
record it found, marked started, whose stdin is that binding; so a start at the
end of any run from a reachable machine, along which the process stays live,
sends the stdout of the out-process of the last join into it, or the binding it
had when the run began. From its start on the process keeps that binding. A step that frees a process has closed its stdout, and a
pipe's reader gets what was written to it, in order, and once the pipe is
closed and read out, the end of the stream on every later call. -/
theorem pipe_join_honoured :
    (∀ (m : Machine) (msg : Message), m.table.Wf → Act.Runs (Act.pipe msg) m fun o m' =>
        match m.joined? msg with
        | some i' => o = .answer (Reply.number 0) ∧ m'.table = m.table.put msg.inPid i'
        | none => o.isRefusal = true ∧ m'.table = m.table) ∧
    (∀ (m m' : Machine) (item : Inbound), m.submit item = .ok m' → m'.table = m.table) ∧
    (∀ (m : Machine) (item : Inbound) (rest : List Inbound) (q : Int) (r r' : Record), m.table.Wf →
        m.supervisor.inbox = item :: rest → m.table.get? q = some r →
        (Act.serveOne.run m).2.table.get? q = some r' → r'.stdin = item.stdinAfter m q r.stdin) ∧
    (∀ (m : Machine) (r r₀ : Record) (id : String), m.table.get? r.pid = some r₀ → r.unit = some id →
        ((Act.start r).run m).1 = .ok () →
        r₀.started = false ∧ (Act.payloadOf { r₀ with started := true }).stdin = r₀.stdin ∧
        (m.setTable (m.table.put r.pid { r₀ with started := true })).sendTo id
          { Message.of .init with start := some (Act.payloadOf { r₀ with started := true }) } =
          .ok ((Act.start r).run m).2) ∧
    (∀ (m m₁ : Machine) (l : List (Machine × Inbound)) (q : Int) (r r₁ s : Record) (id : String),
        Reachable m → Served m l m₁ → m.table.get? q = some r → (∀ e ∈ l, (e.1.table.get? q).isSome) →
        m₁.table.get? q = some r₁ → s.pid = q → s.unit = some id → ((Act.start s).run m₁).1 = .ok () →
        (m₁.setTable (m₁.table.put q { r₁ with started := true })).sendTo id
            { Message.of .init with start := some (Act.payloadOf { r₁ with started := true }) } =
          .ok ((Act.start s).run m₁).2 ∧
        (Act.payloadOf { r₁ with started := true }).stdin =
          ((l.filterMap fun e => e.2.joinsWith e.1 q).getLast?).getD r.stdin) ∧
    (∀ (q : Nat) (m m' : Machine) (r r' : Record), Reachable m → Relation.ReflTransGen (LiveStep q) m m' →
        m.table.get? q = some r → m'.table.get? q = some r' → r.started = true → r'.stdin = r.stdin) ∧
    (∀ (m m' : Machine) (a : Record), Reachable m → Step m m' → m.table.get? a.pid = some a →
        m'.table.get? a.pid = none → (m'.pipe a.stdout).closed = true) ∧
    (∀ (c : Nat) (cs : List PipeCall), taken ((Ring.new c).answers cs) <+: written cs ((Ring.new c).answers cs)) ∧
    (∀ (c : Nat) (pre post : List PipeCall), PipeCall.close ∈ pre →
        taken ((Ring.new c).answers pre) = written pre ((Ring.new c).answers pre) →
        (Ring.new c).answers (pre ++ post) = (Ring.new c).answers pre ++ post.map PipeCall.atEnd) := by
  refine ⟨fun m msg hwf => Act.runs_pipe hwf msg, ?_, ?_, ?_, ?_, ?_, ?_, Ring.reads_prefix_writes,
    fun c pre post hclose hread => Ring.answers_after_drained c hclose hread post⟩
  · intro m m' item h
    exact congrArg View.table (Machine.view_of_submit m h)
  · intro m item rest q r r' hwf hin hr hr'
    exact Act.readsFrom_serveOne hwf hin hr r' hr'
  · intro m r r₀ id hr₀ hid hok
    obtain ⟨hns, hsend⟩ := Act.runs_start hr₀ hid hok
    exact ⟨hns, rfl, hsend⟩
  · intro m m₁ l q r r₁ s id hm hrun hr hlive hr₁ hq hid hok
    subst hq
    exact ⟨(Act.runs_start hr₁ hid hok).2, hrun.stdin_eq hm hr hlive hr₁⟩
  · intro q m m' r r' hm hrun hr hr' hs
    exact LiveStep.stdin_of_started hrun hm.inv hr hr' hs
  · intro m m' a hm hs hr hgone
    exact ((hs.move hm.inv.wf).closes hm.inv hr hgone rfl).1

/-- In the sample run process 2 is joined to the output of process 1 and then
started: the start payload reads process 1's stdout, not process 2's own stdin.
And a pipe of capacity 4 written two bytes, closed and read out answers a later
read at the end of the stream. -/
theorem joined_start_reads_producer :
    ∃ r r₁ o, sampleClaimed.table.get? 2 = some r ∧ sampleJoin.2.table.get? 2 = some r₁ ∧
      sampleClaimed.table.get? 1 = some o ∧ ((Act.start r₁).run sampleJoin.2).1 = .ok () ∧
      (Act.payloadOf { r₁ with started := true }).stdin = o.stdout ∧ o.stdout ≠ r.stdin ∧
      (Ring.new 4).answers ([.write [104, 105], .close, .readAll] ++ [.read 1]) =
        (Ring.new 4).answers [.write [104, 105], .close, .readAll] ++ [PipeCall.atEnd (.read 1)] := by
  have hstart := pipe_join_honoured.2.2.2.2.1 sampleClaimed sampleJoin.2 sampleJoin.1 2 _ _
    ((sampleJoin.2.table.get? 2).get (by decide +kernel)) "u2" reachable_sampleClaimed
    (Served.of_plan (Option.some_get _).symm) (Option.some_get (by decide +kernel)).symm (by decide +kernel)
    (Option.some_get (by decide +kernel)).symm (by decide +kernel) (by decide +kernel) (by decide +kernel)
  refine ⟨_, _, _, (Option.some_get (by decide +kernel)).symm, (Option.some_get (by decide +kernel)).symm,
    (Option.some_get (by decide +kernel)).symm, by decide +kernel, hstart.2.trans (by decide +kernel),
    by decide +kernel, ?_⟩
  exact pipe_join_honoured.2.2.2.2.2.2.2.2 4 _ [.read 1] (by simp) (by decide)

end Userland
