import Userland.Proofs.Supervisor.Invariant

/-! # Only a kill or an exit ends a process

Serving an item of the inbox takes a live process out of the table only when
the item is a kill of that process or an exit stamped with its number
(`Inbound.Ending`). Every other handler changes records in place, adds one, or
takes back the one it added; a kill or an exit ends only the process it names.
`Step.keepsLive` states it for every step of the manager.
-/

namespace Userland

/-- Whether serving an item may end process `q`: it is a kill of `q`, or an exit
stamped `q`. -/
def Inbound.Ending (q : Int) : Inbound → Prop
  | .request msg => (msg.op = .kill ∧ msg.target = q) ∨ (msg.op = .exit ∧ msg.pid = q)
  | .announce _ => False

namespace Machine

/-- Process `q`, if live in `m`, is live in the view `v`. -/
def KeepsLive (q : Int) (m : Machine) (v : View) : Prop :=
  (m.table.get? q).isSome → (v.table.get? q).isSome

theorem KeepsLive.of_table {q : Int} {m : Machine} {v : View} (h : v.table = m.table) :
    m.KeepsLive q v :=
  fun hq => h ▸ hq

/-- Keeping a process live depends on the table the run starts from. -/
theorem KeepsLive.congr {q : Int} {m m₁ : Machine} {v : View} (h : m₁.table = m.table)
    (hk : m₁.KeepsLive q v) : m.KeepsLive q v :=
  fun hq => hk (h ▸ hq)

end Machine

namespace Table

variable {t : Table} {p q : Int}

theorem isSome_get?_put {r₀ : Record} (hr : t.get? p = some r₀) (r : Record)
    (hq : (t.get? q).isSome) : ((t.put p r).get? q).isSome := by
  rw [get?_put hr]
  split <;> simp [hq]

theorem isSome_get?_of_update {f : Record → Except Fault Record} {t' : Table}
    (hu : t.update p f = .ok t') (hq : (t.get? q).isSome) : (t'.get? q).isSome := by
  obtain ⟨r, r', hr, -, rfl⟩ := update_eq_ok_iff.mp hu
  exact isSome_get?_put hr r' hq

theorem isSome_get?_of_free {t' : Table} (hf : t.free p = .ok t') (hqp : q ≠ p)
    (hq : (t.get? q).isSome) : (t'.get? q).isSome := by
  rw [get?_of_free hf, if_neg hqp]
  exact hq

end Table

namespace Act

variable {α : Type} {m : Machine} {q : Int} (hwf : m.table.Wf)

theorem keepsLive_calm {x : Act α} (hx : Calm x) : Ends x m (m.KeepsLive q) := Ends.calm hx id

theorem keepsLive_changeState (msg : Message) : Ends (changeState msg) m (m.KeepsLive q) := by
  unfold changeState
  cases State.ofName? msg.state with
  | none => exact Ends.pure _ id
  | some s =>
    refine Ends.get_bind ?_
    cases hs : m.table.setState msg.pid s with
    | error f => exact Ends.pure _ id
    | ok t =>
      obtain ⟨r, st, -, hafter, -, hother, -⟩ := Table.setStateNamed_moves hs
      refine Ends.modify_bind (Ends.pure _ fun hq => ?_)
      show (t.get? q).isSome
      by_cases hqp : q = msg.pid
      · rw [hqp, hafter]
        rfl
      · rw [hother q hqp]
        exact hq

theorem keepsLive_wait (msg : Message) : Ends (wait msg) m (m.KeepsLive q) := by
  unfold wait
  cases msg.signal with
  | none => exact Ends.pure _ id
  | some sig =>
    refine Ends.get_bind (Ends.ite (fun _ => Ends.pure _ id)
      fun _ => Ends.ite (fun _ => Ends.pure _ id) fun _ => ?_)
    refine Ends.modify_bind (Ends.calm
      (calm_get_bind fun m' => ((calm_log _ _ _).bind fun _ => calm_pure _) m') ?_)
    rw [Machine.view_addWaiter]
    exact id

include hwf in
/-- A creation adds a process in a free slot, or gives that slot back. -/
theorem keepsLive_create (caller : Int) (req : CreateRequest) (sig : Option Nat) :
    Ends (create caller req sig) m (m.KeepsLive q) := by
  unfold create
  refine Ends.get_bind ?_
  refine Ends.ite (fun _ => Ends.pure _ id) fun _ => ?_
  refine Ends.ite (fun _ => Ends.pure _ id) fun _ => ?_
  refine Ends.calm_bind (calm_load _) fun m₁ hv₁ loaded => ?_
  have ht₁ : m₁.table = m.table := congrArg View.table hv₁
  cases loaded with
  | crashed => exact Ends.pure _ (.of_table ht₁)
  | failed f => exact Ends.pure _ (.of_table ht₁)
  | source source =>
    refine Ends.get_bind (Ends.ite (fun _ => Ends.pure _ (.of_table ht₁)) fun _ => ?_)
    refine Ends.bind ?_
    obtain ⟨c, hends, hv₂⟩ := run_openChannels m₁
    rw [hends]
    generalize (openChannels.run m₁).2 = m₂ at hv₂
    have ht₂ : m₂.table = m.table := (congrArg View.table hv₂).trans ht₁
    refine Ends.get_bind ?_
    rw [ht₂]
    split
    · exact Ends.pure _ (.of_table ht₂)
    · rename_i r t ha
      obtain ⟨-, hfree₀, -, -, -, -, -, hget⟩ := hwf.get?_of_allocate ha
      -- the new process took a slot that no live process had
      have hkeep : m.KeepsLive q ({ m.view with table := t } : View) := fun hq => by
        show (t.get? q).isSome
        rw [hget]
        split
        · rfl
        · exact hq
      refine Ends.set_bind (Ends.calm_bind calm_spawn fun m₄ hv₄ res => ?_)
      have ht₄ : m₄.table = t := congrArg View.table hv₄
      cases res with
      | error f =>
        -- no unit: the slot just taken is freed again
        refine Ends.modify_bind (Ends.of_state (fun m₅ => m₅.table = t) ht₄
          fun m₅ ht₅ => Ends.modify_bind (Ends.pure _ fun hq => ?_))
        rw [Machine.view_table, ht₅]
        split
        · rename_i t' hfree
          show (t'.get? q).isSome
          rw [hwf.get?_of_allocate_free ha hfree q]
          exact hq
        · exact ht₅ ▸ hkeep hq
      | ok id =>
        exact Ends.calm (calm_measurePending.bind fun _ => calm_measureLive.bind fun _ =>
          (calm_measure _).bind fun _ => (calm_log _ _ _).bind fun _ => calm_pure _)
          fun hq => by
            show (m₄.table.get? q).isSome
            rw [ht₄]
            exact hkeep hq

include hwf in
/-- A kill ends only its target. -/
theorem keepsLive_kill (msg : Message) (hne : msg.target ≠ q) : Ends (kill msg) m (m.KeepsLive q) := by
  unfold kill
  refine Ends.get_bind ?_
  cases hr : m.table.get? msg.target with
  | none => exact Ends.pure _ id
  | some r =>
    dsimp only
    cases r.unit with
    | none => exact Ends.pure _ id
    | some id =>
      refine Ends.calm_bind (calm_terminate id) fun m₁ hv₁ _ => Ends.bind (Ends.pure _ ?_)
      have ht₁ : m₁.table = m.table := congrArg View.table hv₁
      have hr₁ : m₁.table.get? r.pid = some r := by rw [ht₁]; exact hwf.get?_pid hr
      obtain ⟨t, hfree, hend⟩ := ends_finish hr₁ 137 "kill"
      have hpid : (r.pid : Int) = msg.target := hwf.pid_of_get? hr
      intro hq
      rw [show ((finish r 137 "kill").run m₁).2.view = m₁.endedView r t from hend]
      rw [ht₁] at hfree
      exact Table.isSome_get?_of_free hfree (hpid ▸ Ne.symm hne) hq

include hwf in
/-- An exit ends only the process it is stamped with. -/
theorem keepsLive_exit (msg : Message) (hne : msg.pid ≠ q) : Ends (exit msg) m (m.KeepsLive q) := by
  cases hr : m.table.get? msg.pid with
  | none =>
    unfold exit
    refine Ends.get_bind ?_
    rw [hr]
    exact Ends.pure _ id
  | some r =>
    obtain ⟨t, hfree, hend⟩ := exit_ends_holder hwf msg hr
    have hpid : (r.pid : Int) = msg.pid := hwf.pid_of_get? hr
    intro hq
    rw [show ((exit msg).run m).2.view = m.endedView r t from hend]
    exact Table.isSome_get?_of_free hfree (hpid ▸ Ne.symm hne) hq

theorem keepsLive_pipe (msg : Message) : Ends (pipe msg) m (m.KeepsLive q) := by
  unfold pipe
  refine Ends.get_bind ?_
  dsimp only
  cases m.table.get? msg.outPid with
  | none => exact Ends.pure _ id
  | some o =>
    cases m.table.get? msg.inPid with
    | none => exact Ends.pure _ id
    | some i =>
      dsimp only
      refine Ends.ite (fun _ => Ends.pure _ id) fun _ => Ends.ite (fun _ => Ends.pure _ id) fun _ => ?_
      split
      · exact Ends.pure _ id
      · rename_i t hu
        refine Ends.modify_bind (Ends.calm ((calm_log _ _ _).bind fun _ => calm_pure _) ?_)
        exact Table.isSome_get?_of_update hu

/-- A start marks one record started, in place. -/
theorem keepsLive_start {r : Record} (hr : m.table.get? r.pid = some r) :
    Ends (start r) m (m.KeepsLive q) := by
  rcases ends_start hr with h | ⟨id, sent, -, -, h⟩
  · intro hq
    rw [show ((start r).run m).2.view = m.view from h]
    exact hq
  · intro hq
    rw [show ((start r).run m).2.view = _ from h]
    exact Table.isSome_get?_put hr _ hq

include hwf in
theorem keepsLive_startTarget (msg : Message) : Ends (startTarget msg) m (m.KeepsLive q) := by
  unfold startTarget
  refine Ends.get_bind ?_
  cases hr : m.table.get? msg.target with
  | none => exact Ends.pure _ id
  | some r =>
    refine Ends.bind ?_
    have hkeep := keepsLive_start (q := q) (hwf.get?_pid hr)
    split <;> exact Ends.pure _ hkeep

include hwf in
/-- A handler ends no process but the one a kill or an exit names. -/
theorem keepsLive_handlerFor {msg : Message} {h : Act Outcome} (hh : handlerFor msg = some h)
    (hmsg : ¬ (Inbound.request msg).Ending q) : Ends h m (m.KeepsLive q) := by
  unfold handlerFor at hh
  split at hh <;> cases hh
  case h_1 => exact keepsLive_changeState msg
  case h_2 => exact keepsLive_wait msg
  case h_3 =>
    split
    · exact keepsLive_create hwf _ _ _
    · exact Ends.pure _ id
  case h_4 hop => exact keepsLive_kill hwf msg fun ht => hmsg (.inl ⟨hop, ht⟩)
  case h_5 => exact keepsLive_calm calm_list
  case h_6 => exact keepsLive_pipe msg
  case h_7 => exact keepsLive_startTarget hwf msg
  case h_8 hop => exact keepsLive_exit hwf msg fun hp => hmsg (.inr ⟨hop, hp⟩)

include hwf in
theorem keepsLive_dispatch {msg : Message} (hmsg : ¬ (Inbound.request msg).Ending q) :
    Ends (dispatch msg) m (m.KeepsLive q) := by
  cases hh : handlerFor msg with
  | none =>
    unfold dispatch
    rw [hh]
    exact keepsLive_calm (calm_forward msg)
  | some h =>
    refine Ends.dispatch_handler hh fun m₁ hv₁ hq => ?_
    have ht₁ : m₁.table = m.table := congrArg View.table hv₁
    exact keepsLive_handlerFor (ht₁ ▸ hwf) hh hmsg (ht₁ ▸ hq)

include hwf in
/-- Registering a unit gives a pending process its unit, and maybe starts it, in place. -/
theorem keepsLive_register (id : String) : Ends (register id) m (m.KeepsLive q) := by
  unfold register
  refine Ends.get_bind ?_
  cases m.supervisor.pending with
  | nil => exact keepsLive_calm ((calm_log _ _ _).bind fun _ => calm_terminate id)
  | cons p rest =>
    refine Ends.modify_bind (Ends.calm_bind calm_measurePending fun m₁ hv₁ _ =>
      Ends.modify_bind (Ends.get_bind ?_))
    have hv₂ : (m₁.installHandler id (.supervisor p.pid)).view = { m.view with pending := rest } :=
      (Machine.view_installHandler _ _ _).trans hv₁
    generalize m₁.installHandler id (.supervisor p.pid) = m₂ at hv₂ ⊢
    have ht₂ : m₂.table = m.table := congrArg View.table hv₂
    rw [ht₂]
    cases hreg : m.table.register p.pid id with
    | error f =>
      exact Ends.calm ((calm_log _ _ _).bind fun _ => (calm_terminate id).bind fun _ => calm_reply _ _)
        (.of_table ht₂)
    | ok t =>
      obtain ⟨r, hr, -, rfl⟩ := Table.register_eq_ok hreg
      dsimp only
      refine Ends.modify_bind (Ends.get_bind ?_)
      generalize hm₃ : m₂.setTable (m.table.put p.pid { r with unit := some id }) = m₃
      have ht₃ : m₃.table = m.table.put p.pid { r with unit := some id } := by
        rw [← hm₃]
        rfl
      have hkeep₃ : m.KeepsLive q m₃.view := fun hq => by
        show (m₃.table.get? q).isSome
        rw [ht₃]
        exact Table.isSome_get?_put hr _ hq
      have hr₃ : m₃.table.get? p.pid = some { r with unit := some id } := by
        rw [ht₃, Table.get?_put hr, if_pos rfl]
      rw [hr₃]
      dsimp only
      refine Ends.ite (fun _ => Ends.bind (Ends.calm ?tail ?_))
        fun _ => Ends.bind (Ends.calm ?tail' hkeep₃)
      -- what follows the start, or its absence, only logs and answers
      case tail | tail' =>
        intro m'
        split
        · exact (calm_log _ _ _).bind (fun _ => (calm_log _ _ _).bind fun _ => calm_reply _ _) m'
        · exact (calm_log _ _ _).bind (fun _ => calm_reply _ _) m'
      have hpid : (r.pid : Int) = p.pid := hwf.pid_of_get? hr
      have hr₃' : m₃.table.get? ({ r with unit := some id } : Record).pid =
          some { r with unit := some id } := by
        rw [show (({ r with unit := some id } : Record).pid : Int) = p.pid from hpid]
        exact hr₃
      intro hq
      exact keepsLive_start hr₃' (hkeep₃ hq)

include hwf in
/-- Serving the head of the inbox ends no process it does not name. -/
theorem keepsLive_serveOne {item : Inbound} {rest : List Inbound}
    (hin : m.supervisor.inbox = item :: rest) (hitem : ¬ item.Ending q) :
    Ends serveOne m (m.KeepsLive q) := by
  unfold serveOne
  refine Ends.get_bind ?_
  rw [hin]
  refine Ends.modify_bind (Ends.of_state (·.view = m.view) rfl fun m₁ hv₁ => ?_)
  have ht₁ : m₁.table = m.table := congrArg View.table hv₁
  cases item with
  | request msg => exact Ends.bind (Machine.KeepsLive.congr ht₁ (keepsLive_dispatch (ht₁ ▸ hwf) hitem))
  | announce id => exact Ends.bind (Machine.KeepsLive.congr ht₁ (keepsLive_register (ht₁ ▸ hwf) id))

end Act

/-- A step of the manager leaves every live process live, unless it serves a
kill of it or an exit stamped with its number. -/
theorem Step.keepsLive {m m' : Machine} (hs : Step m m') (hwf : m.table.Wf) {q : Int}
    (hq : (m.table.get? q).isSome)
    (hhead : ∀ item rest, m.supervisor.inbox = item :: rest → ¬ item.Ending q) :
    (m'.table.get? q).isSome := by
  cases hs with
  | arrive h =>
    rw [show m'.table = m.table from congrArg View.table (Machine.view_of_submit m h)]
    exact hq
  | serve hin _ => exact Act.keepsLive_serveOne hwf hin (hhead _ _ hin) hq

end Userland
