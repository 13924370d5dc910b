import Mathlib.Algebra.Order.Group.Multiset
import Mathlib.Tactic.Abel
import Userland.Proofs.Supervisor.Watch

/-! # Every answer pays one debt

A request the loop has a handler for is owed one answer on its signal, if it
carries one (`Inbound.debts`). While the request is queued the debt is the
inbox's. Serving it pays the debt at once, or hands it to the loop: a creation
is answered when a unit claims the new process, so its debt waits in the
pending queue; a wait is answered when its target ends, so its debt waits among
the waiters on the target (`View.held`).

`Machine.PaysOn owe m m' extra` says that from `m` to `m'` every answer given
paid one debt, counted by `owe` or brought in as `extra`, and that what `owe`
counted then with `extra` is what it counts now with what was paid, and with
the waits given up when their target ended: those of a process whose record is
gone or holds another signal, never the host's. Each handler pays in this sense
what the loop holds (`pays_handlerFor`); an arriving item brings its debt into
the inbox (`Machine.pays_submit`) and serving it settles it
(`Act.settles_serveOne`), so along any run the answers given, the debts still
owed and the waits given up are exactly the debts at the start and those of the
items that arrived (`answers_pay_debts`).
-/

namespace Userland

/-- An answer owed: the signal it goes to, and the operation of the request it
answers. -/
structure Debt where
  signal : Nat
  op : Op
  deriving DecidableEq, Repr

namespace Debt

/-- The debt of a request of operation `op` with reply signal `sig`: none
without a signal. -/
def on (sig : Option Nat) (op : Op) : List Debt := sig.toList.map (⟨·, op⟩)

@[simp] theorem map_signal_on (sig : Option Nat) (op : Op) : (on sig op).map Debt.signal = sig.toList := by
  cases sig <;> rfl

end Debt

/-- What an item of the inbox is owed: a request the loop has a handler for,
one answer on its signal; an announcement, or a request handed back to its
sender's unit, nothing. -/
def Inbound.debts : Inbound → List Debt
  | .request msg => if (Act.handlerFor msg).isSome then Debt.on msg.signal msg.op else []
  | .announce _ => []

/-- The debts of the items queued in an inbox. -/
def Inbound.owed (l : List Inbound) : Multiset Debt := (l.flatMap Inbound.debts : List Debt)

@[simp] theorem Inbound.owed_nil : Inbound.owed [] = 0 := rfl

@[simp] theorem Inbound.owed_cons (i : Inbound) (l : List Inbound) :
    Inbound.owed (i :: l) = (i.debts : Multiset Debt) + Inbound.owed l := by
  simp [owed]

@[simp] theorem Inbound.owed_append (l l' : List Inbound) :
    Inbound.owed (l ++ l') = Inbound.owed l + Inbound.owed l' := by
  simp [owed]

/-- A creation waiting for a unit is owed its answer on its creator's signal. -/
def Pending.debts (p : Pending) : List Debt := Debt.on p.signal .create

/-- A waiter is owed its answer on its signal. -/
def Waiter.debt (w : Waiter) : Debt := ⟨w.signal, .waitOnPid⟩

/-- The debts of the waiters filed in a waiting list. -/
def Waiter.owed (l : List (Nat × List Waiter)) : Multiset Debt :=
  (l.flatMap fun e => e.2.map Waiter.debt : List Debt)

/-- The debts the loop holds in a view: each pending creation's and each
waiter's. -/
def View.held (v : View) : Multiset Debt :=
  (v.pending.flatMap Pending.debts : List Debt) + Waiter.owed v.waiting

/-- Everything the supervisor owes: the debts of its inbox, and those the loop
holds. -/
def Machine.debts (m : Machine) : Multiset Debt := Inbound.owed m.supervisor.inbox + m.view.held

/-! ## Waiting lists that file each process once -/

namespace Waiter

@[simp] theorem owed_nil : Waiter.owed [] = 0 := rfl

@[simp] theorem owed_cons (e : Nat × List Waiter) (l : List (Nat × List Waiter)) :
    Waiter.owed (e :: l) = (e.2.map Waiter.debt : Multiset Debt) + Waiter.owed l := by
  simp [owed]

@[simp] theorem owed_append (l l' : List (Nat × List Waiter)) :
    Waiter.owed (l ++ l') = Waiter.owed l + Waiter.owed l' := by
  simp [owed]

/-- Taking the waiters on `p` out of a list that files each process once leaves
the debts of all the others. -/
theorem owed_filter {l : List (Nat × List Waiter)} (hl : (l.map (·.1)).Nodup) (p : Nat) :
    Waiter.owed (l.filter (·.1 != p)) + (((l.lookup p).getD []).map Waiter.debt : Multiset Debt) =
      Waiter.owed l := by
  induction l with
  | nil => simp
  | cons e l ih =>
    obtain ⟨q, ws⟩ := e
    rw [List.map_cons, List.nodup_cons] at hl
    by_cases hqp : q = p
    · subst hqp
      -- no other entry files `q`, so the filter keeps the rest whole
      have hrest : l.filter (·.1 != q) = l := List.filter_eq_self.mpr fun e he => by
        have hne : e.1 ≠ q := fun h => hl.1 (List.mem_map.mpr ⟨e, he, h⟩)
        simpa using hne
      simp only [List.filter_cons, bne_self_eq_false, Bool.false_eq_true, if_false, hrest,
        List.lookup_cons, beq_self_eq_true, Option.getD_some, owed_cons]
      exact add_comm _ _
    · have hb : (p == q) = false := beq_eq_false_iff_ne.mpr (Ne.symm hqp)
      have hkeep : (q != p) = true := bne_iff_ne.mpr hqp
      simp only [List.filter_cons, hkeep, if_true, List.lookup_cons, hb, owed_cons]
      rw [add_assoc, ih hl.2]

/-- Giving the entry of `target` the waiters `ws ++ [w]`, where `ws` were filed
on it, adds the debt of `w` when `target` is filed once. -/
theorem owed_map_replace {l : List (Nat × List Waiter)} (hl : (l.map (·.1)).Nodup) {target : Nat}
    {ws : List Waiter} (hws : l.lookup target = some ws) (w : Waiter) :
    Waiter.owed (l.map fun (t, l') => if t = target then (t, ws ++ [w]) else (t, l')) =
      Waiter.owed l + {w.debt} := by
  induction l with
  | nil => cases hws
  | cons e l ih =>
    obtain ⟨q, ws'⟩ := e
    rw [List.map_cons, List.nodup_cons] at hl
    by_cases hqt : q = target
    · subst hqt
      -- this is the entry of `target`; no other entry files it
      simp only [List.lookup_cons, beq_self_eq_true, Option.some.injEq] at hws
      subst hws
      have hrest : (l.map fun (t, l') => if t = q then (t, ws' ++ [w]) else (t, l')) = l := by
        refine (List.map_congr_left fun e he => ?_).trans (List.map_id l)
        obtain ⟨t, l'⟩ := e
        have hne : t ≠ q := fun h => hl.1 (List.mem_map.mpr ⟨(t, l'), he, h⟩)
        simp [hne]
      simp only [List.map_cons, if_pos, hrest, owed_cons, List.map_append, List.map_nil,
        ← Multiset.coe_add, Multiset.coe_singleton]
      exact add_right_comm _ _ _
    · have hb : (target == q) = false := beq_eq_false_iff_ne.mpr (Ne.symm hqt)
      have hl' : l.lookup target = some ws := by simpa [List.lookup_cons, hb] using hws
      simp only [List.map_cons, hqt, if_false, owed_cons]
      rw [ih hl.2 hl', add_assoc]

end Waiter

namespace Supervisor

/-- A new waiter adds its debt to a waiting list that files each process once. -/
theorem owed_addWaiter (s : Supervisor) (hs : (s.waiting.map (·.1)).Nodup) (target : Nat) (w : Waiter) :
    Waiter.owed (s.addWaiter target w).waiting = Waiter.owed s.waiting + {w.debt} := by
  rw [Machine.addWaiter_waiting]
  cases hws : s.waiting.lookup target with
  | some ws => exact Waiter.owed_map_replace hs hws w
  | none => simp

/-- A new waiter keeps each process filed once. -/
theorem nodup_addWaiter (s : Supervisor) (hs : (s.waiting.map (·.1)).Nodup) (target : Nat) (w : Waiter) :
    ((s.addWaiter target w).waiting.map (·.1)).Nodup := by
  rw [Machine.addWaiter_waiting]
  cases hws : s.waiting.lookup target with
  | some ws =>
    -- each entry keeps its number
    dsimp only
    rw [List.map_map]
    convert hs using 1
    refine List.map_congr_left fun e _ => ?_
    simp only [Function.comp_apply]
    split_ifs <;> rfl
  | none =>
    -- the target was filed nowhere, so its new entry is the only one
    dsimp only
    rw [List.map_append, List.nodup_append]
    refine ⟨hs, List.nodup_singleton _, fun a ha b hb => ?_⟩
    rw [List.mem_singleton.mp hb]
    rintro rfl
    obtain ⟨⟨q, l⟩, he, rfl⟩ := List.mem_map.mp ha
    have hne := List.lookup_eq_none_iff.mp hws (q, l) he
    simp at hne

end Supervisor

/-! ## Paying debts -/

/-- The replies to a signal go to its number, once each. -/
theorem map_fst_answerTo (sig : Option Nat) (r : Reply) : (answerTo sig r).map Prod.fst = sig.toList := by
  cases sig <;> rfl

/-- The waiters the end of a process gives up once its slot is gone from `t`:
those of a process that is gone from `t` or holds another signal there. The
host is never given up. -/
def Table.dropped (t : Table) (ws : List Waiter) : List Waiter :=
  ws.filter fun w => !(w.pid == 0 || (t.get? w.pid).any (·.signal == w.signal))

theorem Table.pid_ne_zero_of_dropped {t : Table} {ws : List Waiter} {w : Waiter} (hw : w ∈ t.dropped ws) :
    w.pid ≠ 0 := by
  intro h0
  simp [Table.dropped, h0] at hw

/-- The released answers go to the waiters kept, in order. -/
theorem Table.map_fst_released (t : Table) (ws : List Waiter) (code : Int) :
    (t.released ws code).map Prod.fst =
      (ws.filter fun w => w.pid == 0 || (t.get? w.pid).any (·.signal == w.signal)).map Waiter.signal := by
  induction ws with
  | nil => rfl
  | cons w ws ih =>
    unfold Table.released at ih ⊢
    cases hk : (w.pid == 0 || (t.get? w.pid).any (·.signal == w.signal)) with
    | true => simp only [List.filterMap_cons, List.filter_cons, hk, ↓reduceIte, List.map_cons, ih]
    | false => simp only [List.filterMap_cons, List.filter_cons, hk, Bool.false_eq_true, ↓reduceIte, ih]

/-- Split by any test, waiters owe what they owed together. -/
theorem Waiter.owed_split (ws : List Waiter) (p : Waiter → Bool) :
    (((ws.filter p).map Waiter.debt : List Debt) : Multiset Debt) +
        ((ws.filter fun w => !p w).map Waiter.debt : List Debt) =
      (ws.map Waiter.debt : List Debt) := by
  rw [Multiset.coe_add, Multiset.coe_eq_coe, ← List.map_append]
  exact (List.filter_append_perm p ws).map _

namespace Machine

/-- From `m` to `m'` the answers `L` were given in order, the `i`-th paying the
`i`-th debt of `paid`, and the waits `dropped` were given up, none of them the
host's; the debts `owe` counts at `m'`, with what was paid and given up, are
those it counted at `m` with `extra`. -/
def PaysOn (owe : Machine → Multiset Debt) (m m' : Machine) (extra : Multiset Debt) : Prop :=
  ∃ (L : List (Nat × Reply)) (paid : List Debt) (dropped : List Waiter),
    m.Answered m' L ∧ paid.map Debt.signal = L.map Prod.fst ∧ (∀ w ∈ dropped, w.pid ≠ 0) ∧
      owe m' + (paid : Multiset Debt) + (dropped.map Waiter.debt : List Debt) = owe m + extra

/-- Paying what the loop holds. -/
abbrev Pays (m m' : Machine) (extra : Multiset Debt) : Prop := PaysOn (·.view.held) m m' extra

variable {owe : Machine → Multiset Debt} {m m₁ m₂ : Machine} {e e₁ e₂ : Multiset Debt}

/-- Taking on debts: nothing is answered, and `extra` more is owed. -/
theorem PaysOn.hold (hh : owe m₁ = owe m + e) (hans : m.Answered m₁ []) : m.PaysOn owe m₁ e :=
  ⟨[], [], [], hans, rfl, fun _ h => absurd h List.not_mem_nil, by simp [hh]⟩

/-- Nothing the loop holds or answers changes. -/
theorem Pays.quiet (hh : m₁.view.held = m.view.held) (hs : m₁.signals = m.signals) : m.Pays m₁ 0 :=
  PaysOn.hold (by rw [hh, add_zero]) (.of_signals hs)

/-- Paying in two stretches pays what each brought in. -/
theorem PaysOn.trans (h₁ : m.PaysOn owe m₁ e₁) (h₂ : m₁.PaysOn owe m₂ e₂) : m.PaysOn owe m₂ (e₁ + e₂) := by
  obtain ⟨L₁, p₁, d₁, ha₁, hp₁, hd₁, hb₁⟩ := h₁
  obtain ⟨L₂, p₂, d₂, ha₂, hp₂, hd₂, hb₂⟩ := h₂
  refine ⟨L₁ ++ L₂, p₁ ++ p₂, d₁ ++ d₂, ha₁.trans ha₂, by simp [hp₁, hp₂], fun w hw => ?_, ?_⟩
  · rcases List.mem_append.mp hw with hw | hw
    exacts [hd₁ w hw, hd₂ w hw]
  · -- the second stretch starts from what the first left
    simp only [List.map_append, ← Multiset.coe_add]
    calc owe m₂ + (↑p₁ + ↑p₂) + (↑(d₁.map Waiter.debt) + ↑(d₂.map Waiter.debt))
        = (owe m₂ + ↑p₂ + ↑(d₂.map Waiter.debt)) + (↑p₁ + ↑(d₁.map Waiter.debt)) := by abel
      _ = (owe m₁ + ↑p₁ + ↑(d₁.map Waiter.debt)) + e₂ := by rw [hb₂]; abel
      _ = owe m + (e₁ + e₂) := by rw [hb₁]; abel

/-- What was paid since a machine that holds and answered the same. -/
theorem Pays.of_quiet (hh : m₁.view.held = m.view.held) (hs : m₁.signals = m.signals) (h : m₁.Pays m₂ e) :
    m.Pays m₂ e := by
  simpa using (Pays.quiet hh hs).trans h

/-- What was paid, up to a machine that holds and answered the same. -/
theorem Pays.then_quiet (h : m.Pays m₁ e) (hh : m₂.view.held = m₁.view.held) (hs : m₂.signals = m₁.signals) :
    m.Pays m₂ e := by
  simpa using h.trans (Pays.quiet hh hs)

/-- Debts taken out of what the loop holds are paid later as if brought in. -/
theorem Pays.unhold {e' : Multiset Debt} (hh : m₁.view.held + e = m.view.held) (hs : m₁.signals = m.signals)
    (h : m₁.Pays m₂ (e + e')) : m.Pays m₂ e' := by
  obtain ⟨L, p, d, ha, hp, hd, hb⟩ := h
  refine ⟨L, p, d, ha.left hs, hp, hd, ?_⟩
  beta_reduce at hb ⊢
  rw [hb, ← hh, add_assoc]

/-- A reply on a signal pays one debt owed on it. -/
theorem pays_reply (m : Machine) (sig : Option Nat) (r : Reply) (op : Op) :
    m.Pays (m.reply sig r) (Debt.on sig op : List Debt) :=
  ⟨answerTo sig r, Debt.on sig op, [], m.answered_reply sig r, by simp [map_fst_answerTo], by simp,
    by simp [view_reply]⟩

/-- After the handler, the loop's answer pays its request's debt `own`, unless
the handler deferred the answer. -/
theorem pays_answer {msg : Message} {o : Outcome} (own : Op) (hv : m₁.view = m.view)
    (hans : m.Answered m₁ ((o.reply?.map (answerTo msg.signal)).getD [])) :
    m.Pays m₁ (if o.reply?.isNone then 0 else (Debt.on msg.signal own : List Debt)) := by
  cases hr : o.reply? with
  | none =>
    rw [hr] at hans
    exact PaysOn.hold (by rw [hv]; simp) hans
  | some r =>
    rw [hr] at hans
    exact ⟨answerTo msg.signal r, Debt.on msg.signal own, [], hans, by simp [map_fst_answerTo], by simp,
      by simp [hv]⟩

theorem signals_installHandler (m : Machine) (id : String) (h : Handler) :
    (m.installHandler id h).signals = m.signals := by
  unfold installHandler
  dsimp only
  split
  · split <;> rfl
  · rfl

theorem signals_of_sendTo (m : Machine) {id : String} {msg : Message} {m' : Machine}
    (h : m.sendTo id msg = .ok m') : m'.signals = m.signals := by
  unfold sendTo at h
  split at h
  · cases h
  · split at h
    · split at h
      · cases h
      · cases h
        rfl
    · split at h
      · cases h
      · cases h
        rfl

/-- Opening a new process's channels adds pipes and a signal, and answers and
holds nothing more. -/
theorem runs_openChannels :
    (Act.openChannels.run m).2.view.held = m.view.held ∧ m.Answered (Act.openChannels.run m).2 [] := by
  obtain ⟨c, -, hv⟩ := Act.run_openChannels (m := m)
  refine ⟨by rw [hv]; rfl, ?_⟩
  simp only [Act.openChannels, Act.run_bind, Act.run_get, Act.run_modifyGet, Act.run_pure, newPipe]
  exact answered_newSignal _ _

end Machine

/-- What a handler that returned `o` leaves owed of its request's debt `own`:
all of it when the answer is deferred, none when the loop answers. -/
def Outcome.owes (o : Outcome) (own : Multiset Debt) : Multiset Debt := if o.reply?.isNone then own else 0

/-- What a handler leaves owed, and what the loop then answers, make up the
request's debt. -/
theorem Outcome.owes_add (o : Outcome) (own : Multiset Debt) :
    o.owes own + (if o.reply?.isNone then 0 else own) = own := by
  unfold owes
  split <;> simp

theorem Outcome.owes_of_isSome {o : Outcome} (h : o.reply?.isSome) (own : Multiset Debt) : o.owes own = 0 := by
  unfold owes
  cases hr : o.reply? with
  | none => rw [hr] at h; cases h
  | some _ => rfl

namespace Act

variable {m : Machine}

/-- Ending a live process pays the debts of its waiters: each still there is
answered, and each whose process is gone or holds another signal is given up. -/
theorem pays_finish {r : Record} (hr : m.table.get? r.pid = some r) (code : Int) (reason : String)
    (hkeys : (m.supervisor.waiting.map (·.1)).Nodup) :
    Runs (finish r code reason) m fun _ m' => m.Pays m' 0 := by
  obtain ⟨t, -, hfin⟩ := runs_finish hr code reason
  refine hfin.imp fun _ m' ⟨hv, hans⟩ => ?_
  let ws := (m.supervisor.waiting.lookup r.pid).getD []
  refine ⟨_, (ws.filter fun w => w.pid == 0 || (t.get? w.pid).any (·.signal == w.signal)).map Waiter.debt,
    t.dropped ws, hans, ?_, fun w hw => Table.pid_ne_zero_of_dropped hw, ?_⟩
  · rw [Table.map_fst_released, List.map_map]
    rfl
  · -- the waiters on the process leave the list; those answered and those given up are all of them
    beta_reduce
    rw [hv, add_assoc, Table.dropped, Waiter.owed_split, View.held, View.held, add_assoc]
    simp only [Machine.endedView, Machine.view_pending, Machine.view_waiting, add_zero]
    rw [Waiter.owed_filter hkeys r.pid]

/-! ## Handlers

A handler that the loop answers for pays nothing itself, but a kill ends its
target and pays the target's waiters. A wait and a creation that succeed hand
their request's debt to the loop; an exit answers its sender itself. -/

/-- Marking a process started and sending its unit the start message leaves the
pending queue, the waiters and the signals alone. -/
theorem runs_start_quiet (r : Record) :
    Runs (start r) m fun _ m' => m'.supervisor.pending = m.supervisor.pending ∧
      m'.supervisor.waiting = m.supervisor.waiting ∧ m'.signals = m.signals := by
  unfold start
  cases r.unit with
  | none => exact Runs.pure _ ⟨rfl, rfl, rfl⟩
  | some id =>
    refine Runs.get_bind ?_
    dsimp only
    split
    · exact Runs.pure _ ⟨rfl, rfl, rfl⟩
    · rename_i t _
      refine Runs.modify_bind (Runs.get_bind (Runs.get_bind ?_))
      split
      · rename_i m' hsend
        have hv := (m.setTable t).view_of_sendTo hsend
        exact Runs.set_bind (Runs.pure _
          ⟨congrArg View.pending hv, congrArg View.waiting hv, (m.setTable t).signals_of_sendTo hsend⟩)
      · exact Runs.get_bind (Runs.ite (fun _ => Runs.modify_bind (Runs.pure _ ⟨rfl, rfl, rfl⟩))
          fun _ => Runs.pure _ ⟨rfl, rfl, rfl⟩)

theorem pays_changeState (msg : Message) :
    Runs (changeState msg) m fun o m' => o.reply?.isSome ∧ m.Pays m' 0 := by
  unfold changeState
  cases State.ofName? msg.state with
  | none => exact Runs.pure _ ⟨rfl, Machine.Pays.quiet rfl rfl⟩
  | some s =>
    refine Runs.get_bind ?_
    cases m.table.setState msg.pid s with
    | error f => exact Runs.pure _ ⟨rfl, Machine.Pays.quiet rfl rfl⟩
    | ok t => exact Runs.modify_bind (Runs.pure _ ⟨rfl, Machine.Pays.quiet rfl rfl⟩)

/-- A wait on a live process other than the sender files the sender: its debt
goes to the waiters on the target. -/
theorem pays_wait (msg : Message) (hkeys : (m.supervisor.waiting.map (·.1)).Nodup) :
    Runs (wait msg) m fun o m' => m.Pays m' (o.owes (Debt.on msg.signal .waitOnPid : List Debt)) := by
  unfold wait
  cases msg.signal with
  | none => exact Runs.pure _ (Machine.Pays.quiet rfl rfl)
  | some sig =>
    dsimp only
    refine Runs.ite (fun _ => Runs.pure _ (Machine.Pays.quiet rfl rfl)) fun _ =>
      Runs.get_bind (Runs.ite (fun _ => Runs.pure _ (Machine.Pays.quiet rfl rfl)) fun _ => ?_)
    refine Runs.modify_bind (Runs.get_bind (Runs.quiet_bind (calm_log _ _ _) (still_log _ _ _)
      fun m₁ hv₁ hs₁ _ => Runs.pure _ (Machine.PaysOn.hold ?_ (.of_signals hs₁))))
    rw [hv₁, Machine.view_addWaiter]
    simp [View.held, Supervisor.owed_addWaiter _ hkeys, Debt.on, Waiter.debt, add_assoc, Outcome.owes,
      Outcome.reply?]

theorem pays_kill (msg : Message) (hwf : m.table.Wf) (hkeys : (m.supervisor.waiting.map (·.1)).Nodup) :
    Runs (kill msg) m fun o m' => o.reply?.isSome ∧ m.Pays m' 0 := by
  unfold kill
  refine Runs.get_bind ?_
  cases hr : m.table.get? msg.target with
  | none => exact Runs.pure _ ⟨rfl, Machine.Pays.quiet rfl rfl⟩
  | some r =>
    dsimp only
    cases r.unit with
    | none => exact Runs.pure _ ⟨rfl, Machine.Pays.quiet rfl rfl⟩
    | some id =>
      -- terminating the unit changes nothing paid; ending the target pays its waiters
      refine Runs.quiet_bind (calm_terminate id) (still_terminate id) fun m₁ hv₁ hs₁ _ => ?_
      have hr₁ : m₁.table.get? r.pid = some r := by
        rw [show m₁.table = m.table from congrArg View.table hv₁]
        exact hwf.get?_pid hr
      have hkeys₁ : (m₁.supervisor.waiting.map (·.1)).Nodup := by
        rw [show m₁.supervisor.waiting = m.supervisor.waiting from congrArg View.waiting hv₁]
        exact hkeys
      exact Runs.bind_of _ (pays_finish hr₁ 137 "kill" hkeys₁) fun _ m₂ h₂ =>
        Runs.pure _ ⟨rfl, h₂.of_quiet (congrArg View.held hv₁) hs₁⟩

theorem pays_list : Runs list m fun o m' => o.reply?.isSome ∧ m.Pays m' 0 :=
  Runs.get_bind (Runs.pure _ ⟨rfl, Machine.Pays.quiet rfl rfl⟩)

theorem pays_pipe (msg : Message) : Runs (pipe msg) m fun o m' => o.reply?.isSome ∧ m.Pays m' 0 := by
  unfold pipe
  refine Runs.get_bind ?_
  dsimp only
  cases m.table.get? msg.outPid with
  | none => exact Runs.pure _ ⟨rfl, Machine.Pays.quiet rfl rfl⟩
  | some o =>
    cases m.table.get? msg.inPid with
    | none => exact Runs.pure _ ⟨rfl, Machine.Pays.quiet rfl rfl⟩
    | some i =>
      dsimp only
      refine Runs.ite (fun _ => Runs.pure _ ⟨rfl, Machine.Pays.quiet rfl rfl⟩)
        fun _ => Runs.ite (fun _ => Runs.pure _ ⟨rfl, Machine.Pays.quiet rfl rfl⟩) fun _ => ?_
      split
      · exact Runs.pure _ ⟨rfl, Machine.Pays.quiet rfl rfl⟩
      · exact Runs.modify_bind (Runs.quiet_bind (calm_log _ _ _) (still_log _ _ _) fun m₁ hv₁ hs₁ _ =>
          Runs.pure _ ⟨rfl, Machine.Pays.quiet ((congrArg View.held hv₁).trans rfl) hs₁⟩)

theorem pays_startTarget (msg : Message) :
    Runs (startTarget msg) m fun o m' => o.reply?.isSome ∧ m.Pays m' 0 := by
  unfold startTarget
  refine Runs.get_bind ?_
  cases m.table.get? msg.target with
  | none => exact Runs.pure _ ⟨rfl, Machine.Pays.quiet rfl rfl⟩
  | some r =>
    refine Runs.bind_of _ (runs_start_quiet r) fun res m₁ ⟨hp₁, hw₁, hs₁⟩ => ?_
    have hh₁ : m₁.view.held = m.view.held := by
      simp only [View.held, Machine.view_pending, Machine.view_waiting, hp₁, hw₁]
    cases res with
    | error f => exact Runs.pure _ ⟨rfl, Machine.Pays.quiet hh₁ hs₁⟩
    | ok u => exact Runs.pure _ ⟨rfl, Machine.Pays.quiet hh₁ hs₁⟩

/-- An exit ends its sender, paying the sender's waiters, and answers the
sender itself. -/
theorem pays_exit (msg : Message) (hwf : m.table.Wf) (hkeys : (m.supervisor.waiting.map (·.1)).Nodup) :
    Runs (exit msg) m fun o m' => m.Pays m' (o.owes (Debt.on msg.signal .exit : List Debt)) := by
  unfold exit
  refine Runs.get_bind ?_
  cases hr : m.table.get? msg.pid with
  | none => exact Runs.pure _ (Machine.Pays.quiet rfl rfl)
  | some r =>
    dsimp only
    refine Runs.bind_of _ (pays_finish (hwf.get?_pid hr) msg.code "exit" hkeys) fun _ m₂ h₂ => ?_
    refine Runs.bind_of (fun _ m₃ => m₃ = m₂.reply msg.signal (Reply.number 0)) rfl fun _ m₃ h₃ => ?_
    have hpaid : m.Pays m₃ (Debt.on msg.signal .exit : List Debt) := by
      simpa [h₃] using h₂.trans (m₂.pays_reply msg.signal (Reply.number 0) .exit)
    cases r.unit with
    | none => exact Runs.pure _ hpaid
    | some id =>
      exact Runs.quiet_bind (calm_terminate id) (still_terminate id) fun m₄ hv₄ hs₄ _ =>
        Runs.pure _ (hpaid.then_quiet (congrArg View.held hv₄) hs₄)

/-- A creation that spawns a unit queues the new process last, in a slot that
was free, and with it the creator's debt, until the unit registers; one that
fails gives back its slot and its queue entry and is answered at once. -/
theorem pays_create (hwf : m.table.Wf) (caller : Int) (req : CreateRequest) (sig : Option Nat) :
    Runs (create caller req sig) m fun o m' => m.Pays m' (o.owes (Debt.on sig .create : List Debt)) ∧
      (o = .deferred → ∃ r : Record, 0 < r.pid ∧ m.table.get? r.pid = none ∧ m'.table.get? r.pid = some r ∧
        m'.supervisor.pending = m.supervisor.pending ++ [⟨r.pid, sig⟩]) := by
  unfold create
  refine Runs.get_bind (Runs.ite (fun _ => Runs.pure _ ⟨Machine.Pays.quiet rfl rfl, nofun⟩)
    fun _ => Runs.ite (fun _ => Runs.pure _ ⟨Machine.Pays.quiet rfl rfl, nofun⟩) fun _ => ?_)
  refine Runs.quiet_bind (calm_load _) (still_load _) fun m₁ hv₁ hs₁ loaded => ?_
  cases loaded with
  | crashed => exact Runs.pure _ ⟨Machine.Pays.quiet (congrArg View.held hv₁) hs₁, nofun⟩
  | failed f => exact Runs.pure _ ⟨Machine.Pays.quiet (congrArg View.held hv₁) hs₁, nofun⟩
  | source source =>
    refine Runs.get_bind (Runs.ite
      (fun _ => Runs.pure _ ⟨Machine.Pays.quiet (congrArg View.held hv₁) hs₁, nofun⟩) fun _ => ?_)
    -- the new channels hold and answer nothing
    obtain ⟨hh₂, hans₂⟩ := Machine.runs_openChannels (m := m₁)
    have hh₂ : (Act.openChannels.run m₁).2.view.held = m.view.held := hh₂.trans (congrArg View.held hv₁)
    have hans₂ : m.Answered (Act.openChannels.run m₁).2 [] := hans₂.left hs₁
    obtain ⟨c, -, hv₂⟩ := run_openChannels m₁
    have ht₂ : (Act.openChannels.run m₁).2.table = m.table :=
      (congrArg View.table hv₂).trans (congrArg View.table hv₁)
    have hq₂ : (Act.openChannels.run m₁).2.supervisor.pending = m.supervisor.pending :=
      (congrArg View.pending hv₂).trans (congrArg View.pending hv₁)
    refine Runs.bind_of (fun _ m₂ => m₂ = (Act.openChannels.run m₁).2) rfl fun _ m₂ h₂ => ?_
    subst h₂
    refine Runs.get_bind ?_
    split
    · exact Runs.pure _
        ⟨Machine.PaysOn.hold (by rw [Outcome.owes_of_isSome rfl, hh₂, add_zero]) hans₂, nofun⟩
    · rename_i r t ha
      refine Runs.set_bind (Runs.quiet_bind calm_spawn still_spawn fun m₄ hv₄ hs₄ res => ?_)
      have hp₄ := congrArg View.pending hv₄
      have hw₄ := congrArg View.waiting hv₄
      simp only [Machine.view_pending, Machine.view_waiting] at hp₄ hw₄
      have hans₄ : m.Answered m₄ [] := hans₂.congr hs₄
      cases res with
      | error f =>
        -- the queue entry is taken back off and the slot freed
        refine Runs.modify_bind (Runs.modify_bind (Runs.pure _ ⟨Machine.PaysOn.hold ?_ (hans₄.congr ?_), nofun⟩))
        · rw [Outcome.owes_of_isSome rfl, add_zero, ← hh₂]
          split <;> simp [View.held, hp₄, hw₄, Machine.setTable]
        · split <;> rfl
      | ok id =>
        refine Runs.quiet_bind calm_measurePending still_measurePending fun m₅ hv₅ hs₅ _ =>
          Runs.quiet_bind calm_measureLive still_measureLive fun m₆ hv₆ hs₆ _ =>
          Runs.quiet_bind (calm_measure _) (still_measure _) fun m₇ hv₇ hs₇ _ =>
          Runs.quiet_bind (calm_log _ _ _) (still_log _ _ _) fun m₈ hv₈ hs₈ _ => Runs.pure _
            ⟨Machine.PaysOn.hold ?_ (hans₄.congr (hs₈.trans (hs₇.trans (hs₆.trans hs₅)))), fun _ => ?_⟩
        · rw [congrArg View.held (hv₈.trans (hv₇.trans (hv₆.trans hv₅))), ← hh₂]
          simp [View.held, hp₄, hw₄, Machine.setTable, Outcome.owes, Outcome.reply?, Pending.debts, add_right_comm]
        · -- the new process holds the slot it was given, and is queued last
          have hv₈ := hv₈.trans (hv₇.trans (hv₆.trans hv₅))
          obtain ⟨hpos, hnone, -, -, -, -, -, hget⟩ := (ht₂ ▸ hwf).get?_of_allocate ha
          refine ⟨r, hpos, ht₂ ▸ hnone, ?_, ?_⟩
          · have ht₈ : m₈.table = t := congrArg View.table (hv₈.trans hv₄)
            rw [ht₈, hget, if_pos rfl]
          · have hq₈ : m₈.supervisor.pending = m₄.supervisor.pending := congrArg View.pending hv₈
            rw [hq₈, hp₄]
            exact congrArg (· ++ _) hq₂

/-- A handler that answers through the loop leaves nothing of its request's debt
owed, and returns an answer. -/
theorem Runs.owes_of_answers {x : Act Outcome} (h : Runs x m fun o m' => o.reply?.isSome ∧ m.Pays m' 0)
    (own : Multiset Debt) (P : Prop) : Runs x m fun o m' => m.Pays m' (o.owes own) ∧ (P → o.reply?.isSome) :=
  h.imp fun o _ ⟨hs, hp⟩ => ⟨by rwa [Outcome.owes_of_isSome hs], fun _ => hs⟩

/-- Every handler pays what it brought in, and leaves owed its request's debt
when it defers the answer; only a creation, a wait and an exit may defer. -/
theorem pays_handlerFor {msg : Message} {h : Act Outcome} (hh : handlerFor msg = some h) (hwf : m.table.Wf)
    (hkeys : (m.supervisor.waiting.map (·.1)).Nodup) :
    Runs h m fun o m' => m.Pays m' (o.owes (Debt.on msg.signal msg.op : List Debt)) ∧
      (msg.op ≠ .create ∧ msg.op ≠ .waitOnPid ∧ msg.op ≠ .exit → o.reply?.isSome) := by
  unfold handlerFor at hh
  split at hh <;> cases hh
  case h_1 => exact (pays_changeState msg).owes_of_answers _ _
  case h_2 hop => rw [hop]; exact (pays_wait msg hkeys).imp fun _ _ h => ⟨h, fun hne => absurd rfl hne.2.1⟩
  case h_3 hop =>
    rw [hop]
    split
    · exact (pays_create hwf _ _ _).imp fun _ _ h => ⟨h.1, fun hne => absurd rfl hne.1⟩
    · exact Runs.pure _ ⟨Machine.Pays.quiet rfl rfl, fun _ => rfl⟩
  case h_4 => exact (pays_kill msg hwf hkeys).owes_of_answers _ _
  case h_5 => exact pays_list.owes_of_answers _ _
  case h_6 => exact (pays_pipe msg).owes_of_answers _ _
  case h_7 => exact (pays_startTarget msg).owes_of_answers _ _
  case h_8 hop => rw [hop]; exact (pays_exit msg hwf hkeys).imp fun _ _ h => ⟨h, fun hne => absurd rfl hne.2.2⟩

/-- Dispatching a request pays its debt: the handler pays it, defers it, or the
loop answers it. -/
theorem pays_dispatch (msg : Message) (hwf : m.table.Wf) (hkeys : (m.supervisor.waiting.map (·.1)).Nodup) :
    Runs (dispatch msg) m fun _ m' => m.Pays m' ((Inbound.request msg).debts : List Debt) := by
  unfold dispatch
  cases hh : handlerFor msg with
  | none =>
    exact Runs.quiet (calm_forward msg) (still_forward msg) fun m₁ _ hv₁ hs₁ => by
      simpa [Inbound.debts, hh] using Machine.Pays.quiet (congrArg View.held hv₁) hs₁
  | some h =>
    refine Runs.quiet_bind (calm_log _ _ _) (still_log _ _ _) fun m₁ hv₁ hs₁ _ => ?_
    have hwf₁ : m₁.table.Wf := by rw [show m₁.table = m.table from congrArg View.table hv₁]; exact hwf
    have hkeys₁ : (m₁.supervisor.waiting.map (·.1)).Nodup := by
      rw [show m₁.supervisor.waiting = m.supervisor.waiting from congrArg View.waiting hv₁]
      exact hkeys
    refine Runs.bind_of _ (pays_handlerFor hh hwf₁ hkeys₁) fun o m₂ h₂ =>
      (runs_answer msg _ o).imp fun _ m₃ ⟨hv₃, hans₃⟩ => ?_
    have h₃ := h₂.1.trans (Machine.pays_answer msg.op hv₃ hans₃)
    rw [Outcome.owes_add] at h₃
    simpa [Inbound.debts, hh] using Machine.Pays.of_quiet (congrArg View.held hv₁) hs₁ h₃

/-- An announcement while creations are pending takes the oldest off the queue
and, last, answers its creator: with the new pid when the unit could register,
else with the error's code. Until then the queue, the waiters and the signals
stay as they were. -/
theorem runs_register_oldest (id : String) {p : Pending} {rest : List Pending}
    (hp : m.supervisor.pending = p :: rest) :
    Runs (register id) m fun _ m' => ∃ m₁ : Machine, m₁.supervisor.pending = rest ∧
      m₁.supervisor.waiting = m.supervisor.waiting ∧ m₁.signals = m.signals ∧
      m' = m₁.reply p.signal (match m.table.register p.pid id with
        | .ok _ => Reply.number p.pid
        | .error f => Reply.errno f.code) := by
  unfold register
  refine Runs.get_bind ?_
  rw [hp]
  refine Runs.modify_bind (Runs.quiet_bind calm_measurePending still_measurePending fun m₁ hv₁ hs₁ _ =>
    Runs.modify_bind (Runs.get_bind ?_))
  have hv₂ : (m₁.installHandler id (.supervisor p.pid)).view = { m.view with pending := rest } :=
    (Machine.view_installHandler _ _ _).trans hv₁
  have hs₂ := (m₁.signals_installHandler id (.supervisor p.pid)).trans hs₁
  generalize m₁.installHandler id (.supervisor p.pid) = m₂ at hv₂ hs₂ ⊢
  have hp₂ : m₂.supervisor.pending = rest := congrArg View.pending hv₂
  have hw₂ : m₂.supervisor.waiting = m.supervisor.waiting := congrArg View.waiting hv₂
  rw [show m₂.table = m.table from congrArg View.table hv₂]
  cases m.table.register p.pid id with
  | error f =>
    exact Runs.quiet_bind (calm_log _ _ _) (still_log _ _ _) fun m₃ hv₃ hs₃ _ =>
      Runs.quiet_bind (calm_terminate id) (still_terminate id) fun m₄ hv₄ hs₄ _ =>
        ⟨m₄, (congrArg View.pending (hv₄.trans hv₃)).trans hp₂,
          (congrArg View.waiting (hv₄.trans hv₃)).trans hw₂, hs₄.trans (hs₃.trans hs₂), rfl⟩
  | ok t =>
    refine Runs.modify_bind (Runs.get_bind ?_)
    dsimp only
    -- whether or not the process is started, the queue, the waiters and the signals stay
    let Kept (m₄ : Machine) : Prop :=
      m₄.supervisor.pending = rest ∧ m₄.supervisor.waiting = m.supervisor.waiting ∧ m₄.signals = m.signals
    split
    case' h_1 =>
      refine Runs.ite (fun _ => Runs.bind_of (fun _ => Kept) ((runs_start_quiet _).imp fun _ _ ⟨hp, hw, hs⟩ =>
          ⟨hp.trans hp₂, hw.trans hw₂, hs.trans hs₂⟩) fun _ m₄ h₄ => ?_)
        fun _ => Runs.bind_of (fun _ => Kept) (Runs.pure _ ⟨hp₂, hw₂, hs₂⟩) fun _ m₄ h₄ => ?_
    case' h_2 => refine Runs.bind_of (fun _ => Kept) (Runs.pure _ ⟨hp₂, hw₂, hs₂⟩) fun _ m₄ h₄ => ?_
    -- the logs change none of it, and the reply ends the run
    all_goals
      obtain ⟨hp₄, hw₄, hs₄⟩ := h₄
      split
      · exact Runs.quiet_bind (calm_log _ _ _) (still_log _ _ _) fun m₅ hv₅ hs₅ _ =>
          Runs.quiet_bind (calm_log _ _ _) (still_log _ _ _) fun m₆ hv₆ hs₆ _ =>
            ⟨m₆, (congrArg View.pending (hv₆.trans hv₅)).trans hp₄,
              (congrArg View.waiting (hv₆.trans hv₅)).trans hw₄, hs₆.trans (hs₅.trans hs₄), rfl⟩
      · exact Runs.quiet_bind (calm_log _ _ _) (still_log _ _ _) fun m₆ hv₆ hs₆ _ =>
          ⟨m₆, (congrArg View.pending hv₆).trans hp₄, (congrArg View.waiting hv₆).trans hw₄,
            hs₆.trans hs₄, rfl⟩

/-- Registering a unit pays the debt of the oldest pending creation: its creator
is answered with the new pid, or with why the registration failed. -/
theorem pays_register (id : String) : Runs (register id) m fun _ m' => m.Pays m' 0 := by
  cases hp : m.supervisor.pending with
  | nil =>
    unfold register
    refine Runs.get_bind ?_
    rw [hp]
    exact Runs.quiet_bind (calm_log _ _ _) (still_log _ _ _) fun m₁ hv₁ hs₁ _ =>
      Runs.quiet (calm_terminate id) (still_terminate id) fun m₂ _ hv₂ hs₂ =>
        Machine.Pays.quiet (congrArg View.held (hv₂.trans hv₁)) (hs₂.trans hs₁)
  | cons p rest =>
    refine (runs_register_oldest id hp).imp fun _ m' ⟨m₁, hp₁, hw₁, hs₁, hm'⟩ => ?_
    subst hm'
    -- the creation left the queue, and the reply pays its debt
    have hh : m₁.view.held + (p.debts : Multiset Debt) = m.view.held := by
      simp [View.held, hp, hp₁, hw₁, ← Multiset.coe_add]
      abel
    exact Machine.Pays.unhold hh hs₁ (by rw [add_zero]; exact m₁.pays_reply p.signal _ .create)

/-- In a reachable manager an announcement always finds the oldest pending
creation unclaimed: it leaves the queue, and its creator is answered with its
pid. -/
theorem register_answers_pid (h : Reachable m) (id : String) {p : Pending} {rest : List Pending}
    (hp : m.supervisor.pending = p :: rest) :
    Runs (register id) m fun _ m' =>
      m'.supervisor.pending = rest ∧ m.Answered m' (answerTo p.signal (Reply.number p.pid)) := by
  obtain ⟨r, hr, hnreg⟩ := h.inv.pending_head hp
  have hreg : m.table.register p.pid id = _ := Table.register_of_none hr (by simpa [Record.registered] using hnreg) id
  refine (runs_register_oldest id hp).imp fun _ m' h => ?_
  obtain ⟨m₁, hp₁, -, hs₁, hm'⟩ := h
  rw [hm', hreg]
  exact ⟨(congrArg View.pending (m₁.view_reply _ _)).trans hp₁, (m₁.answered_reply _ _).left hs₁⟩

/-- Serving the head of the inbox pays its debt. -/
theorem pays_serveOne {item : Inbound} {rest : List Inbound} (hin : m.supervisor.inbox = item :: rest)
    (hwf : m.table.Wf) (hkeys : (m.supervisor.waiting.map (·.1)).Nodup) :
    Runs serveOne m fun _ m' => m.Pays m' (item.debts : List Debt) := by
  unfold serveOne
  refine Runs.get_bind ?_
  rw [hin]
  -- taking the item off the inbox leaves what the loop holds and answers alone
  refine Runs.modify_bind ?_
  cases item with
  | request msg => exact Runs.bind_of _ (pays_dispatch msg hwf hkeys) fun _ _ h => Runs.pure _ h
  | announce id => exact Runs.bind_of _ (pays_register id) fun _ _ h => Runs.pure _ h

/-- What the rest of the inbox owes is kept by serving: an action queues only
announcements, and they owe nothing. -/
theorem InboxOrder.owed : InboxOrder fun l l' => Inbound.owed l' = Inbound.owed l :=
  ⟨fun _ => rfl, fun h₁ h₂ => h₂.trans h₁, fun l _ => by simp [Inbound.debts]⟩

/-- Serving the head of the inbox moves its debt out of the inbox and pays it,
or hands it to the loop. -/
theorem settles_serveOne {item : Inbound} {rest : List Inbound} (hin : m.supervisor.inbox = item :: rest)
    (hwf : m.table.Wf) (hkeys : (m.supervisor.waiting.map (·.1)).Nodup) :
    m.PaysOn Machine.debts (serveOne.run m).2 0 := by
  obtain ⟨L, paid, dropped, hans, hpaid, hdropped, hbal⟩ := pays_serveOne hin hwf hkeys
  refine ⟨L, paid, dropped, hans, hpaid, hdropped, ?_⟩
  have hrest : Inbound.owed (serveOne.run m).2.supervisor.inbox = Inbound.owed rest :=
    along_serveOne InboxOrder.owed hin
  beta_reduce at hbal
  calc Machine.debts (serveOne.run m).2 + ↑paid + ↑(dropped.map Waiter.debt)
      = Inbound.owed rest + ((serveOne.run m).2.view.held + ↑paid + ↑(dropped.map Waiter.debt)) := by
        rw [Machine.debts, hrest]
        abel
    _ = Inbound.owed rest + (m.view.held + ↑item.debts) := by rw [hbal]
    _ = m.debts + 0 := by
        rw [Machine.debts, hin, Inbound.owed_cons]
        abel

end Act

namespace Machine

theorem signals_of_submit (m : Machine) {item : Inbound} {m' : Machine} (h : m.submit item = .ok m') :
    m'.signals = m.signals := by
  rw [m.eq_of_submit h]

/-- An arriving item brings its debt into the inbox and answers nothing. -/
theorem pays_submit {m m' : Machine} {item : Inbound} (h : m.submit item = .ok m') :
    m.PaysOn debts m' (item.debts : List Debt) :=
  PaysOn.hold (by simp [debts, m.inbox_of_submit h, m.view_of_submit h, add_right_comm])
    (.of_signals (m.signals_of_submit h))

end Machine

/-! ## Runs -/

/-- Each target is filed at most once among the waiters, whatever an item does. -/
theorem Move.nodup_waiting {m : Machine} {v : View} (hv : Move m v)
    (hk : (m.supervisor.waiting.map (·.1)).Nodup) : (v.waiting.map (·.1)).Nodup := by
  cases hv with
  | waits w _ => exact Supervisor.nodup_addWaiter _ hk _ w
  | ended => exact hk.sublist (List.filter_sublist.map _)
  | calm | state | created | undone | piped | started | registered | registeredStarted | unpaired => exact hk

/-- The pending queue is first in, first out: whatever an item does, the queue
stays, gains one entry at its end, or loses its oldest. -/
theorem Move.pending_fifo {m : Machine} {v : View} (hv : Move m v) :
    v.pending = m.supervisor.pending ∨ (∃ p, v.pending = m.supervisor.pending ++ [p]) ∨
      ∃ p, m.supervisor.pending = p :: v.pending := by
  cases hv with
  | created sig _ _ => exact .inr (.inl ⟨_, rfl⟩)
  | registered _ hp _ _ => exact .inr (.inr ⟨_, hp⟩)
  | registeredStarted _ _ hp _ _ _ => exact .inr (.inr ⟨_, hp⟩)
  | unpaired hp _ => exact .inr (.inr ⟨_, hp⟩)
  | calm | state | waits | undone | ended | piped | started => exact .inl rfl

theorem Reachable.nodup_waiting {m : Machine} (h : Reachable m) : (m.supervisor.waiting.map (·.1)).Nodup := by
  induction h with
  | fresh hf => rw [hf.waiting]; exact List.nodup_nil
  | step h hs ih => exact (hs.move h.inv.wf).nodup_waiting ih

/-- A run of the manager from `m` to `m'` along which the items `items` arrive,
in order, between serves of the head of the inbox. -/
inductive Run : Machine → List Inbound → Machine → Prop where
  | done (m : Machine) : Run m [] m
  | arrive {m m₁ m' : Machine} {item : Inbound} {items : List Inbound} (h : m.submit item = .ok m₁)
      (r : Run m₁ items m') : Run m (item :: items) m'
  | serve {m m' : Machine} {item : Inbound} {rest items : List Inbound}
      (hin : m.supervisor.inbox = item :: rest) (hitem : item.Admissible m)
      (r : Run (Act.serveOne.run m).2 items m') : Run m items m'

/-- A run is a sequence of steps, and every sequence of steps is a run. -/
theorem Run.iff_steps {m m' : Machine} : (∃ items, Run m items m') ↔ Relation.ReflTransGen Step m m' := by
  constructor
  · rintro ⟨items, hrun⟩
    induction hrun with
    | done => exact .refl
    | arrive h _ ih => exact .head (.arrive h) ih
    | serve hin hitem _ ih => exact .head (.serve hin hitem) ih
  · intro hsteps
    induction hsteps using Relation.ReflTransGen.head_induction_on with
    | refl => exact ⟨[], .done _⟩
    | head hs _ ih =>
      obtain ⟨items, hrun⟩ := ih
      cases hs with
      | arrive h => exact ⟨_, .arrive h hrun⟩
      | serve hin hitem => exact ⟨items, .serve hin hitem hrun⟩

/-- What the manager answers, and when. Along any run from a reachable machine
the answers given, the debts still owed and the waits given up balance the debts
at the start and those of the items that arrived. The loop answers what a
handler returned; only a creation, a wait and an exit may leave it nothing to
answer. A deferred creation queues its pid last, the queue is first in, first
out, and an announcement answers the oldest creation with its pid. Only a kill
or an exit ends a process, with 137 or the exit's code, answering exactly the
waiters `Table.released` keeps. -/
theorem answers_pay_debts :
    (∀ {m₀ m items}, Reachable m₀ → Run m₀ items m →
      ∃ (L : List (Nat × Reply)) (paid : List Debt) (dropped : List Waiter),
        m₀.Answered m L ∧ paid.map Debt.signal = L.map Prod.fst ∧ (∀ w ∈ dropped, w.pid ≠ 0) ∧
          m.debts + (paid : Multiset Debt) + (dropped.map Waiter.debt : List Debt) =
            m₀.debts + Inbound.owed items) ∧
    (∀ (m : Machine) (msg : Message) (op : String) (o : Outcome), Act.Runs (Act.answer msg op o) m
      fun _ m' => m.Answered m' ((o.reply?.map (answerTo msg.signal)).getD [])) ∧
    (∀ {m msg h}, Reachable m → Act.handlerFor msg = some h →
      msg.op ≠ .create ∧ msg.op ≠ .waitOnPid ∧ msg.op ≠ .exit → Act.Runs h m fun o _ => o.reply?.isSome) ∧
    (∀ {m} caller req sig, Reachable m →
      Act.Runs (Act.create caller req sig) m fun o m' => o = .deferred →
        ∃ r : Record, 0 < r.pid ∧ m.table.get? r.pid = none ∧ m'.table.get? r.pid = some r ∧
          m'.supervisor.pending = m.supervisor.pending ++ [⟨r.pid, sig⟩]) ∧
    (∀ {m m'}, Reachable m → Step m m' →
      m'.supervisor.pending = m.supervisor.pending ∨ (∃ p, m'.supervisor.pending = m.supervisor.pending ++ [p]) ∨
        ∃ p, m.supervisor.pending = p :: m'.supervisor.pending) ∧
    (∀ {m p rest} id, Reachable m →
      m.supervisor.pending = p :: rest → Act.Runs (Act.register id) m fun _ m' =>
        m'.supervisor.pending = rest ∧ m.Answered m' (answerTo p.signal (Reply.number p.pid))) ∧
    (∀ {m m'} {w : Waiter} {p : Nat}, Reachable m → Step m m' → w.FiledOn m.supervisor.waiting p →
      (m'.table.get? p).isSome → w.FiledOn m'.supervisor.waiting p) ∧
    (∀ {m m'} {q : Int}, Reachable m → Step m m' → (m.table.get? q).isSome →
      (∀ item rest, m.supervisor.inbox = item :: rest → ¬ item.Ending q) → (m'.table.get? q).isSome) ∧
    (∀ {m msg r id}, Reachable m →
      m.table.get? msg.target = some r → r.unit = some id → ∃ t, m.table.free r.pid = .ok t ∧
        Act.Runs (Act.kill msg) m fun o m' => o = .answer (Reply.number 0) ∧
          m.Answered m' (t.released (m.supervisor.releaseWaiters r.pid).1 137)) ∧
    (∀ {m msg r}, Reachable m → m.table.get? msg.pid = some r →
      ∃ t, m.table.free r.pid = .ok t ∧ Act.Runs (Act.exit msg) m fun o m' => o = .deferred ∧
        m.Answered m' (t.released (m.supervisor.releaseWaiters r.pid).1 msg.code ++
          answerTo msg.signal (Reply.number 0))) := by
  refine ⟨fun h₀ hrun => ?_, fun _ msg op o => (Act.runs_answer msg op o).imp fun _ _ h => h.2,
    fun h hh hop => (Act.pays_handlerFor hh h.inv.wf h.nodup_waiting).imp fun _ _ hp => hp.2 hop,
    fun caller req sig h => (Act.pays_create h.inv.wf caller req sig).imp fun _ _ h => h.2,
    fun h hs => (hs.move h.inv.wf).pending_fifo, fun id h hp => Act.register_answers_pid h id hp,
    fun h hs hw hp => (hs.move h.inv.wf).filedOn hw hp, fun h hs hq hhead => hs.keepsLive h.inv.wf hq hhead,
    fun h hr hu => Act.runs_kill_ends h.inv.wf hr hu, fun h hr => Act.runs_exit_ends h.inv.wf hr⟩
  -- the ledger, along the run: an arrival brings its debt in, a serve settles the head's
  induction hrun with
  | done m => exact Machine.PaysOn.hold (by rw [Inbound.owed_nil, add_zero]) (.refl m)
  | arrive h _ ih =>
    have hpays := (Machine.pays_submit h).trans (ih (h₀.step (.arrive h)))
    rw [← Inbound.owed_cons] at hpays
    exact hpays
  | serve hin hitem _ ih =>
    have hpays := (Act.settles_serveOne hin h₀.inv.wf h₀.nodup_waiting).trans (ih (h₀.step (.serve hin hitem)))
    rw [zero_add] at hpays
    exact hpays

/-- A fresh manager with one signal of 64 bytes, before the host's listing
request on that signal arrives. -/
def ledgerStart : Machine :=
  ((Machine.new (SupervisorConfig.withDefaults 0 0 0 false "") .pool .none []).newSignal 64).2

/-- The host's listing request, to be answered on signal 0. -/
def hostList : Inbound := .request { Message.of .list with signal := some 0 }

/-- The host's listing request arrives and is served: its one debt is paid by
the one answer given. -/
theorem ledger_list_answered :
    ∃ m, Run ledgerStart [hostList] m ∧ ∃ (L : List (Nat × Reply)) (paid : List Debt) (dropped : List Waiter),
      ledgerStart.Answered m L ∧ paid.map Debt.signal = L.map Prod.fst ∧ (∀ w ∈ dropped, w.pid ≠ 0) ∧
        m.debts + (paid : Multiset Debt) + (dropped.map Waiter.debt : List Debt) =
          ledgerStart.debts + Inbound.owed [hostList] := by
  -- the host's request is stamped 0, and no record has pid 0
  have hadm : ∀ m : Machine, hostList.Admissible m := fun _ r hr => absurd (Table.pos_of_get? hr) (by decide)
  have hrun : Run ledgerStart [hostList] _ := .arrive rfl (.serve rfl (hadm _) (.done _))
  exact ⟨_, hrun, answers_pay_debts.1 (.fresh ⟨⟨_, rfl⟩, rfl, rfl⟩) hrun⟩

/-- Processes 1 (unit `u1`) and 2 (unit `u2`), both with signal 0 in their
records, and two signals. Process 1 waits on 2 with signal 1, which is not the
one its record holds, and the host then kills 2. -/
def staleWaitSample : Machine :=
  let m := ((((((((Machine.new (SupervisorConfig.withDefaults 3 0 0 false "") .pool .none []).newSignal 64).2
    |>.newSignal 64).2.addUnit (ExecUnit.fresh "u1" false)).addUnit (ExecUnit.fresh "u2" false)).installHandler
      "u1" (.supervisor 1)).installHandler "u2" (.supervisor 2)).setTable
    ((Table.new 3).run [.allocate default default 0, .register 1 "u1", .allocate default default 0,
      .register 2 "u2"]))
  { m with supervisor := { m.supervisor with inbox :=
    [.request { Message.of .waitOnPid with pid := 1, target := 2, signal := some 1 },
      .request { Message.of .kill with target := 2 }] } }

/-- The wait is accepted and filed on process 2; the kill then ends 2, and the
wait is given up: signal 1 is never woken and holds no answer. -/
theorem stale_wait_given_up :
    ((Act.serveOne.run staleWaitSample).2.supervisor.waiting.lookup 2).map
        (·.map fun w => (w.pid, w.signal)) = some [(1, 1)] ∧
      ((Act.serveOne.run (Act.serveOne.run staleWaitSample).2).2.table.get? 2).isNone ∧
      ((Act.serveOne.run (Act.serveOne.run staleWaitSample).2).2.signal 1).wakes =
        (staleWaitSample.signal 1).wakes ∧
      ((Act.serveOne.run (Act.serveOne.run staleWaitSample).2).2.signal 1).read.1 = none := by
  decide +kernel

end Userland
