import Userland.Supervisor.Serve
import Userland.Proofs.Process.Table

namespace Userland

/-! # What the supervisor's invariants read

A step of the supervisor touches much of the machine: it logs, counts, answers
signals, spawns and terminates units. What its invariants read is a small part
of that: the process table, the pending processes, the waiters, the pipes, and
how many start messages each unit was sent for each process. That part is the
machine's `View`, and an action is `Calm` when it leaves every machine's view as
it was.

The frame lemmas below say which of the machine's own operations are calm and
what the others do to the view; the handlers' lemmas are then read off them
without opening the machine again.
-/

namespace UnitEvent

/-- Whether the event is a start message of process `p` delivered to the played unit `id`. -/
def startsAt (id : String) (p : Nat) : UnitEvent → Bool
  | .sent u op start => u == id && (op == .init && start.map (·.pid) == some p)
  | _ => false

end UnitEvent

namespace Message

/-- Whether the message is a start message of process `p`. -/
def startsPid (p : Nat) (msg : Message) : Bool :=
  msg.op == .init && msg.start.map (·.pid) == some p

end Message

namespace Machine

/-- How many start messages of process `p` the unit `id` was sent: a played unit
has each noted in the trace, a worker finds each in its mailbox. -/
def startsSent (m : Machine) (id : String) (p : Nat) : Nat :=
  m.trace.toList.countP (·.startsAt id p) +
    ((m.unit? id).map fun u => u.mailbox.countP (·.startsPid p)).getD 0

end Machine

/-- The part of a machine the supervisor's invariants read. -/
@[ext] structure View where
  table : Table
  pending : List Pending
  waiting : List (Nat × List Waiter)
  pipes : Array Ring
  starts : String → Nat → Nat

namespace Machine

/-- The view of a machine. -/
def view (m : Machine) : View :=
  ⟨m.supervisor.table, m.supervisor.pending, m.supervisor.waiting, m.pipes, m.startsSent⟩

variable (m : Machine)

@[simp] theorem view_table : m.view.table = m.table := rfl
@[simp] theorem view_pending : m.view.pending = m.supervisor.pending := rfl
@[simp] theorem view_waiting : m.view.waiting = m.supervisor.waiting := rfl
@[simp] theorem view_pipes : m.view.pipes = m.pipes := rfl
@[simp] theorem view_starts : m.view.starts = m.startsSent := rfl

/-! ## Units and the start messages they were sent -/

/-- Changing units without renaming them keeps which unit an id finds. -/
theorem unit?_updateUnit {id : String} {f : ExecUnit → ExecUnit} (hf : ∀ u, (f u).id = u.id)
    (id' : String) :
    (m.updateUnit id f).unit? id' = (m.unit? id').map fun u => if u.id == id then f u else u := by
  simp only [unit?, updateUnit, Array.find?_map]
  congr 1
  apply congrArg (fun p => Array.find? p m.units)
  funext u
  by_cases h : u.id = id <;> simp [h, hf]

/-- A change to units that keeps their ids and mailboxes keeps the start counts. -/
theorem startsSent_updateUnit {id : String} {f : ExecUnit → ExecUnit}
    (hf : ∀ u, (f u).id = u.id ∧ (f u).mailbox = u.mailbox) :
    (m.updateUnit id f).startsSent = m.startsSent := by
  funext id' p
  simp only [startsSent, unit?_updateUnit m (fun u => (hf u).1)]
  cases m.unit? id' with
  | none => rfl
  | some u => by_cases h : u.id = id <;> simp [h, (hf u).2, updateUnit]

theorem view_updateUnit {id : String} {f : ExecUnit → ExecUnit}
    (hf : ∀ u, (f u).id = u.id ∧ (f u).mailbox = u.mailbox) :
    (m.updateUnit id f).view = m.view := by
  simp only [view, startsSent_updateUnit m hf]
  rfl

/-- Noting an event that is no start message keeps the start counts. -/
theorem startsSent_note {e : UnitEvent} (he : ∀ id p, e.startsAt id p = false) :
    (m.note e).startsSent = m.startsSent := by
  funext id p
  simp [startsSent, note, unit?, he id p]

/-- Adding a unit with an empty mailbox keeps the start counts. -/
theorem startsSent_addUnit {u : ExecUnit} (hu : u.mailbox = []) :
    (m.addUnit u).startsSent = m.startsSent := by
  funext id p
  simp only [startsSent, addUnit, unit?, Array.find?_push]
  cases m.units.find? (·.id == id) with
  | none => by_cases h : u.id = id <;> simp [h, hu]
  | some v => rfl

/-- A noted event counts as a start message for the units and processes it names. -/
theorem startsSent_note_apply (e : UnitEvent) (id : String) (p : Nat) :
    (m.note e).startsSent id p = m.startsSent id p + if e.startsAt id p then 1 else 0 := by
  simp only [startsSent, note, unit?, Array.toList_push, List.countP_append, List.countP_singleton]
  split <;> omega

/-- A message queued in a worker's mailbox counts as a start message if it is one. -/
theorem startsSent_updateUnit_append {id : String} {u : ExecUnit} (hu : m.unit? id = some u)
    (msg : Message) (id' : String) (p : Nat) :
    (m.updateUnit id fun u => { u with mailbox := u.mailbox ++ [msg] }).startsSent id' p =
      m.startsSent id' p + if id' = id ∧ msg.startsPid p = true then 1 else 0 := by
  have huid : u.id = id := by simpa using Array.find?_some hu
  have htrace : (m.updateUnit id fun u => { u with mailbox := u.mailbox ++ [msg] }).trace = m.trace :=
    rfl
  simp only [startsSent, htrace,
    unit?_updateUnit m (f := fun u => { u with mailbox := u.mailbox ++ [msg] }) (fun _ => rfl)]
  by_cases hid : id' = id
  · subst hid
    simp only [hu, huid, beq_self_eq_true, if_true, Option.map_some, Option.getD_some,
      List.countP_append, List.countP_singleton, true_and]
    omega
  · cases hv : m.unit? id' with
    | none => simp [hid]
    | some v =>
      have hvid : v.id = id' := by simpa using Array.find?_some hv
      simp [hvid, hid]

/-- Sending a message to a unit counts it as a start message for that unit, if it is one. -/
theorem view_of_sendTo {id : String} {msg : Message} {m' : Machine} (h : m.sendTo id msg = .ok m') :
    m'.view = { m.view with
      starts := fun id' p => m.startsSent id' p + if id' = id ∧ msg.startsPid p = true then 1 else 0 } := by
  unfold sendTo at h
  cases hu : m.unit? id with
  | none => rw [hu] at h; cases h
  | some u =>
    rw [hu] at h
    dsimp only at h
    split at h
    · split at h
      · cases h
      · cases h
        simp only [view]
        congr 1
        funext id' p
        rw [startsSent_note_apply,
          startsSent_updateUnit m (f := fun u => { u with payload := msg.start.orElse fun _ => u.payload })
            fun _ => ⟨rfl, rfl⟩]
        by_cases hid : id' = id
        · subst hid; simp [UnitEvent.startsAt, Message.startsPid]
        · simp [UnitEvent.startsAt, hid, Ne.symm hid]
    · split at h
      · cases h
      · cases h
        simp only [view]
        congr 1
        funext id' p
        exact startsSent_updateUnit_append m hu msg id' p
/-! ## Calm operations -/

@[simp] theorem view_log (l : Level) (logger msg : String) (fields : List (String × Json)) :
    (m.log l logger msg fields).view = m.view := rfl

@[simp] theorem view_setSignal (id : Nat) (s : Signal) : (m.setSignal id s).view = m.view := rfl

@[simp] theorem view_reply (sig : Option Nat) (r : Reply) : (m.reply sig r).view = m.view := by
  unfold reply
  cases sig with
  | none => rfl
  | some id =>
    dsimp only
    cases (m.signal id).write? r <;> rfl

@[simp] theorem view_note {e : UnitEvent} (he : ∀ id p, e.startsAt id p = false) :
    (m.note e).view = m.view := by
  simp only [view, startsSent_note m he]
  rfl

@[simp] theorem view_terminate (id : String) : (m.terminate id).view = m.view := by
  have hkeep : (m.updateUnit id fun u => { u with cancelled := true, mailboxClosed := true }).view =
      m.view := view_updateUnit m fun _ => ⟨rfl, rfl⟩
  unfold terminate
  dsimp only
  split
  · split
    · rw [view_note _ fun _ _ => rfl, hkeep]
    · exact hkeep
  · exact hkeep

@[simp] theorem view_installHandler (id : String) (h : Handler) :
    (m.installHandler id h).view = m.view := by
  have hkeep : (m.updateUnit id fun u => { u with handler := h }).view = m.view :=
    view_updateUnit m fun _ => ⟨rfl, rfl⟩
  unfold installHandler
  dsimp only
  split
  · split
    · rw [view_note _ fun _ _ => rfl, hkeep]
    · exact hkeep
  · exact hkeep

@[simp] theorem view_addUnit_fresh (id : String) (scripted : Bool) :
    (m.addUnit (ExecUnit.fresh id scripted)).view = m.view := by
  simp only [view, startsSent_addUnit m (u := ExecUnit.fresh id scripted) rfl]
  rfl

@[simp] theorem table_setTable (t : Table) : (m.setTable t).table = t := rfl

theorem view_setTable (t : Table) : (m.setTable t).view = { m.view with table := t } := rfl

/-- An accepted arrival is put at the end of the inbox, and nothing else changes. -/
theorem eq_of_submit {item : Inbound} {m' : Machine} (h : m.submit item = .ok m') :
    m' = { m with supervisor := { m.supervisor with inbox := m.supervisor.inbox ++ [item] } } := by
  unfold submit at h
  split at h
  · cases h
  · cases h
    rfl

theorem view_of_submit {item : Inbound} {m' : Machine} (h : m.submit item = .ok m') :
    m'.view = m.view := by
  rw [m.eq_of_submit h]
  rfl

/-- Loading a program reads and closes a file: only the file system changes. -/
@[simp] theorem view_load (path : String) : (m.load path).2.view = m.view := by
  unfold load
  dsimp only
  repeat' split
  all_goals rfl

/-! ## Pipes -/

theorem pipes_closePipe (id : Nat) :
    (m.closePipe id).pipes =
      match (m.pipe id).close with
      | .ok r => m.pipes.set! id r
      | .error _ => m.pipes := by
  unfold closePipe
  cases (m.pipe id).close <;> rfl

theorem view_closePipe (id : Nat) :
    (m.closePipe id).view = { m.view with pipes := (m.closePipe id).pipes } := by
  unfold closePipe
  cases (m.pipe id).close <;> rfl

@[simp] theorem size_closePipe (id : Nat) : (m.closePipe id).pipes.size = m.pipes.size := by
  rw [pipes_closePipe]
  split <;> simp

/-- Closing a pipe leaves it closed. -/
theorem closed_closePipe {id : Nat} (hid : id < m.pipes.size) :
    ((m.closePipe id).pipe id).closed = true := by
  unfold closePipe
  cases hc : (m.pipe id).close with
  | error e =>
    unfold Ring.close at hc
    split at hc
    · assumption
    · cases hc
  | ok r =>
    unfold Ring.close at hc
    split at hc
    · cases hc
    · cases hc
      simp [setPipe, pipe, Array.set!_eq_setIfInBounds, hid]

/-- Closing a pipe leaves every closed pipe closed. -/
theorem closed_closePipe_of_closed {id j : Nat} (hj : (m.pipe j).closed = true) :
    ((m.closePipe id).pipe j).closed = true := by
  unfold closePipe
  cases hc : (m.pipe id).close with
  | error e => exact hj
  | ok r =>
    by_cases hij : id = j
    · subst hij
      simp [Ring.close, hj] at hc
    · simpa [setPipe, pipe, Array.set!_eq_setIfInBounds, Array.getElem?_setIfInBounds, hij] using hj

/-- A pipe is read from the machine's pipes alone. -/
theorem pipe_congr {m' : Machine} (h : m'.pipes = m.pipes) (id : Nat) : m'.pipe id = m.pipe id := by
  unfold pipe
  rw [h]

/-- What closing a pipe does depends on the pipes alone. -/
theorem pipes_closePipe_congr {m' : Machine} (h : m'.pipes = m.pipes) (id : Nat) :
    (m'.closePipe id).pipes = (m.closePipe id).pipes := by
  rw [pipes_closePipe, pipes_closePipe, pipe, pipe, h]

end Machine

namespace Act

variable {α β γ : Type} (m : Machine)

/-! ## Running actions

`Act` is a state monad over the machine. These equations run one piece of it;
they are not simp lemmas, so that the library's own equations for `StateT` do
not turn a run into a computation in `Id` first. -/

theorem run_pure (a : α) : (pure a : Act α).run m = (a, m) := rfl
theorem run_bind (x : Act α) (f : α → Act β) :
    (x >>= f).run m = (f (x.run m).1).run (x.run m).2 := rfl
theorem run_get : (get : Act Machine).run m = (m, m) := rfl
theorem run_set (m' : Machine) : (set m' : Act PUnit).run m = ((), m') := rfl
theorem run_modify (f : Machine → Machine) : (modify f : Act PUnit).run m = ((), f m) := rfl
theorem run_modifyGet (f : Machine → α × Machine) : (modifyGet f : Act α).run m = f m := rfl

/-! ## Calm actions -/

/-- An action that leaves the view of every machine as it was. -/
def Calm (a : Act α) : Prop := ∀ m : Machine, (a.run m).2.view = m.view

theorem calm_pure (a : α) : Calm (pure a : Act α) := fun _ => rfl

theorem calm_get : Calm (get : Act Machine) := fun _ => rfl

theorem calm_modify {f : Machine → Machine} (hf : ∀ m, (f m).view = m.view) : Calm (modify f) := hf

/-- What an action does after reading the machine may depend on what it read. -/
theorem calm_get_bind {f : Machine → Act β} (hf : ∀ m, ((f m).run m).2.view = m.view) :
    Calm (get >>= f) :=
  hf

theorem Calm.ite {c : Prop} [Decidable c] {a b : Act α} (ha : Calm a) (hb : Calm b) :
    Calm (if c then a else b) := by
  by_cases hc : c
  · rw [if_pos hc]
    exact ha
  · rw [if_neg hc]
    exact hb

theorem Calm.bind {x : Act α} {f : α → Act β} (hx : Calm x) (hf : ∀ a, Calm (f a)) :
    Calm (x >>= f) := by
  intro m
  rw [run_bind, hf, hx]

/-- A loop whose body is calm is calm. -/
theorem Calm.forIn (l : List γ) (b : β) {f : γ → β → Act (ForInStep β)} (hf : ∀ a b, Calm (f a b)) :
    Calm (forIn l b f) := by
  induction l generalizing b with
  | nil => exact calm_pure b
  | cons a l ih =>
    rw [List.forIn_cons]
    refine (hf a b).bind fun step => ?_
    cases step with
    | done b' => exact calm_pure b'
    | yield b' => exact ih b'

theorem calm_log (l : Level) (msg : String) (fields : List (String × Json)) :
    Calm (log l msg fields) :=
  calm_modify fun _ => rfl

theorem calm_measure (f : Monitor.Metrics → Monitor.Metrics) : Calm (measure f) :=
  calm_modify fun _ => rfl

theorem calm_measurePending : Calm measurePending :=
  calm_get.bind fun _ => calm_measure _

theorem calm_measureLive : Calm measureLive :=
  calm_get.bind fun _ => calm_measure _

theorem calm_reply (sig : Option Nat) (r : Reply) : Calm (reply sig r) :=
  calm_modify fun m => m.view_reply sig r

theorem calm_terminate (id : String) : Calm (terminate id) :=
  calm_modify fun m => m.view_terminate id

theorem calm_announce (id : String) : Calm (announce id) := by
  refine calm_get_bind fun m => ?_
  cases h : m.submit (.announce id) with
  | ok m' => exact Machine.view_of_submit m h
  | error _ => exact calm_terminate id m

/-- Spawning a unit adds it, notes it and may queue its announcement: none of
that is in the view. -/
theorem calm_spawn : Calm spawn := by
  refine calm_get_bind fun m => ?_
  refine (Calm.bind (calm_modify fun _ => ?_) fun _ => calm_get_bind fun m' => ?_) m
  · rfl
  cases m'.spawner with
  | scripted refuse auto =>
    refine (Calm.ite ((calm_modify fun m => ?_).bind fun _ => calm_pure _)
      ((calm_modify fun m => ?_).bind fun _ =>
        Calm.ite ((calm_announce _).bind fun _ => calm_pure _) (calm_pure _))) m'
    · exact m.view_note fun _ _ => rfl
    · rw [Machine.view_note _ fun _ _ => rfl, Machine.view_addUnit_fresh]
  | pool =>
    exact ((calm_modify fun m => m.view_addUnit_fresh _ _).bind fun _ => calm_pure _) m'

theorem calm_ownHandler (id : String) (msg : Message) : Calm (ownHandler id msg) := by
  refine calm_get_bind fun m => ?_
  cases m.unit? id with
  | none => rfl
  | some u =>
    refine (Calm.ite (calm_modify fun m => ?_)
      (Calm.ite (calm_modify fun _ => ?_) (calm_modify fun _ => ?_))) m
    · exact m.view_note fun _ _ => rfl
    · rfl
    · rfl

theorem calm_forward (msg : Message) : Calm (forward msg) := by
  refine calm_get_bind fun m => ?_
  cases ((m.table.get? msg.pid).bind (·.unit)) with
  | none => exact calm_log _ _ _ m
  | some id => exact ((calm_measure _).bind fun _ => calm_ownHandler id msg) m

theorem calm_list : Calm list := calm_get_bind fun _ => rfl

theorem calm_load (path : String) : Calm (modifyGet (·.load path) : Act Loaded) :=
  fun m => m.view_load path

/-! ## Where an action ends

`Ends a m Q` says the run of `a` from `m` ends in a machine whose view satisfies
`Q`. The rules below follow the shape of a `do` block one statement at a time,
so a handler's lemma reads its code from top to bottom. -/

/-- The run of `a` from `m` ends in a machine whose view satisfies `Q`. -/
def Ends (a : Act α) (m : Machine) (Q : View → Prop) : Prop := Q (a.run m).2.view

variable {m} {Q : View → Prop}

theorem Ends.pure (x : α) (h : Q m.view) : Ends (Pure.pure x : Act α) m Q := h

theorem Ends.ite {c : Prop} [Decidable c] {a b : Act α} (ha : c → Ends a m Q)
    (hb : ¬c → Ends b m Q) : Ends (if c then a else b) m Q := by
  by_cases hc : c
  · rw [if_pos hc]
    exact ha hc
  · rw [if_neg hc]
    exact hb hc

theorem Ends.bind {x : Act α} {f : α → Act β} (h : Ends (f (x.run m).1) (x.run m).2 Q) :
    Ends (x >>= f) m Q :=
  h

theorem Ends.get_bind {f : Machine → Act β} (h : Ends (f m) m Q) : Ends (get >>= f) m Q := h

theorem Ends.set_bind {m' : Machine} {f : PUnit → Act β} (h : Ends (f ()) m' Q) :
    Ends (set m' >>= f) m Q :=
  h

theorem Ends.modify_bind {g : Machine → Machine} {f : PUnit → Act β} (h : Ends (f ()) (g m) Q) :
    Ends (modify g >>= f) m Q :=
  h

theorem Ends.calm {x : Act α} (hx : Calm x) (h : Q m.view) : Ends x m Q := by
  unfold Ends
  rw [hx]
  exact h

/-- A calm action may be skipped, forgetting what it returned and all of the
machine but its view. -/
theorem Ends.calm_bind {x : Act α} {f : α → Act β} (hx : Calm x)
    (h : ∀ m', m'.view = m.view → ∀ a, Ends (f a) m' Q) : Ends (x >>= f) m Q :=
  h _ (hx m) _

/-- Forget all of the machine but what `P` says of it. -/
theorem Ends.of_state {x : Act α} (P : Machine → Prop) (hP : P m) (h : ∀ m', P m' → Ends x m' Q) :
    Ends x m Q :=
  h m hP

end Act

end Userland
