import Userland.Proofs.Supervisor.Invariant

/-! # The inbox is served in order

The supervisor's inbox changes in two ways only: an arrival is put at its end
(`Machine.submit`), and the loop takes its head off to serve it. No handler
reorders or drops what is queued; the one thing a handler may queue is the
announcement of a unit it spawned, again at the end (`Act.Along`). So a step
either adds at the end, or serves the head and keeps every other item where it
was, in order (`Step.inbox`).
-/

namespace Userland

namespace Machine

variable (m : Machine)

@[simp] theorem inbox_reply (sig : Option Nat) (r : Reply) :
    (m.reply sig r).supervisor.inbox = m.supervisor.inbox := by
  unfold reply
  cases sig with
  | none => rfl
  | some id =>
    dsimp only
    cases (m.signal id).write? r <;> rfl

@[simp] theorem inbox_terminate (id : String) :
    (m.terminate id).supervisor.inbox = m.supervisor.inbox := by
  unfold terminate
  dsimp only
  split
  · split <;> rfl
  · rfl

@[simp] theorem inbox_installHandler (id : String) (h : Handler) :
    (m.installHandler id h).supervisor.inbox = m.supervisor.inbox := by
  unfold installHandler
  dsimp only
  split
  · split <;> rfl
  · rfl

@[simp] theorem inbox_closePipe (id : Nat) : (m.closePipe id).supervisor.inbox = m.supervisor.inbox := by
  unfold closePipe
  split <;> rfl

@[simp] theorem inbox_load (path : String) : (m.load path).2.supervisor.inbox = m.supervisor.inbox := by
  unfold load
  dsimp only
  repeat' split
  all_goals rfl

theorem inbox_of_sendTo {id : String} {msg : Message} {m' : Machine} (h : m.sendTo id msg = .ok m') :
    m'.supervisor.inbox = m.supervisor.inbox := by
  unfold sendTo at h
  split at h
  · cases h
  · split at h
    · split at h
      · cases h
      · cases h
        rfl
    · split at h
      · cases h
      · cases h
        rfl

/-- An accepted arrival is put at the end of the inbox. -/
theorem inbox_of_submit {item : Inbound} {m' : Machine} (h : m.submit item = .ok m') :
    m'.supervisor.inbox = m.supervisor.inbox ++ [item] := by
  rw [m.eq_of_submit h]

end Machine

@[simp] theorem Supervisor.inbox_addWaiter (s : Supervisor) (target : Nat) (w : Waiter) :
    (s.addWaiter target w).inbox = s.inbox := by
  unfold Supervisor.addWaiter
  split <;> rfl

namespace Act

variable {α β γ : Type}

/-! ## Actions that queue announcements at the end only

Serving an item changes the inbox in one way only: a unit spawned on the way may
be announced, at the end. So whatever relation between two inboxes holds of an
inbox and itself, composes, and holds when an announcement is added at the end,
holds between the inbox before and after any handler (`Along`). Keeping every
queued item where it was is one such relation (`InboxOrder.prefix`); others
follow what is owed to the requests queued. -/

/-- A way an inbox may change while an item is served: it holds of an inbox
and itself, composes, and holds when an announcement is put at the end. -/
structure InboxOrder (R : List Inbound → List Inbound → Prop) : Prop where
  refl : ∀ l, R l l
  trans : ∀ {l₁ l₂ l₃}, R l₁ l₂ → R l₂ l₃ → R l₁ l₃
  announce : ∀ l id, R l (l ++ [.announce id])

/-- Every queued item stays where it was; items are added at the end only. -/
theorem InboxOrder.prefix : InboxOrder (· <+: ·) :=
  ⟨List.prefix_refl, List.IsPrefix.trans, fun l _ => List.prefix_append l _⟩

/-- An action that changes the inbox only along `R`. -/
def Along (R : List Inbound → List Inbound → Prop) (a : Act α) : Prop :=
  ∀ m : Machine, R m.supervisor.inbox (a.run m).2.supervisor.inbox

variable {R : List Inbound → List Inbound → Prop} (hR : InboxOrder R)

include hR in
theorem along_pure (a : α) : Along R (pure a : Act α) := fun _ => hR.refl _

include hR in
theorem along_modify {f : Machine → Machine} (hf : ∀ m, (f m).supervisor.inbox = m.supervisor.inbox) :
    Along R (modify f) := fun m => by
  rw [run_modify, hf]
  exact hR.refl _

theorem Along.get_bind {f : Machine → Act β} (hf : ∀ m, Along R (f m)) : Along R (get >>= f) :=
  fun m => hf m m

/-- What an action does after reading the machine may depend on the machine it
read, and hold only from there. -/
theorem along_get_bind {f : Machine → Act β}
    (hf : ∀ m, R m.supervisor.inbox ((f m).run m).2.supervisor.inbox) : Along R (get >>= f) :=
  hf

/-- Putting back a machine with the inbox of the one just read. -/
theorem along_set_bind {m m' : Machine} {f : PUnit → Act β}
    (hm : m'.supervisor.inbox = m.supervisor.inbox) (hf : Along R (f ())) :
    R m.supervisor.inbox ((set m' >>= f).run m).2.supervisor.inbox := by
  rw [run_bind, run_set, ← hm]
  exact hf m'

/-- Changing the machine just read, keeping its inbox. -/
theorem along_modify_bind {m : Machine} {g : Machine → Machine} {f : PUnit → Act β}
    (hg : (g m).supervisor.inbox = m.supervisor.inbox) (hf : Along R (f ())) :
    R m.supervisor.inbox ((modify g >>= f).run m).2.supervisor.inbox := by
  rw [run_bind, run_modify, ← hg]
  exact hf (g m)

theorem Along.ite {c : Prop} [Decidable c] {a b : Act α} (ha : Along R a) (hb : Along R b) :
    Along R (if c then a else b) := by
  by_cases hc : c
  · rw [if_pos hc]
    exact ha
  · rw [if_neg hc]
    exact hb

include hR in
theorem Along.bind {x : Act α} {f : α → Act β} (hx : Along R x) (hf : ∀ a, Along R (f a)) :
    Along R (x >>= f) := by
  intro m
  rw [run_bind]
  exact hR.trans (hx m) (hf _ _)

include hR in
/-- A loop whose body changes the inbox along `R` changes it along `R`. -/
theorem Along.forIn (l : List γ) (b : β) {f : γ → β → Act (ForInStep β)} (hf : ∀ a b, Along R (f a b)) :
    Along R (forIn l b f) := by
  induction l generalizing b with
  | nil => exact along_pure hR b
  | cons a l ih =>
    rw [List.forIn_cons]
    refine (hf a b).bind hR fun step => ?_
    cases step with
    | done b' => exact along_pure hR b'
    | yield b' => exact ih b'

include hR in
theorem along_log (l : Level) (msg : String) (fields : List (String × Json)) :
    Along R (log l msg fields) :=
  along_modify hR fun _ => rfl

include hR in
theorem along_measure (f : Monitor.Metrics → Monitor.Metrics) : Along R (measure f) :=
  along_modify hR fun _ => rfl

include hR in
theorem along_measurePending : Along R measurePending :=
  Along.get_bind fun _ => along_measure hR _

include hR in
theorem along_measureLive : Along R measureLive :=
  Along.get_bind fun _ => along_measure hR _

include hR in
theorem along_reply (sig : Option Nat) (r : Reply) : Along R (reply sig r) :=
  along_modify hR fun m => m.inbox_reply sig r

include hR in
theorem along_terminate (id : String) : Along R (terminate id) :=
  along_modify hR fun m => m.inbox_terminate id

include hR in
/-- Announcing a unit queues it at the end, or terminates it when the inbox is closed. -/
theorem along_announce (id : String) : Along R (announce id) := by
  refine along_get_bind fun m => ?_
  cases h : m.submit (.announce id) with
  | ok m' =>
    show R m.supervisor.inbox m'.supervisor.inbox
    rw [m.inbox_of_submit h]
    exact hR.announce _ _
  | error _ => exact along_terminate hR id m

include hR in
theorem along_spawn : Along R spawn := by
  refine Along.get_bind fun m => Along.bind hR (along_modify hR fun _ => rfl) fun _ =>
    Along.get_bind fun m' => ?_
  cases m'.spawner with
  | scripted refuse auto =>
    refine Along.ite (Along.bind hR (along_modify hR fun _ => rfl) fun _ => along_pure hR _) ?_
    refine Along.bind hR (along_modify hR fun _ => rfl) fun _ => Along.ite ?_ (along_pure hR _)
    exact (along_announce hR _).bind hR fun _ => along_pure hR _
  | pool => exact Along.bind hR (along_modify hR fun _ => rfl) fun _ => along_pure hR _

include hR in
theorem along_ownHandler (id : String) (msg : Message) : Along R (ownHandler id msg) := by
  refine Along.get_bind fun m => ?_
  cases m.unit? id with
  | none => exact along_pure hR _
  | some u =>
    exact Along.ite (along_modify hR fun _ => rfl)
      (Along.ite (along_modify hR fun _ => rfl) (along_modify hR fun _ => rfl))

include hR in
theorem along_forward (msg : Message) : Along R (forward msg) := by
  refine Along.get_bind fun m => ?_
  cases ((m.table.get? msg.pid).bind (·.unit)) with
  | none => exact along_log hR _ _ _
  | some id => exact (along_measure hR _).bind hR fun _ => along_ownHandler hR id msg

include hR in
theorem along_load (path : String) : Along R (modifyGet (·.load path) : Act Loaded) := fun m => by
  rw [run_modifyGet, m.inbox_load path]
  exact hR.refl _

include hR in
theorem along_openChannels : Along R openChannels := by
  refine along_get_bind fun m => ?_
  simp only [run_bind, run_modifyGet, run_pure, Machine.newPipe, Machine.newSignal]
  exact hR.refl _

/-! ## Handlers -/

include hR in
theorem along_finish (r : Record) (code : Int) (reason : String) : Along R (finish r code reason) := by
  unfold finish
  refine Along.bind hR (along_modify hR fun m => ?_) fun _ => Along.get_bind fun m => ?_
  · split <;> rfl
  cases m.table.free r.pid with
  | error f => exact along_log hR _ _ _
  | ok t =>
    refine Along.bind hR (along_modify hR fun _ => rfl) fun _ => along_get_bind fun m₁ => ?_
    -- the waiters are taken from the supervisor just read; its inbox is the current one
    generalize hrel : m₁.supervisor.releaseWaiters r.pid = rel
    obtain ⟨ws, s⟩ := rel
    have hs : s.inbox = m₁.supervisor.inbox := by
      have hs := congrArg Prod.snd hrel
      simp only at hs
      rw [← hs]
      rfl
    refine along_modify_bind hs (Along.bind hR (Along.forIn hR _ _ fun _ _ => Along.get_bind fun _ => ?_)
      fun _ => Along.bind hR (along_modify hR fun m => ?_) fun _ => (along_log hR _ _ _).bind hR fun _ =>
        (along_measureLive hR).bind hR fun _ => (along_measure hR _).bind hR fun _ =>
          along_modify hR fun _ => rfl)
    · dsimp only
      split
      · exact Along.bind hR (along_reply hR _ _) fun _ => along_pure hR _
      · exact Along.bind hR (along_log hR _ _ _) fun _ => along_pure hR _
    · simp

include hR in
theorem along_changeState (msg : Message) : Along R (changeState msg) := by
  unfold changeState
  cases State.ofName? msg.state with
  | none => exact along_pure hR _
  | some s =>
    refine Along.get_bind fun m => ?_
    cases m.table.setState msg.pid s with
    | error f => exact along_pure hR _
    | ok t => exact Along.bind hR (along_modify hR fun _ => rfl) fun _ => along_pure hR _

include hR in
theorem along_wait (msg : Message) : Along R (wait msg) := by
  unfold wait
  cases msg.signal with
  | none => exact along_pure hR _
  | some sig =>
    refine Along.ite (along_pure hR _) (Along.get_bind fun m => Along.ite (along_pure hR _) ?_)
    exact Along.bind hR (along_modify hR fun m => Supervisor.inbox_addWaiter _ _ _) fun _ =>
      Along.get_bind fun _ => (along_log hR _ _ _).bind hR fun _ => along_pure hR _

include hR in
theorem along_create (caller : Int) (req : CreateRequest) (sig : Option Nat) :
    Along R (create caller req sig) := by
  unfold create
  refine Along.get_bind fun m => Along.ite (along_pure hR _) (Along.ite (along_pure hR _) ?_)
  refine (along_load hR _).bind hR fun loaded => ?_
  cases loaded with
  | crashed => exact along_pure hR _
  | failed f => exact along_pure hR _
  | source source =>
    refine Along.get_bind fun m₁ => Along.ite (along_pure hR _) ?_
    refine (along_openChannels hR).bind hR fun ends => along_get_bind fun m₂ => ?_
    split
    · exact hR.refl _
    · -- the new process is queued for a unit on the machine just read
      rename_i r t _
      refine along_set_bind rfl (Along.bind hR (along_spawn hR) fun res => ?_)
      cases res with
      | error f =>
        refine Along.bind hR (along_modify hR fun _ => rfl) fun _ =>
          Along.bind hR (along_modify hR fun m => ?_) fun _ => along_pure hR _
        split <;> rfl
      | ok id =>
        exact (along_measurePending hR).bind hR fun _ => (along_measureLive hR).bind hR fun _ =>
          (along_measure hR _).bind hR fun _ => (along_log hR _ _ _).bind hR fun _ => along_pure hR _

include hR in
theorem along_kill (msg : Message) : Along R (kill msg) := by
  unfold kill
  refine Along.get_bind fun m => ?_
  cases m.table.get? msg.target with
  | none => exact along_pure hR _
  | some r =>
    dsimp only
    cases r.unit with
    | none => exact along_pure hR _
    | some id =>
      exact (along_terminate hR id).bind hR fun _ => (along_finish hR r _ _).bind hR fun _ => along_pure hR _

include hR in
theorem along_list : Along R list := Along.get_bind fun _ => along_pure hR _

include hR in
theorem along_pipe (msg : Message) : Along R (pipe msg) := by
  unfold pipe
  refine Along.get_bind fun m => ?_
  dsimp only
  cases m.table.get? msg.outPid with
  | none => exact along_pure hR _
  | some o =>
    cases m.table.get? msg.inPid with
    | none => exact along_pure hR _
    | some i =>
      dsimp only
      refine Along.ite (along_pure hR _) (Along.ite (along_pure hR _) ?_)
      split
      · exact along_pure hR _
      · exact Along.bind hR (along_modify hR fun _ => rfl) fun _ =>
          (along_log hR _ _ _).bind hR fun _ => along_pure hR _

include hR in
theorem along_start (r : Record) : Along R (start r) := by
  unfold start
  cases r.unit with
  | none => exact along_pure hR _
  | some id =>
    refine Along.get_bind fun m => ?_
    dsimp only
    split
    · exact along_pure hR _
    · refine Along.bind hR (along_modify hR fun _ => rfl) fun _ => Along.get_bind fun m₁ =>
        along_get_bind fun m₂ => ?_
      split
      · rename_i m' hsend
        show R m₂.supervisor.inbox m'.supervisor.inbox
        rw [m₂.inbox_of_sendTo hsend]
        exact hR.refl _
      · refine Along.get_bind (fun m₃ => ?_) m₂
        exact Along.ite (Along.bind hR (along_modify hR fun _ => rfl) fun _ => along_pure hR _)
          (along_pure hR _)

include hR in
theorem along_startTarget (msg : Message) : Along R (startTarget msg) := by
  unfold startTarget
  refine Along.get_bind fun m => ?_
  cases m.table.get? msg.target with
  | none => exact along_pure hR _
  | some r =>
    refine (along_start hR r).bind hR fun res => ?_
    cases res with
    | error f => exact along_pure hR _
    | ok u => exact along_pure hR _

include hR in
theorem along_exit (msg : Message) : Along R (exit msg) := by
  unfold exit
  refine Along.get_bind fun m => ?_
  cases m.table.get? msg.pid with
  | none => exact along_pure hR _
  | some r =>
    refine (along_finish hR r _ _).bind hR fun _ => (along_reply hR _ _).bind hR fun _ => ?_
    cases r.unit with
    | none => exact along_pure hR _
    | some id => exact (along_terminate hR id).bind hR fun _ => along_pure hR _

include hR in
theorem along_handlerFor {msg : Message} {h : Act Outcome} (hh : handlerFor msg = some h) :
    Along R h := by
  unfold handlerFor at hh
  split at hh <;> cases hh
  case h_1 => exact along_changeState hR msg
  case h_2 => exact along_wait hR msg
  case h_3 =>
    split
    · exact along_create hR _ _ _
    · exact along_pure hR _
  case h_4 => exact along_kill hR msg
  case h_5 => exact along_list hR
  case h_6 => exact along_pipe hR msg
  case h_7 => exact along_startTarget hR msg
  case h_8 => exact along_exit hR msg

include hR in
theorem along_dispatch (msg : Message) : Along R (dispatch msg) := by
  unfold dispatch
  cases hh : handlerFor msg with
  | none => exact along_forward hR msg
  | some h =>
    refine (along_log hR _ _ _).bind hR fun _ => (along_handlerFor hR hh).bind hR fun o => ?_
    cases o with
    | deferred => exact along_measure hR _
    | answer r => exact (along_reply hR _ _).bind hR fun _ => along_measure hR _
    | refused f =>
      exact (along_log hR _ _ _).bind hR fun _ => (along_reply hR _ _).bind hR fun _ => along_measure hR _
    | crashed =>
      exact (along_log hR _ _ _).bind hR fun _ => (along_reply hR _ _).bind hR fun _ => along_measure hR _

include hR in
theorem along_register (id : String) : Along R (register id) := by
  unfold register
  refine Along.get_bind fun m => ?_
  cases m.supervisor.pending with
  | nil => exact (along_log hR _ _ _).bind hR fun _ => along_terminate hR id
  | cons p rest =>
    refine Along.bind hR (along_modify hR fun _ => rfl) fun _ => (along_measurePending hR).bind hR fun _ =>
      Along.bind hR (along_modify hR fun m => m.inbox_installHandler _ _) fun _ => Along.get_bind fun m₂ => ?_
    cases m₂.table.register p.pid id with
    | error f =>
      exact (along_log hR _ _ _).bind hR fun _ => (along_terminate hR id).bind hR fun _ => along_reply hR _ _
    | ok t =>
      refine Along.bind hR (along_modify hR fun _ => rfl) fun _ => Along.get_bind fun m₃ => ?_
      dsimp only
      split
      case' h_1 =>
        refine Along.ite (Along.bind hR (along_start hR _) fun _ => ?_)
          (Along.bind hR (along_pure hR _) fun _ => ?_)
      case' h_2 => refine Along.bind hR (along_pure hR _) fun _ => ?_
      -- whether or not the process was started, what follows only logs and answers
      all_goals
        split
        · exact Along.bind hR (along_log hR _ _ _) fun _ => Along.bind hR (along_log hR _ _ _) fun _ =>
            along_reply hR _ _
        · exact Along.bind hR (along_log hR _ _ _) fun _ => along_reply hR _ _

include hR in
/-- Serving an item changes the rest of the inbox along `R`: the item is taken
off the head and the rest changes as its handler changes it. -/
theorem along_serveOne {m : Machine} {item : Inbound} {rest : List Inbound}
    (hin : m.supervisor.inbox = item :: rest) :
    R rest (serveOne.run m).2.supervisor.inbox := by
  unfold serveOne
  rw [run_bind, run_get]
  dsimp only
  rw [hin]
  dsimp only
  rw [run_bind, run_modify]
  cases item with
  | request msg =>
    exact (Along.bind hR (along_dispatch hR msg) fun _ => along_pure hR true)
      { m with supervisor := { m.supervisor with inbox := rest } }
  | announce id =>
    exact (Along.bind hR (along_register hR id) fun _ => along_pure hR true)
      { m with supervisor := { m.supervisor with inbox := rest } }

/-! ## Steps -/

/-- Serving the head of the inbox keeps the rest of it in order, in front of
whatever the item queued. -/
theorem serveOne_inbox {m : Machine} {item : Inbound} {rest : List Inbound}
    (hin : m.supervisor.inbox = item :: rest) : rest <+: (serveOne.run m).2.supervisor.inbox :=
  along_serveOne InboxOrder.prefix hin

end Act

/-- A step of the manager puts an item at the end of the inbox, or serves the
head of the inbox and keeps the rest of it in order, in front of what it
queued. -/
theorem Step.inbox {m m' : Machine} (hs : Step m m') :
    (∃ item, m'.supervisor.inbox = m.supervisor.inbox ++ [item]) ∨
      ∃ item rest, m.supervisor.inbox = item :: rest ∧ item.Admissible m ∧
        m' = (Act.serveOne.run m).2 ∧ rest <+: m'.supervisor.inbox := by
  cases hs with
  | arrive h => exact .inl ⟨_, m.inbox_of_submit h⟩
  | serve hin hitem => exact .inr ⟨_, _, hin, hitem, rfl, Act.serveOne_inbox hin⟩

end Userland
