import Userland.Proofs.Supervisor.Invariant

namespace Userland

/-! # Every request is answered once

A request that carries a signal is answered on it: one frame goes into the
signal's reply ring and the sleeper is woken once (`Signal.deliver`). Most
requests are answered while they are served. Two are answered later: a
creation when a unit claims the new process, a wait when its target ends.
Until then the answer is owed, as an entry of the pending queue or of the
waiting map.

The answers are read through `Answered`, which compares the signals before and
after a run with a list of (signal, reply) pairs delivered in order. `Still`
marks the actions that answer nothing, and `Runs` follows a `do` block to where
it ends; with them, ending a live process answers each waiter still filed on
it once, with its code (`runs_finish`).
-/

/-! ## Delivering answers -/

namespace Signal

/-- One answer on a signal: the reply's frame if it fits, else the frame of an
external error if that fits, and one wake-up. -/
def deliver (s : Signal) (r : Reply) : Signal :=
  (match s.write? r with
    | some s' => s'
    | none => (s.write? (Reply.errno Errno.external.code)).getD s).wake

/-- Answers delivered one after another. -/
def deliverAll (s : Signal) (rs : List Reply) : Signal := rs.foldl deliver s

@[simp] theorem deliverAll_nil (s : Signal) : s.deliverAll [] = s := rfl

@[simp] theorem deliverAll_append (s : Signal) (rs rs' : List Reply) :
    s.deliverAll (rs ++ rs') = (s.deliverAll rs).deliverAll rs' := by
  simp [deliverAll, List.foldl_append]

theorem deliverAll_singleton (s : Signal) (r : Reply) : s.deliverAll [r] = s.deliver r := rfl

theorem wakes_write? {s s' : Signal} {r : Reply} (h : s.write? r = some s') : s'.wakes = s.wakes := by
  unfold write? at h
  obtain ⟨ring, -, rfl⟩ := Option.map_eq_some_iff.mp h
  rfl

/-- Each answer wakes the sleeper once. -/
@[simp] theorem wakes_deliver (s : Signal) (r : Reply) : (s.deliver r).wakes = s.wakes + 1 := by
  unfold deliver wake
  dsimp only
  split
  · next h => rw [wakes_write? h]
  · cases h : s.write? (Reply.errno Errno.external.code) with
    | none => rfl
    | some s' => rw [Option.getD_some, wakes_write? h]

theorem wakes_deliverAll (s : Signal) (rs : List Reply) : (s.deliverAll rs).wakes = s.wakes + rs.length := by
  induction rs generalizing s with
  | nil => rfl
  | cons r rs ih =>
    show (s.deliver r |>.deliverAll rs).wakes = _
    rw [ih, wakes_deliver, List.length_cons]
    omega

end Signal

/-- The answer a reply makes on a signal, if there is one. -/
def answerTo (sig : Option Nat) (r : Reply) : List (Nat × Reply) :=
  match sig with
  | none => []
  | some id => [(id, r)]

/-- The replies of a list of answers that go to signal `id`, in order. -/
def answersTo (L : List (Nat × Reply)) (id : Nat) : List Reply :=
  L.filterMap fun a => if a.1 = id then some a.2 else none

@[simp] theorem answersTo_nil (id : Nat) : answersTo [] id = [] := rfl

@[simp] theorem answersTo_append (L L' : List (Nat × Reply)) (id : Nat) :
    answersTo (L ++ L') id = answersTo L id ++ answersTo L' id := by
  simp [answersTo, List.filterMap_append]

namespace Machine

/-- `m'` holds the signals of `m`, and maybe new ones after them, once the
answers `L` were delivered on them in order. -/
def Answered (m m' : Machine) (L : List (Nat × Reply)) : Prop :=
  m.signals.size ≤ m'.signals.size ∧
    ∀ id < m.signals.size, m'.signal id = (m.signal id).deliverAll (answersTo L id)

theorem signal_congr {m m' : Machine} (h : m'.signals = m.signals) (id : Nat) :
    m'.signal id = m.signal id := by
  unfold signal
  rw [h]

theorem Answered.of_signals {m m' : Machine} (h : m'.signals = m.signals) : m.Answered m' [] :=
  ⟨by rw [h], fun id _ => signal_congr h id⟩

theorem Answered.refl (m : Machine) : m.Answered m [] := .of_signals rfl

theorem Answered.trans {m₁ m₂ m₃ : Machine} {L₁ L₂ : List (Nat × Reply)} (h₁ : m₁.Answered m₂ L₁)
    (h₂ : m₂.Answered m₃ L₂) : m₁.Answered m₃ (L₁ ++ L₂) := by
  refine ⟨h₁.1.trans h₂.1, fun id hid => ?_⟩
  rw [h₂.2 id (lt_of_lt_of_le hid h₁.1), h₁.2 id hid, answersTo_append, Signal.deliverAll_append]

/-- The answers given since a machine with the same signals. -/
theorem Answered.left {m m₁ m' : Machine} {L : List (Nat × Reply)} (h : m₁.Answered m' L)
    (hs : m₁.signals = m.signals) : m.Answered m' L :=
  (Answered.of_signals hs).trans h

/-- Two machines with the same signals have answered the same. -/
theorem Answered.congr {m m₁ m₂ : Machine} {L : List (Nat × Reply)} (h : m.Answered m₁ L)
    (hs : m₂.signals = m₁.signals) : m.Answered m₂ L := by
  refine ⟨hs ▸ h.1, fun id hid => ?_⟩
  rw [← h.2 id hid, signal_congr hs]

theorem signals_closePipe (m : Machine) (id : Nat) : (m.closePipe id).signals = m.signals := by
  unfold closePipe
  split <;> rfl

theorem signal_setSignal (m : Machine) (id j : Nat) (s : Signal) :
    (m.setSignal id s).signal j = if j = id ∧ id < m.signals.size then s else m.signal j := by
  unfold setSignal signal
  simp only [Array.set!_eq_setIfInBounds, Array.getElem?_setIfInBounds]
  by_cases hj : id = j
  · subst hj
    by_cases hlt : id < m.signals.size
    · simp [hlt]
    · simp [hlt]
  · simp [hj, Ne.symm hj]

theorem signals_reply (m : Machine) (id : Nat) (r : Reply) :
    (m.reply (some id) r).signals = (m.setSignal id ((m.signal id).deliver r)).signals := by
  unfold reply Signal.deliver
  dsimp only
  cases (m.signal id).write? r <;> rfl

/-- A reply on a signal is one answer on it. -/
theorem answered_reply (m : Machine) (sig : Option Nat) (r : Reply) :
    m.Answered (m.reply sig r) (answerTo sig r) := by
  cases sig with
  | none => exact .refl m
  | some id =>
    refine ⟨?_, fun j hj => ?_⟩
    · rw [signals_reply]
      simp [setSignal]
    · rw [signal_congr (signals_reply m id r), signal_setSignal]
      by_cases hji : j = id
      · subst hji
        simp [answerTo, answersTo, hj, Signal.deliverAll_singleton]
      · simp [hji, Ne.symm hji, answerTo, answersTo]

theorem answered_newSignal (m : Machine) (c : Nat) : m.Answered (m.newSignal c).2 [] := by
  refine ⟨by simp [newSignal], fun id hid => ?_⟩
  simp [newSignal, signal, Array.getElem?_push, Nat.ne_of_lt hid]

/-- The answers the supervisor owes: creations waiting for a unit, and the
waiters on each process. -/
def owed (m : Machine) : List Pending × List (Nat × List Waiter) :=
  (m.supervisor.pending, m.supervisor.waiting)

end Machine

/-- The answers the end of a process gives its waiters `ws`, with its code,
once its slot is gone from `t`: the host is answered, and so is each process
still live with the signal it waited with; a waiter that is gone, or that waited
with a signal it no longer has, is not. -/
def Table.released (t : Table) (ws : List Waiter) (code : Int) : List (Nat × Reply) :=
  ws.filterMap fun w =>
    if w.pid == 0 || (t.get? w.pid).any (·.signal == w.signal) then some (w.signal, Reply.number code)
    else none

/-- The reply the loop gives for what a handler returned; a deferred request is
not answered by the loop. -/
def Outcome.reply? : Outcome → Option Reply
  | .answer r => some r
  | .deferred => none
  | .refused f => some (Reply.errno f.code)
  | .crashed => some (Reply.errno Errno.external.code)

/-! ## Actions that give no answer -/

namespace Act

variable {α β γ : Type}

/-- An action that leaves every signal as it was. -/
def Still (a : Act α) : Prop := ∀ m : Machine, (a.run m).2.signals = m.signals

theorem still_pure (a : α) : Still (pure a : Act α) := fun _ => rfl

theorem still_get : Still (get : Act Machine) := fun _ => rfl

theorem Still.bind {x : Act α} {f : α → Act β} (hx : Still x) (hf : ∀ a, Still (f a)) :
    Still (x >>= f) := by
  intro m
  rw [run_bind, hf, hx]

theorem Still.ite {c : Prop} [Decidable c] {a b : Act α} (ha : Still a) (hb : Still b) :
    Still (if c then a else b) := by
  by_cases hc : c
  · rw [if_pos hc]
    exact ha
  · rw [if_neg hc]
    exact hb

theorem still_modify {f : Machine → Machine} (hf : ∀ m, (f m).signals = m.signals) : Still (modify f) := hf

theorem still_log (l : Level) (msg : String) (fields : List (String × Json)) : Still (log l msg fields) :=
  fun _ => rfl

theorem still_measure (f : Monitor.Metrics → Monitor.Metrics) : Still (measure f) := fun _ => rfl

theorem still_measurePending : Still measurePending := still_get.bind fun _ => still_measure _

theorem still_measureLive : Still measureLive := still_get.bind fun _ => still_measure _

theorem signals_terminate (m : Machine) (id : String) : (m.terminate id).signals = m.signals := by
  unfold Machine.terminate
  dsimp only
  split
  · split <;> rfl
  · rfl

theorem still_terminate (id : String) : Still (terminate id) := fun m => signals_terminate m id

theorem still_announce (id : String) : Still (announce id) := by
  intro m
  unfold announce
  rw [run_bind, run_get]
  dsimp only
  unfold Machine.submit
  split_ifs
  · exact signals_terminate m id
  · rfl

theorem still_spawn : Still spawn := by
  refine still_get.bind fun _ => Still.bind (still_modify fun _ => rfl) fun _ =>
    still_get.bind fun m => ?_
  cases m.spawner with
  | scripted refuse auto =>
    exact Still.ite (Still.bind (still_modify fun _ => rfl) fun _ => still_pure _)
      (Still.bind (still_modify fun _ => rfl) fun _ =>
        Still.ite ((still_announce _).bind fun _ => still_pure _) (still_pure _))
  | pool => exact Still.bind (still_modify fun _ => rfl) fun _ => still_pure _

theorem still_ownHandler (id : String) (msg : Message) : Still (ownHandler id msg) := by
  intro m
  unfold ownHandler
  rw [run_bind, run_get]
  dsimp only
  split
  · rfl
  · split_ifs <;> rfl

theorem still_forward (msg : Message) : Still (forward msg) := by
  intro m
  unfold forward
  rw [run_bind, run_get]
  dsimp only
  split
  · rfl
  · exact ((still_measure _).bind fun _ => still_ownHandler _ msg) m

theorem still_load (path : String) : Still (modifyGet (·.load path) : Act Loaded) := by
  intro m
  unfold Machine.load
  dsimp only [run_modifyGet]
  repeat' split
  all_goals rfl

/-! ## Where a run ends, with its result

`Runs a m P` says `P` holds of what `a` returns from `m` and of the machine it
leaves. Its rules follow a `do` block like those of `Ends`; an action that is
calm and still may be skipped, keeping only the view and the signals. -/

/-- What `a` returns from `m`, and the machine it leaves, satisfy `P`. -/
def Runs (a : Act α) (m : Machine) (P : α → Machine → Prop) : Prop := P (a.run m).1 (a.run m).2

variable {m : Machine} {P : β → Machine → Prop}

theorem Runs.pure (x : β) (h : P x m) : Runs (Pure.pure x : Act β) m P := h

theorem Runs.bind {x : Act α} {f : α → Act β} (h : Runs x m fun a m₁ => Runs (f a) m₁ P) :
    Runs (x >>= f) m P :=
  h

theorem Runs.get_bind {f : Machine → Act β} (h : Runs (f m) m P) : Runs (get >>= f) m P := h

theorem Runs.set_bind {m' : Machine} {f : PUnit → Act β} (h : Runs (f ()) m' P) :
    Runs (set m' >>= f) m P :=
  h

theorem Runs.modify_bind {g : Machine → Machine} {f : PUnit → Act β} (h : Runs (f ()) (g m) P) :
    Runs (modify g >>= f) m P :=
  h

theorem Runs.ite {c : Prop} [Decidable c] {a b : Act β} (ha : c → Runs a m P) (hb : ¬c → Runs b m P) :
    Runs (if c then a else b) m P := by
  by_cases hc : c
  · rw [if_pos hc]
    exact ha hc
  · rw [if_neg hc]
    exact hb hc

/-- A calm and still action may be skipped, keeping the view and the signals. -/
theorem Runs.quiet {x : Act β} (hx : Calm x) (hs : Still x)
    (h : ∀ m₁ a, m₁.view = m.view → m₁.signals = m.signals → P a m₁) : Runs x m P :=
  h _ _ (hx m) (hs m)

theorem Runs.quiet_bind {x : Act α} {f : α → Act β} (hx : Calm x) (hs : Still x)
    (h : ∀ m₁, m₁.view = m.view → m₁.signals = m.signals → ∀ a, Runs (f a) m₁ P) :
    Runs (x >>= f) m P :=
  h _ (hx m) (hs m) _

/-- An action that answers nothing may be skipped, keeping only the signals. -/
theorem Runs.still {x : Act β} (hs : Still x) (h : ∀ m₁ a, m₁.signals = m.signals → P a m₁) :
    Runs x m P :=
  h _ _ (hs m)

/-- Go on from whatever `x` is known to end in. -/
theorem Runs.bind_of {x : Act α} {f : α → Act β} (Q : α → Machine → Prop) (hx : Runs x m Q)
    (h : ∀ a m₁, Q a m₁ → Runs (f a) m₁ P) : Runs (x >>= f) m P :=
  h _ _ hx

/-- Forget all of the machine but what `R` says of it. -/
theorem Runs.of_state {x : Act β} (R : Machine → Prop) (hR : R m) (h : ∀ m₁, R m₁ → Runs x m₁ P) :
    Runs x m P :=
  h m hR

theorem Runs.and {x : Act β} {Q : β → Machine → Prop} (hP : Runs x m P) (hQ : Runs x m Q) :
    Runs x m fun a m' => P a m' ∧ Q a m' :=
  ⟨hP, hQ⟩

/-- A loop whose body goes on after every item, keeps the table `t` and gives
the answer `g a`, if any, for item `a`, gives the answers of its items in order. -/
theorem answered_forIn {t : Table} {g : γ → Option (Nat × Reply)} {f : γ → β → Act (ForInStep β)}
    (hf : ∀ a b m, m.table = t → ∃ b', ((f a b).run m).1 = .yield b' ∧
      ((f a b).run m).2.table = t ∧ m.Answered ((f a b).run m).2 (g a).toList)
    (l : List γ) (b : β) {m : Machine} (ht : m.table = t) :
    ((forIn l b f).run m).2.table = t ∧ m.Answered ((forIn l b f).run m).2 (l.filterMap g) := by
  induction l generalizing b m with
  | nil => exact ⟨ht, .refl m⟩
  | cons a l ih =>
    obtain ⟨b', hyield, ht₁, hans₁⟩ := hf a b m ht
    rw [List.forIn_cons, run_bind, hyield]
    obtain ⟨ht₂, hans₂⟩ := ih b' ht₁
    refine ⟨ht₂, ?_⟩
    have hans := hans₁.trans hans₂
    cases hg : g a <;> simpa [List.filterMap_cons, hg] using hans

variable {m : Machine}

/-- Ending a live process answers those of its waiters that are still there,
each once, with its code. -/
theorem runs_finish {r : Record} (hr : m.table.get? r.pid = some r) (code : Int) (reason : String) :
    ∃ t, m.table.free r.pid = .ok t ∧ Runs (finish r code reason) m fun _ m' =>
      m'.view = m.endedView r t ∧ m.Answered m' (t.released (m.supervisor.releaseWaiters r.pid).1 code) := by
  obtain ⟨t, ht, hend⟩ := ends_finish hr code reason
  refine ⟨t, ht, Runs.and hend ?_⟩
  unfold finish
  -- marking the process terminating leaves its slot to be freed as before
  refine Runs.modify_bind (Runs.of_state (fun m₁ => m₁.table.free r.pid = .ok t ∧
    m₁.signals = m.signals ∧ m₁.supervisor.waiting = m.supervisor.waiting) ?_ fun m₁ ⟨hfree₁, hs₁, hw₁⟩ => ?_)
  · cases hs : m.table.setState r.pid .terminating with
    | error e => exact ⟨ht, rfl, rfl⟩
    | ok t₀ => exact ⟨(Table.free_of_update hs).trans ht, rfl, rfl⟩
  refine Runs.get_bind ?_
  rw [hfree₁]
  refine Runs.modify_bind (Runs.get_bind ?_)
  generalize hrel : (m₁.setTable t).supervisor.releaseWaiters r.pid = rel
  obtain ⟨ws, s⟩ := rel
  have hws : ws = (m.supervisor.releaseWaiters r.pid).1 := by
    have hws := congrArg Prod.fst hrel
    simp only at hws
    rw [← hws]
    simp only [Supervisor.releaseWaiters, Machine.setTable, hw₁]
  have hst : ({ m₁.setTable t with supervisor := s } : Machine).table = t := by
    have hs := congrArg Prod.snd hrel
    simp only at hs
    rw [← hs]
    rfl
  subst hws
  -- each waiter still there is answered once; what follows answers nothing
  refine Runs.modify_bind (Runs.bind_of (fun _ m₄ => m.Answered m₄ (t.released _ code)) ?_
    fun _ m₄ hans₄ => Runs.modify_bind (Runs.still ?_ fun m₅ _ hs₅ => hans₄.congr
      (hs₅.trans ((Machine.signals_closePipe _ _).trans (Machine.signals_closePipe _ _)))))
  · refine (answered_forIn ?_ _ _ hst).2.left hs₁
    intro w _ m₃ ht₃
    simp only [run_bind, run_get, ht₃]
    by_cases halive : (w.pid == 0 || (t.get? w.pid).any (·.signal == w.signal)) = true
    · rw [if_pos halive, if_pos halive]
      refine ⟨_, rfl, ?_, ?_⟩
      · show (m₃.reply (some w.signal) (Reply.number code)).table = t
        exact (congrArg View.table (m₃.view_reply (some w.signal) (Reply.number code))).trans ht₃
      · show m₃.Answered (m₃.reply (some w.signal) (Reply.number code)) [(w.signal, Reply.number code)]
        exact m₃.answered_reply (some w.signal) (Reply.number code)
    · rw [if_neg halive, if_neg halive]
      exact ⟨_, rfl, ht₃, .of_signals rfl⟩
  · exact (still_log _ _ _).bind fun _ => still_measureLive.bind fun _ =>
      (still_measure _).bind fun _ => still_modify fun _ => rfl

end Act

end Userland
