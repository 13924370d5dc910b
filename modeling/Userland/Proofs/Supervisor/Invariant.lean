import Userland.Proofs.Supervisor.Move

namespace Userland

/-! # What the manager keeps true

The manager is a step relation: an item arrives in the inbox, or the control
loop serves the head of the inbox. From a fresh machine every state it reaches
keeps `View.Inv`: the pending queue holds each process once and is exactly the
set of live processes no unit has claimed, such a process is still starting and
was never started, and only live processes are waited on. A step that takes a
process out of the table has closed its outputs, and along any run in which a
process stays live its unit is sent at most one start message.

Every step is one `Move`, so each fact is proved once per move and no handler
is opened again here.
-/

/-! ## Steps and runs -/

/-- One step of the manager: an item arrives in the inbox, or the loop serves
the head of the inbox when it may. -/
inductive Step : Machine → Machine → Prop where
  | arrive {m m' : Machine} {item : Inbound} (h : m.submit item = .ok m') : Step m m'
  | serve {m : Machine} {item : Inbound} {rest : List Inbound}
      (hin : m.supervisor.inbox = item :: rest) (hitem : item.Admissible m) :
      Step m (Act.serveOne.run m).2

/-- A machine whose supervisor was just made: an empty table, nothing pending
and nobody waiting. -/
structure Machine.Fresh (m : Machine) : Prop where
  table : ∃ n, m.table = Table.new n
  pending : m.supervisor.pending = []
  waiting : m.supervisor.waiting = []

/-- The machines the manager reaches from a fresh one. -/
inductive Reachable : Machine → Prop where
  | fresh {m : Machine} (h : m.Fresh) : Reachable m
  | step {m m' : Machine} (h : Reachable m) (s : Step m m') : Reachable m'

/-- A run of the manager from `m` to `m'` that serves the items of `l` in order,
each beside the machine it is served in, with arrivals between them. -/
inductive Served : Machine → List (Machine × Inbound) → Machine → Prop where
  | done (m : Machine) : Served m [] m
  | arrive {m m₁ m' : Machine} {item : Inbound} {l : List (Machine × Inbound)}
      (h : m.submit item = .ok m₁) (r : Served m₁ l m') : Served m l m'
  | serve {m m' : Machine} {item : Inbound} {rest : List Inbound} {l : List (Machine × Inbound)}
      (hin : m.supervisor.inbox = item :: rest) (hitem : item.Admissible m)
      (r : Served (Act.serveOne.run m).2 l m') : Served m ((m, item) :: l) m'

theorem Served.reachable {m m' : Machine} {l : List (Machine × Inbound)} (h : Served m l m')
    (hm : Reachable m) : Reachable m' := by
  induction h with
  | done => exact hm
  | arrive ha _ ih => exact ih (hm.step (.arrive ha))
  | serve hin hitem _ ih => exact ih (hm.step (.serve hin hitem))

/-- A move a run is planned with: an item arrives, or the loop serves the head
of the inbox. -/
inductive Sched where
  | arrive (item : Inbound)
  | serve

/-- Whether the loop may serve an item (`Inbound.Admissible`), computed. -/
def Inbound.admissible (m : Machine) : Inbound → Bool
  | .request msg => (m.table.get? msg.pid).all (·.registered)
  | .announce _ => true

theorem Inbound.admissible_spec {m : Machine} :
    ∀ {item : Inbound}, item.admissible m = true → item.Admissible m
  | .request _, h => fun r hr => by simpa [Inbound.admissible, hr] using h
  | .announce _, _ => trivial

/-- The run a plan makes from `m`: the items served, each beside the machine it
is served in, and the machine the run ends in; none when a move of the plan
cannot be made. -/
def Machine.plan (m : Machine) : List Sched → Option (List (Machine × Inbound) × Machine)
  | [] => some ([], m)
  | .arrive item :: ss =>
    match m.submit item with
    | .ok m' => m'.plan ss
    | .error _ => none
  | .serve :: ss =>
    match m.supervisor.inbox with
    | item :: _ =>
      if item.admissible m then ((Act.serveOne.run m).2.plan ss).map fun r => ((m, item) :: r.1, r.2)
      else none
    | [] => none

/-- A plan that can be carried out is a run of the manager. -/
theorem Served.of_plan {m : Machine} {ss : List Sched} {r : List (Machine × Inbound) × Machine}
    (h : m.plan ss = some r) : Served m r.1 r.2 := by
  induction ss generalizing m r with
  | nil =>
    cases h
    exact .done m
  | cons s ss ih =>
    cases s with
    | arrive item =>
      unfold Machine.plan at h
      split at h
      · exact .arrive ‹_› (ih h)
      · cases h
    | serve =>
      unfold Machine.plan at h
      split at h
      · rename_i item rest hin
        split at h
        · obtain ⟨r₁, hr₁, rfl⟩ := Option.map_eq_some_iff.mp h
          exact .serve hin (Inbound.admissible_spec ‹_›) (ih hr₁)
        · cases h
      · cases h

/-- A step before and after which process `p` is live. -/
def LiveStep (p : Nat) (m m' : Machine) : Prop :=
  Step m m' ∧ (m.table.get? p).isSome ∧ (m'.table.get? p).isSome

/-- Every step is one move. -/
theorem Step.move {m m' : Machine} (hs : Step m m') (hwf : m.table.Wf) : Move m m'.view := by
  cases hs with
  | arrive h =>
    rw [Machine.view_of_submit m h]
    exact .calm
  | serve hin hitem => exact Act.ends_serveOne hwf hin hitem

/-! ## How records change -/

/-- How a record may change without the invariant looking at it again: it keeps
its unit and its outputs and, while no unit claims it, its state and whether it
started. -/
structure Record.Keeps (r r' : Record) : Prop where
  unit : r'.unit = r.unit
  stdout : r'.stdout = r.stdout
  stderr : r'.stderr = r.stderr
  unclaimed : r.unit = none → r'.state = r.state ∧ r'.started = r.started

theorem Record.Keeps.refl (r : Record) : r.Keeps r := ⟨rfl, rfl, rfl, fun _ => ⟨rfl, rfl⟩⟩

/-- What a live process never loses: its start, and the unit that claimed it. -/
structure Record.Grows (r r' : Record) : Prop where
  started : r.started = true → r'.started = true
  unit : ∀ u, r.unit = some u → r'.unit = some u

theorem Record.Grows.refl (r : Record) : r.Grows r := ⟨id, fun _ => id⟩

theorem Record.unit_ne_none {r : Record} (h : r.registered = true) : r.unit ≠ none := by
  simpa [Record.registered, Option.isSome_iff_ne_none] using h

theorem Record.Grows.trans {r₁ r₂ r₃ : Record} (h₁ : r₁.Grows r₂) (h₂ : r₂.Grows r₃) : r₁.Grows r₃ :=
  ⟨h₂.started ∘ h₁.started, fun u hu => h₂.unit u (h₁.unit u hu)⟩

namespace Table

variable {t : Table} {p : Int} {r₀ r₁ : Record}

/-- Replacing a record by one it grows into: every live process grows. -/
theorem grows_put (hr₀ : t.get? p = some r₀) (hg : r₀.Grows r₁) {q : Int} {r : Record}
    (hr : t.get? q = some r) : ∃ r', (t.put p r₁).get? q = some r' ∧ r.Grows r' := by
  rw [get?_put hr₀]
  by_cases hq : q = p
  · subst hq
    rw [hr₀] at hr
    cases hr
    exact ⟨r₁, if_pos rfl, hg⟩
  · exact ⟨r, by rw [if_neg hq, hr], .refl r⟩

end Table

/-! ## The invariant -/

/-- What the manager keeps true of its view between two served items. -/
structure View.Inv (v : View) : Prop where
  /-- Every record is filed under its own number. -/
  wf : v.table.Wf
  /-- No process is pending twice. -/
  nodup : (v.pending.map (·.pid)).Nodup
  /-- The pending processes are exactly the live ones no unit has claimed. -/
  pending_iff : ∀ q : Nat, q ∈ v.pending.map (·.pid) ↔ ∃ r, v.table.get? q = some r ∧ r.unit = none
  /-- A process no unit has claimed is still starting and was never started. -/
  unclaimed : ∀ q r, v.table.get? q = some r → r.unit = none → r.state = .starting ∧ r.started = false
  /-- Only live processes are waited on. -/
  waited_live : ∀ q : Nat, q ∈ v.waiting.map (·.1) → (v.table.get? q).isSome
  /-- The outputs of a live process are pipes of the machine. -/
  outputs_lt : ∀ q r, v.table.get? q = some r → r.stdout < v.pipes.size ∧ r.stderr < v.pipes.size

/-- A new waiter is filed under its target or under a number already waited on. -/
theorem Supervisor.keys_addWaiter (s : Supervisor) (target : Nat) (w : Waiter) {q : Nat}
    (hq : q ∈ (s.addWaiter target w).waiting.map (·.1)) : q = target ∨ q ∈ s.waiting.map (·.1) := by
  rw [Machine.addWaiter_waiting] at hq
  split at hq
  · -- an existing entry takes the waiter: the numbers stay
    obtain ⟨x, hx, rfl⟩ := List.mem_map.mp hq
    obtain ⟨⟨n, l⟩, hy, rfl⟩ := List.mem_map.mp hx
    refine .inr (List.mem_map.mpr ⟨(n, l), hy, ?_⟩)
    dsimp only
    split_ifs <;> rfl
  · rw [List.map_append, List.mem_append] at hq
    rcases hq with hq | hq
    · exact .inr hq
    · simp only [List.map_cons, List.map_nil, List.mem_singleton] at hq
      exact .inl hq

namespace View.Inv

variable {v : View}

theorem fresh {m : Machine} (hf : m.Fresh) : m.view.Inv := by
  obtain ⟨n, hn⟩ := hf.table
  have hnone : ∀ q, m.table.get? q = none := fun q => by rw [hn, Table.get?_new]
  have hwf : m.table.Wf := by rw [hn]; exact Table.wf_new n
  refine ⟨hwf, ?_, fun q => ?_, fun q r hr _ => ?_, fun q hq => ?_, fun q r hr => ?_⟩
  · simp [hf.pending]
  · simp [hf.pending, hnone]
  · simp [hnone] at hr
  · simp [hf.waiting] at hq
  · simp [hnone] at hr

/-- A started process has been claimed by a unit. -/
theorem registered_of_started (h : v.Inv) {q : Int} {r : Record} (hr : v.table.get? q = some r)
    (hs : r.started = true) : r.registered = true := by
  cases hu : r.unit with
  | none =>
    have hns := (h.unclaimed q r hr hu).2
    rw [hs] at hns
    cases hns
  | some u => simp [Record.registered, hu]

/-- The invariant holds of any new table and pipes in which the same numbers are
live, each record keeps the one it replaces, and no pipe is lost. -/
theorem retable (h : v.Inv) {t : Table} {ps : Array Ring} (hwf : t.Wf)
    (hlive : ∀ q, (t.get? q).isSome = (v.table.get? q).isSome)
    (hkeep : ∀ q r r', v.table.get? q = some r → t.get? q = some r' → r.Keeps r')
    (hps : v.pipes.size ≤ ps.size) : { v with table := t, pipes := ps }.Inv := by
  -- every record, old or new, has its partner on the other side
  have hold : ∀ q r', t.get? q = some r' → ∃ r, v.table.get? q = some r ∧ r.Keeps r' := by
    intro q r' hr'
    have hs : (v.table.get? q).isSome := by rw [← hlive, hr']; rfl
    obtain ⟨r, hr⟩ := Option.isSome_iff_exists.mp hs
    exact ⟨r, hr, hkeep q r r' hr hr'⟩
  have hnew : ∀ q r, v.table.get? q = some r → ∃ r', t.get? q = some r' ∧ r.Keeps r' := by
    intro q r hr
    have hs : (t.get? q).isSome := by rw [hlive, hr]; rfl
    obtain ⟨r', hr'⟩ := Option.isSome_iff_exists.mp hs
    exact ⟨r', hr', hkeep q r r' hr hr'⟩
  refine ⟨hwf, h.nodup, fun q => ?_, fun q r' hr' hnone => ?_, fun q hq => ?_, fun q r' hr' => ?_⟩
  · dsimp only
    rw [h.pending_iff q]
    constructor
    · rintro ⟨r, hr, hnone⟩
      obtain ⟨r', hr', hk⟩ := hnew q r hr
      exact ⟨r', hr', hk.unit.trans hnone⟩
    · rintro ⟨r', hr', hnone⟩
      obtain ⟨r, hr, hk⟩ := hold q r' hr'
      exact ⟨r, hr, hk.unit.symm.trans hnone⟩
  · obtain ⟨r, hr, hk⟩ := hold q r' hr'
    have hnone₀ : r.unit = none := hk.unit.symm.trans hnone
    rw [(hk.unclaimed hnone₀).1, (hk.unclaimed hnone₀).2]
    exact h.unclaimed q r hr hnone₀
  · dsimp only
    rw [hlive]
    exact h.waited_live q hq
  · obtain ⟨r, hr, hk⟩ := hold q r' hr'
    have hlt := h.outputs_lt q r hr
    dsimp only
    rw [hk.stdout, hk.stderr]
    omega

/-- Replacing a live record by one that keeps it keeps the invariant. -/
theorem put (h : v.Inv) {p : Int} {r r' : Record} (hr : v.table.get? p = some r)
    (hpid : r'.pid = r.pid) (hk : r.Keeps r') : { v with table := v.table.put p r' }.Inv := by
  refine h.retable (h.wf.put hr hpid) (fun q => ?_) (fun q r₁ r₂ h₁ h₂ => ?_) le_rfl
  · rw [Table.get?_put hr]
    by_cases hq : q = p
    · rw [if_pos hq, hq, hr]
      rfl
    · rw [if_neg hq]
  · rw [Table.get?_put hr] at h₂
    by_cases hq : q = p
    · rw [if_pos hq] at h₂
      rw [hq, hr] at h₁
      cases h₁
      cases h₂
      exact hk
    · rw [if_neg hq, h₁] at h₂
      cases h₂
      exact .refl r₁

/-- A claimed process moving to another state keeps the invariant. -/
theorem setState (h : v.Inv) {p : Int} {r : Record} {s : State} {t : Table}
    (hr : v.table.get? p = some r) (hreg : r.registered) (hs : v.table.setState p s = .ok t) :
    { v with table := t }.Inv := by
  obtain ⟨r₀, st, hr₀, hafter, -, hother, -⟩ := Table.setStateNamed_moves hs
  rw [hr] at hr₀
  cases hr₀
  have hclaimed := Record.unit_ne_none hreg
  refine h.retable (h.wf.setStateNamed hs) (fun q => ?_) (fun q r₁ r₂ h₁ h₂ => ?_) le_rfl
  · by_cases hq : q = p
    · rw [hq, hafter, hr]
      rfl
    · rw [hother q hq]
  · by_cases hq : q = p
    · rw [hq, hr] at h₁
      rw [hq, hafter] at h₂
      cases h₁
      cases h₂
      exact ⟨rfl, rfl, rfl, fun hnone => absurd hnone hclaimed⟩
    · rw [hother q hq, h₁] at h₂
      cases h₂
      exact .refl r₁

/-- Waiting on a live process keeps the invariant. -/
theorem waits (h : v.Inv) {target : Int} (hlive : (v.table.get? target).isSome)
    {ws : List (Nat × List Waiter)} (hws : ∀ q ∈ ws.map (·.1), q = target.toNat ∨ q ∈ v.waiting.map (·.1)) :
    { v with waiting := ws }.Inv := by
  refine ⟨h.wf, h.nodup, h.pending_iff, h.unclaimed, fun q hq => ?_, h.outputs_lt⟩
  rcases hws q hq with rfl | hq
  · obtain ⟨r, hr⟩ := Option.isSome_iff_exists.mp hlive
    have hpos := Table.pos_of_get? hr
    rw [Int.toNat_of_nonneg (by omega)]
    exact hlive
  · exact h.waited_live q hq

/-- A new process joins the table and the end of the queue, with new pipes for
its outputs. -/
theorem created (h : v.Inv) {spec : Spec} {ends : Endpoints} {now : Nat} {r : Record} {t : Table}
    (sig : Option Nat) {ps : Array Ring} (hps : ps.size = v.pipes.size + 3)
    (hends : ends.stdout = v.pipes.size + 1 ∧ ends.stderr = v.pipes.size + 2)
    (ha : v.table.allocate spec ends now = .ok (r, t)) :
    { v with table := t, pending := v.pending ++ [Pending.mk r.pid sig], pipes := ps }.Inv := by
  obtain ⟨-, hfree, hst, hns, hunit, hout, herr, hget⟩ := h.wf.get?_of_allocate ha
  -- the new number was free, so it was not pending
  have hnotin : r.pid ∉ v.pending.map (·.pid) := by
    intro hin
    obtain ⟨r₀, hr₀, -⟩ := (h.pending_iff r.pid).mp hin
    rw [hfree] at hr₀
    cases hr₀
  refine ⟨h.wf.allocate ha, ?_, fun q => ?_, fun q r' hr' hnone => ?_, fun q hw => ?_,
    fun q r' hr' => ?_⟩
  · rw [List.map_append, List.nodup_append]
    refine ⟨h.nodup, by simp, ?_⟩
    simp only [List.map_cons, List.map_nil, List.mem_singleton]
    rintro a ha _ rfl rfl
    exact hnotin ha
  · rw [List.map_append, List.mem_append, h.pending_iff q, hget]
    by_cases hq : q = r.pid
    · subst hq
      simp [hunit]
    · have hq' : (q : Int) ≠ r.pid := by exact_mod_cast hq
      simp [hq, hq']
  · rw [hget] at hr'
    split_ifs at hr' with hq
    · cases hr'
      exact ⟨hst, hns⟩
    · exact h.unclaimed q r' hr' hnone
  · rw [hget]
    split_ifs with hq
    · rfl
    · exact h.waited_live q hw
  · dsimp only
    rw [hget] at hr'
    split_ifs at hr' with hq
    · cases hr'
      omega
    · have := h.outputs_lt q r' hr'
      omega

/-- A new process whose slot is freed again leaves the table as it was. -/
theorem undone (h : v.Inv) {spec : Spec} {ends : Endpoints} {now : Nat} {r : Record} {t t' : Table}
    (ha : v.table.allocate spec ends now = .ok (r, t)) (hfree : t.free r.pid = .ok t')
    {ps : Array Ring} (hps : v.pipes.size ≤ ps.size) : { v with table := t', pipes := ps }.Inv := by
  have hsame := h.wf.get?_of_allocate_free ha hfree
  refine h.retable ((h.wf.allocate ha).free hfree) (fun q => by rw [hsame]) (fun q r₁ r₂ h₁ h₂ => ?_) hps
  rw [hsame, h₁] at h₂
  cases h₂
  exact .refl r₁

/-- A claimed process leaves the table and the waiting map; its pipes stay. -/
theorem ended (h : v.Inv) {r : Record} {t : Table} (hr : v.table.get? r.pid = some r)
    (hreg : r.registered) (hfree : v.table.free r.pid = .ok t) {ps : Array Ring}
    (hps : ps.size = v.pipes.size) :
    { v with table := t, waiting := v.waiting.filter (·.1 != r.pid), pipes := ps }.Inv := by
  have hget := Table.get?_of_free hfree
  have hclaimed := Record.unit_ne_none hreg
  refine ⟨h.wf.free hfree, h.nodup, fun q => ?_, fun q r' hr' hnone => ?_, fun q hq => ?_,
    fun q r' hr' => ?_⟩
  · rw [h.pending_iff q, hget]
    by_cases hq : (q : Int) = r.pid
    · -- the ended process had a unit, so it was not pending
      rw [if_pos hq, hq, hr]
      simp [hclaimed]
    · rw [if_neg hq]
  · rw [hget] at hr'
    split_ifs at hr' with hq
    exact h.unclaimed q r' hr' hnone
  · obtain ⟨⟨n, l⟩, hx, rfl⟩ := List.mem_map.mp hq
    obtain ⟨hx, hne⟩ := List.mem_filter.mp hx
    have hne' : (n : Int) ≠ r.pid := by
      have hne : n ≠ r.pid := by simpa using hne
      exact_mod_cast hne
    rw [hget, if_neg hne']
    exact h.waited_live n (List.mem_map.mpr ⟨(n, l), hx, rfl⟩)
  · dsimp only
    rw [hget] at hr'
    split_ifs at hr' with hq
    have := h.outputs_lt q r' hr'
    omega

/-- The oldest pending process is claimed by a unit and leaves the queue. -/
theorem claim (h : v.Inv) {p : Pending} {rest : List Pending} {r r' : Record}
    (hp : v.pending = p :: rest) (hr : v.table.get? p.pid = some r) (hpid : r'.pid = r.pid)
    (hunit : r'.unit ≠ none) (hout : r'.stdout = r.stdout ∧ r'.stderr = r.stderr) :
    { v with pending := rest, table := v.table.put p.pid r' }.Inv := by
  have hget := Table.get?_put hr r'
  have hnd := h.nodup
  rw [hp, List.map_cons, List.nodup_cons] at hnd
  refine ⟨h.wf.put hr hpid, hnd.2, fun q => ?_, fun q r'' hr'' hnone => ?_, fun q hw => ?_,
    fun q r'' hr'' => ?_⟩
  · rw [hget]
    by_cases hq : q = p.pid
    · -- the claimed process is pending no more, and has a unit now
      subst hq
      simp [hnd.1, hunit]
    · have hq' : (q : Int) ≠ p.pid := by exact_mod_cast hq
      have := h.pending_iff q
      rw [hp, List.map_cons, List.mem_cons] at this
      rw [if_neg hq', ← this]
      simp [hq]
  · rw [hget] at hr''
    split_ifs at hr'' with hq
    · cases hr''
      exact absurd hnone hunit
    · exact h.unclaimed q r'' hr'' hnone
  · rw [hget]
    split_ifs with hq
    · rfl
    · exact h.waited_live q hw
  · rw [hget] at hr''
    split_ifs at hr'' with hq
    · cases hr''
      rw [hout.1, hout.2]
      exact h.outputs_lt _ r hr
    · exact h.outputs_lt q r'' hr''

/-- The invariant does not read how many start messages were sent. -/
theorem with_starts (h : v.Inv) (s : String → Nat → Nat) : { v with starts := s }.Inv :=
  ⟨h.wf, h.nodup, h.pending_iff, h.unclaimed, h.waited_live, h.outputs_lt⟩

/-- The oldest pending process is live and unclaimed, so a unit can claim it. -/
theorem pending_head (h : v.Inv) {p : Pending} {rest : List Pending} (hp : v.pending = p :: rest) :
    ∃ r, v.table.get? p.pid = some r ∧ r.registered = false := by
  obtain ⟨r, hr, hnone⟩ := (h.pending_iff p.pid).mp (by simp [hp])
  exact ⟨r, hr, by simp [Record.registered, hnone]⟩

end View.Inv

/-- Every move keeps the invariant. -/
theorem Move.inv {m : Machine} {v : View} (hv : Move m v) (h : m.view.Inv) : v.Inv := by
  cases hv with
  | calm => exact h
  | state hr hreg hs => exact h.setState hr hreg hs
  | waits w hlive => exact h.waits hlive fun q hq => Supervisor.keys_addWaiter _ _ w hq
  | created sig hends ha => exact h.created sig (Machine.size_withNewPipes m _) hends ha
  | undone ha hfree => exact h.undone ha hfree (by simp)
  | ended hr hreg hfree =>
    exact h.ended hr hreg hfree (by simp [Machine.size_closePipe])
  | piped pipe hr hns =>
    refine h.put hr ?_ ?_
    · rfl
    · exact ⟨rfl, rfl, rfl, fun _ => ⟨rfl, rfl⟩⟩
  | @started r id sent hr hid hns =>
    have hput : { m.view with table := m.table.put r.pid { r with started := true } }.Inv :=
      h.put hr rfl ⟨rfl, rfl, rfl, fun hnone => by rw [hid] at hnone; cases hnone⟩
    exact hput.with_starts _
  | registered id hp hr hnone =>
    refine h.claim hp hr ?_ ?_ ?_
    · rfl
    · simp
    · exact ⟨rfl, rfl⟩
  | @registeredStarted p rest r id sent hp hr hnone hns =>
    have hclaim : { m.view with
        pending := rest, table := m.table.put p.pid { r with unit := some id, started := true } }.Inv :=
      h.claim hp hr rfl (by simp) ⟨rfl, rfl⟩
    exact hclaim.with_starts _
  | unpaired hp hfail =>
    -- the oldest pending process is always there to claim
    obtain ⟨r, hr, hnreg⟩ := h.pending_head hp
    have := hfail r hr
    rw [hnreg] at this
    cases this

theorem Step.inv {m m' : Machine} (hs : Step m m') (h : m.view.Inv) : m'.view.Inv :=
  (hs.move h.wf).inv h

theorem Reachable.inv {m : Machine} (h : Reachable m) : m.view.Inv := by
  induction h with
  | fresh hf => exact View.Inv.fresh hf
  | step _ hs ih => exact hs.inv ih

theorem Step.inv_run {m m' : Machine} (hrun : Relation.ReflTransGen Step m m') (h : m.view.Inv) :
    m'.view.Inv := by
  induction hrun with
  | refl => exact h
  | tail _ hs ih => exact hs.inv ih

/-! ## Ends and starts of a live process -/

/-- A start message is owed to one stretch of a run at most: a process that
started between `r₁` and `r₃` started before `r₂` or after it. -/
theorem Record.Grows.sent_le {r₁ r₂ r₃ : Record} (h₁ : r₁.Grows r₂) (h₂ : r₂.Grows r₃) (id : String) :
    (if r₂.unit = some id ∧ r₂.started = true ∧ r₁.started = false then 1 else 0) +
        (if r₃.unit = some id ∧ r₃.started = true ∧ r₂.started = false then 1 else 0) ≤
      if r₃.unit = some id ∧ r₃.started = true ∧ r₁.started = false then 1 else 0 := by
  cases hs₂ : r₂.started with
  | false =>
    -- not started by `r₂`, so not by `r₁` either: only the second stretch can owe
    have hs₁ : r₁.started = false := by
      cases hs₁ : r₁.started with
      | false => rfl
      | true =>
        have := h₁.started hs₁
        rw [hs₂] at this
        cases this
    simp [hs₁]
  | true =>
    -- started by `r₂`: only the first stretch can owe, and what it owed stays owed
    simp only [Bool.true_eq_false, and_false, if_false, Nat.add_zero, true_and]
    split_ifs with hc hc'
    · exact le_rfl
    · exact absurd ⟨h₂.unit id hc.1, h₂.started hs₂, hc.2⟩ hc'
    · exact Nat.zero_le _
    · exact le_rfl

/-- Where a move leaves a live process: it ended, or it is still live and has grown. -/
theorem Move.track {m : Machine} {v : View} (hv : Move m v) (h : m.view.Inv) {q : Int} {r : Record}
    (hr : m.table.get? q = some r) :
    (∃ t, v = m.endedView r t ∧ v.table.get? q = none) ∨ ∃ r', v.table.get? q = some r' ∧ r.Grows r' := by
  have hsame : ∃ r', m.table.get? q = some r' ∧ r.Grows r' := ⟨r, hr, .refl r⟩
  have hwf : m.table.Wf := h.wf
  cases hv with
  | calm => exact .inr hsame
  | @state p r₀ s t hr₀ hreg hs =>
    obtain ⟨r₁, st, hr₁, hafter, -, hother, -⟩ := Table.setStateNamed_moves hs
    refine .inr ?_
    by_cases hq : q = p
    · subst hq
      rw [hr] at hr₁
      cases hr₁
      exact ⟨_, hafter, ⟨id, fun _ => id⟩⟩
    · exact ⟨r, (hother q hq).trans hr, .refl r⟩
  | waits w hlive => exact .inr hsame
  | @created spec ends now c r₀ t sig hends ha =>
    -- the new process took a free number, not `q`
    obtain ⟨-, hfree, -, -, -, -, -, hget⟩ := hwf.get?_of_allocate ha
    have hq : q ≠ r₀.pid := by
      rintro rfl
      rw [hfree] at hr
      cases hr
    exact .inr ⟨r, (hget q).trans (by rw [if_neg hq, hr]), .refl r⟩
  | undone ha hfree => exact .inr ⟨r, (hwf.get?_of_allocate_free ha hfree q).trans hr, .refl r⟩
  | @ended r₀ t hr₀ hreg hfree =>
    have hget := Table.get?_of_free hfree q
    by_cases hq : q = r₀.pid
    · -- the process that ended is `r`
      subst hq
      rw [hr₀] at hr
      cases hr
      exact .inl ⟨t, rfl, hget.trans (if_pos rfl)⟩
    · exact .inr ⟨r, hget.trans (by rw [if_neg hq, hr]), .refl r⟩
  | piped pipe hr₀ hns =>
    refine .inr (Table.grows_put hr₀ ?_ hr)
    exact ⟨id, fun _ => id⟩
  | started sent hr₀ hid hns =>
    refine .inr (Table.grows_put hr₀ ?_ hr)
    exact ⟨fun _ => rfl, fun _ => id⟩
  | registered id hp hr₀ hnone =>
    -- the unit is new: the process had none
    refine .inr (Table.grows_put hr₀ ?_ hr)
    refine ⟨fun hs => hs, fun u hu => ?_⟩
    rw [hnone] at hu
    cases hu
  | registeredStarted id sent hp hr₀ hnone hns =>
    refine .inr (Table.grows_put hr₀ ?_ hr)
    refine ⟨fun _ => rfl, fun u hu => ?_⟩
    rw [hnone] at hu
    cases hu
  | unpaired hp hfail => exact .inr hsame

/-- A move that takes a live process out of the table has closed its outputs. -/
theorem Move.closes {m : Machine} {v : View} (hv : Move m v) (h : m.view.Inv) {r : Record}
    (hr : m.table.get? r.pid = some r) (hgone : v.table.get? r.pid = none) {m' : Machine}
    (hm' : m'.view = v) : (m'.pipe r.stdout).closed = true ∧ (m'.pipe r.stderr).closed = true := by
  rcases hv.track h hr with ⟨t, rfl, -⟩ | ⟨r', hr', -⟩
  · -- the move ended `r`, closing its outputs on the way out
    have hpipes : m'.pipes = ((m.closePipe r.stdout).closePipe r.stderr).pipes := congrArg View.pipes hm'
    have hlt := h.outputs_lt r.pid r hr
    rw [Machine.pipe_congr _ hpipes, Machine.pipe_congr _ hpipes]
    refine ⟨Machine.closed_closePipe_of_closed _ (Machine.closed_closePipe _ hlt.1), ?_⟩
    apply Machine.closed_closePipe
    rw [Machine.size_closePipe]
    exact hlt.2
  · rw [hgone] at hr'
    cases hr'

/-- The start message sent to the unit of the process at `q` is the one its
record, now started, owes: a live process `p` is owed it only if it is that
process and it had not started before. -/
theorem startsAfter_le {m : Machine} {q p : Nat} {id₀ id : String} {r₀ r r₁ r' : Record}
    (hr₀ : m.table.get? q = some r₀) (hr : m.table.get? p = some r)
    (hr' : (m.table.put q r₁).get? p = some r') (hid : r₁.unit = some id₀) (hs : r₁.started = true)
    (hns : r₀.started = false) :
    m.startsAfter id₀ q id p ≤
      m.startsSent id p + if r'.unit = some id ∧ r'.started = true ∧ r.started = false then 1 else 0 := by
  unfold Machine.startsAfter
  by_cases hq : id = id₀ ∧ p = q
  · obtain ⟨rfl, rfl⟩ := hq
    obtain rfl : r₀ = r := Option.some.inj (hr₀.symm.trans hr)
    rw [Table.get?_put hr₀, if_pos rfl] at hr'
    cases hr'
    simp [hid, hs, hns]
  · rw [if_neg hq]
    exact Nat.le_add_right _ _

/-- A move sends a live process's unit its start message only when it marks the
process started. -/
theorem Move.starts_le {m : Machine} {v : View} (hv : Move m v) {p : Nat} {r r' : Record}
    (hr : m.table.get? p = some r) (hr' : v.table.get? p = some r') (id : String) :
    v.starts id p ≤
      m.startsSent id p + if r'.unit = some id ∧ r'.started = true ∧ r.started = false then 1 else 0 := by
  cases hv with
  | started sent hr₀ hid hns =>
    cases sent with
    | false => exact Nat.le_add_right _ _
    | true => exact startsAfter_le hr₀ hr hr' hid rfl hns
  | registeredStarted id₀ sent hp hr₀ hnone hns =>
    cases sent with
    | false => exact Nat.le_add_right _ _
    | true => exact startsAfter_le hr₀ hr hr' rfl rfl hns
  -- no other move sends a start message
  | _ => exact Nat.le_add_right _ _

/-- One step keeps a live process's start and unit, and sends its unit the start
message only when it starts it. -/
theorem Step.starts_le {m m' : Machine} (hs : Step m m') (h : m.view.Inv) {p : Nat} {r r' : Record}
    (hr : m.table.get? p = some r) (hr' : m'.table.get? p = some r') :
    r.Grows r' ∧ ∀ id, m'.startsSent id p ≤
      m.startsSent id p + if r'.unit = some id ∧ r'.started = true ∧ r.started = false then 1 else 0 := by
  have hv := hs.move h.wf
  refine ⟨?_, hv.starts_le hr hr'⟩
  rcases hv.track h hr with ⟨t, -, hgone⟩ | ⟨r₁, hr₁, hg⟩
  · have hgone' : m'.table.get? p = none := hgone
    rw [hgone'] at hr'
    cases hr'
  · have hr₂ : m'.table.get? p = some r₁ := hr₁
    rw [hr'] at hr₂
    cases hr₂
    exact hg

/-- Along a run in which process `p` stays live, it keeps its start and its unit,
and its unit is sent at most one start message: none if it had started when the
run began. -/
theorem LiveStep.starts_le {p : Nat} {m m' : Machine} (hrun : Relation.ReflTransGen (LiveStep p) m m')
    (h : m.view.Inv) {r r' : Record} (hr : m.table.get? p = some r) (hr' : m'.table.get? p = some r') :
    r.Grows r' ∧ ∀ id, m'.startsSent id p ≤
      m.startsSent id p + if r'.unit = some id ∧ r'.started = true ∧ r.started = false then 1 else 0 := by
  induction hrun generalizing r' with
  | refl =>
    rw [hr] at hr'
    cases hr'
    exact ⟨.refl r, fun id => Nat.le_add_right _ _⟩
  | @tail b c hab hbc ih =>
    -- the run to `b`, then one more step; `b`'s record splits what was owed
    obtain ⟨hs, hlive, -⟩ := hbc
    obtain ⟨rb, hrb⟩ := Option.isSome_iff_exists.mp hlive
    have hinv : b.view.Inv := Step.inv_run (hab.lift id fun _ _ h => h.1) h
    obtain ⟨hg₁, hle₁⟩ := ih hrb
    obtain ⟨hg₂, hle₂⟩ := hs.starts_le hinv hrb hr'
    refine ⟨hg₁.trans hg₂, fun id => ?_⟩
    calc c.startsSent id p
        ≤ b.startsSent id p + _ := hle₂ id
      _ ≤ m.startsSent id p + _ + _ := Nat.add_le_add_right (hle₁ id) _
      _ ≤ m.startsSent id p + _ := by
        rw [Nat.add_assoc]
        exact Nat.add_le_add_left (hg₁.sent_le hg₂ id) _

/-! ## The manager's invariants -/

/-- Every machine the manager reaches keeps its pending queue free of repeats and
equal to the set of live processes no unit has claimed; such a process is still
starting and was never started, a started process has a unit, and only live
processes are waited on. A step that takes a live process out of the table has
closed its outputs, and along any run in which a process stays live its unit is
sent at most one start message, none if it had started when the run began. -/
theorem manager_invariants {m : Machine} (h : Reachable m) :
    (m.supervisor.pending.map (·.pid)).Nodup ∧
    (∀ q : Nat, q ∈ m.supervisor.pending.map (·.pid) ↔ ∃ r, m.table.get? q = some r ∧ r.unit = none) ∧
    (∀ q r, m.table.get? q = some r → r.unit = none → r.state = .starting ∧ r.started = false) ∧
    (∀ q r, m.table.get? q = some r → r.started = true → r.registered = true) ∧
    (∀ q : Nat, q ∈ m.supervisor.waiting.map (·.1) → (m.table.get? q).isSome) ∧
    (∀ m', Step m m' → ∀ r, m.table.get? r.pid = some r → m'.table.get? r.pid = none →
      (m'.pipe r.stdout).closed = true ∧ (m'.pipe r.stderr).closed = true) ∧
    (∀ (p : Nat) (m' : Machine) (r r' : Record), Relation.ReflTransGen (LiveStep p) m m' →
      m.table.get? p = some r → m'.table.get? p = some r' → ∀ id,
        m'.startsSent id p ≤
          m.startsSent id p + if r'.unit = some id ∧ r'.started = true ∧ r.started = false then 1 else 0) := by
  have hinv := h.inv
  refine ⟨hinv.nodup, hinv.pending_iff, hinv.unclaimed, fun q r hr hs => hinv.registered_of_started hr hs,
    hinv.waited_live, fun m' hs r hr hgone => ?_, fun p m' r r' hrun hr hr' => ?_⟩
  · exact (hs.move hinv.wf).closes hinv hr hgone rfl
  · exact (LiveStep.starts_le hrun hinv hr hr').2

/-! ## A sample run -/

/-- A machine whose spawner gives each new process a unit that announces itself. -/
def sampleStart : Machine :=
  Machine.new (SupervisorConfig.withDefaults 4 1 16 false "") (.scripted [] true) .none ["/bin/*"]

/-- The host creates `/bin/a`, writing a pipe, and `/bin/b`, reading one; the
unit spawned for each announces itself and claims it. -/
def sampleSetup : List Sched :=
  [.arrive (.request { Message.of .create with
      create := some { (default : CreateRequest) with path := "/bin/a", pipeStdout := true } }),
    .serve, .serve,
    .arrive (.request { Message.of .create with
      create := some { (default : CreateRequest) with path := "/bin/b", pipeStdin := true } }),
    .serve, .serve]

/-- Processes 1 and 2, live, claimed and not started. -/
def sampleClaimed : Machine := ((sampleStart.plan sampleSetup).get (by decide +kernel)).2

/-- The host joins the output of process 1 to the input of process 2. -/
def samplePipe : List Sched := [.arrive (.request { Message.of .pipe with outPid := 1, inPid := 2 }), .serve]

def sampleJoin : List (Machine × Inbound) × Machine := (sampleClaimed.plan samplePipe).get (by decide +kernel)

/-- The host starts process 2, waits on process 1 and creates `/bin/c`, whose
unit's announcement stays queued. -/
def sampleRest : List Sched :=
  [.arrive (.request { Message.of .start with target := 2 }), .serve,
    .arrive (.request { Message.of .waitOnPid with target := 1, signal := some 0 }), .serve,
    .arrive (.request { Message.of .create with create := some { (default : CreateRequest) with path := "/bin/c" } }),
    .serve]

def sampleBusy : Machine := ((sampleJoin.2.plan sampleRest).get (by decide +kernel)).2

theorem reachable_sampleClaimed : Reachable sampleClaimed :=
  (@Served.of_plan sampleStart sampleSetup _ (Option.some_get _).symm).reachable (.fresh ⟨⟨_, rfl⟩, rfl, rfl⟩)

theorem reachable_sampleBusy : Reachable sampleBusy :=
  have hjoin : Reachable sampleJoin.2 :=
    (@Served.of_plan sampleClaimed samplePipe _ (Option.some_get _).symm).reachable reachable_sampleClaimed
  (@Served.of_plan sampleJoin.2 sampleRest _ (Option.some_get _).symm).reachable hjoin

/-- The sample run reaches a machine with a creation pending, a process started
and one waited on, and there the manager's invariants hold. -/
theorem sample_keeps_invariants :
    Reachable sampleBusy ∧ sampleBusy.supervisor.pending.map (·.pid) = [3] ∧
    (sampleBusy.table.get? 2).map (·.started) = some true ∧ sampleBusy.supervisor.waiting.map (·.1) = [1] ∧
    (sampleBusy.supervisor.pending.map (·.pid)).Nodup ∧
    (∀ q : Nat, q ∈ sampleBusy.supervisor.pending.map (·.pid) ↔
      ∃ r, sampleBusy.table.get? q = some r ∧ r.unit = none) ∧
    (∀ q r, sampleBusy.table.get? q = some r → r.unit = none → r.state = .starting ∧ r.started = false) ∧
    (∀ q r, sampleBusy.table.get? q = some r → r.started = true → r.registered = true) ∧
    (∀ q : Nat, q ∈ sampleBusy.supervisor.waiting.map (·.1) → (sampleBusy.table.get? q).isSome) ∧
    (∀ m', Step sampleBusy m' → ∀ r, sampleBusy.table.get? r.pid = some r → m'.table.get? r.pid = none →
      (m'.pipe r.stdout).closed = true ∧ (m'.pipe r.stderr).closed = true) ∧
    (∀ (p : Nat) (m' : Machine) (r r' : Record), Relation.ReflTransGen (LiveStep p) sampleBusy m' →
      sampleBusy.table.get? p = some r → m'.table.get? p = some r' → ∀ id,
        m'.startsSent id p ≤
          sampleBusy.startsSent id p + if r'.unit = some id ∧ r'.started = true ∧ r.started = false then 1 else 0) :=
  ⟨reachable_sampleBusy, by decide +kernel, by decide +kernel, by decide +kernel,
    manager_invariants reachable_sampleBusy⟩

end Userland
