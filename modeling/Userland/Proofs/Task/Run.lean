import Userland.Worker.Run
import Mathlib.Logic.Relation

namespace Userland

/-! # Runs of a task

A task runs alone here, except that its execution unit may be terminated at
any moment by someone else: a watchdog, a kill, the end of the host.
`Prog.Run id p m a m'` says that `p`, started on `m`, can end with `a` on `m'`:
each of its steps happened in turn, and before any of them unit `id` may have
been terminated any number of times (`Prog.Cuts`). A blocked step has no run
until a termination unblocks it.

The run of a `do` block splits at each bind (`Prog.Run.bind_inv`); the run of
one step is the step between terminations (`Prog.Run.step_pure_inv`). A
program that starts another task has no run of its own. `Prog.eval` runs a
task with nothing beside it, and what it finds is a run (`Prog.Run.of_eval`).
-/

namespace Prog

variable {α β : Type} {id : String}

/-! ## Programs form a lawful monad -/

theorem bind_pure_right (p : Prog α) : p.bind Prog.pure = p := by
  induction p with
  | pure a => rfl
  | step f k ih => exact congrArg (Prog.step f) (funext ih)
  | fork c r _ ih => exact congrArg (Prog.fork c) ih

theorem bind_bind {γ : Type} (p : Prog α) (f : α → Prog β) (g : β → Prog γ) :
    (p.bind f).bind g = p.bind fun a => (f a).bind g := by
  induction p with
  | pure a => rfl
  | step s k ih => exact congrArg (Prog.step s) (funext fun b => ih b f)
  | fork c r _ ih => exact congrArg (Prog.fork c) (ih f)

instance : LawfulMonad Prog :=
  LawfulMonad.mk' Prog (fun x => bind_pure_right x) (fun _ _ => rfl) (fun x f g => bind_bind x f g)

/-- Unit `id` was terminated, any number of times, from `m` to `m'`. -/
def Cuts (id : String) : Machine → Machine → Prop :=
  Relation.ReflTransGen fun m m' => m' = m.terminate id

/-- `p` started on `m` can end with `a` on `m'`, the unit `id` being
terminated between its steps at will. -/
inductive Run (id : String) {α : Type} : Prog α → Machine → α → Machine → Prop
  | pure (a : α) (m : Machine) : Run id (.pure a) m a m
  | step {β : Type} {f : Machine → Attempt β} {k : β → Prog α} {m m₁ m' : Machine} {b : β} {a : α} :
      f m = .done b m₁ → Run id (k b) m₁ a m' → Run id (.step f k) m a m'
  | cut {p : Prog α} {m m' : Machine} {a : α} : Run id p (m.terminate id) a m' → Run id p m a m'

/-- Runs a task with nothing beside it: its value and machine, unless a step
blocks or it starts another task. -/
def eval : Prog α → Machine → Option (α × Machine)
  | .pure a, m => some (a, m)
  | .step f k, m =>
    match f m with
    | .done b m' => eval (k b) m'
    | .blocked _ => none
  | .fork _ _, _ => none

namespace Cuts

theorem refl {m : Machine} : Cuts id m m := Relation.ReflTransGen.refl

/-- One more termination before terminations. -/
theorem head {m m' : Machine} (h : Cuts id (m.terminate id) m') : Cuts id m m' :=
  Relation.ReflTransGen.head rfl h

theorem trans {m₁ m₂ m₃ : Machine} (h₁ : Cuts id m₁ m₂) (h₂ : Cuts id m₂ m₃) : Cuts id m₁ m₃ :=
  Relation.ReflTransGen.trans h₁ h₂

/-- What every termination of the unit keeps, terminations keep. -/
theorem keep (P : Machine → Machine → Prop) (hrefl : ∀ m, P m m)
    (hstep : ∀ m₁ m₂, P m₁ m₂ → P m₁ (m₂.terminate id)) {m m' : Machine} (h : Cuts id m m') :
    P m m' := by
  induction h with
  | refl => exact hrefl _
  | tail _ hlast ih => rw [hlast]; exact hstep _ _ ih

end Cuts

namespace Run

/-- Terminations before a run make a run. -/
theorem of_cuts {p : Prog α} {m m₀ m' : Machine} {a : α} (hc : Cuts id m m₀) (h : Run id p m₀ a m') :
    Run id p m a m' := by
  induction hc using Relation.ReflTransGen.head_induction_on with
  | refl => exact h
  | head hfirst _ ih => exact .cut (hfirst ▸ ih)

/-- A finished program ends where terminations took the machine. -/
theorem pure_inv {a b : α} {m m' : Machine} (h : Run id (.pure a) m b m') : b = a ∧ Cuts id m m' := by
  generalize hp : Prog.pure a = p at h
  induction h with
  | pure => cases hp; exact ⟨rfl, .refl⟩
  | step => cases hp
  | cut _ ih =>
    obtain ⟨rfl, hc⟩ := ih hp
    exact ⟨rfl, .head hc⟩

/-- A finished program with a pair for its value: a process step that ended
with its value and state. -/
theorem pure_pair_inv {σ : Type} {a b : α} {s s' : σ} {m m' : Machine} (h : Run id (.pure (a, s)) m (b, s') m') :
    b = a ∧ s' = s ∧ Cuts id m m' := by
  obtain ⟨hab, hc⟩ := pure_inv h
  simp only [Prod.mk.injEq] at hab
  exact ⟨hab.1, hab.2, hc⟩

/-- A program that starts with a step took it on a machine some terminations
reached, and went on from there. -/
theorem step_inv {f : Machine → Attempt β} {k : β → Prog α} {m m' : Machine} {a : α}
    (h : Run id (.step f k) m a m') :
    ∃ m₀ b m₁, Cuts id m m₀ ∧ f m₀ = .done b m₁ ∧ Run id (k b) m₁ a m' := by
  generalize hp : Prog.step f k = p at h
  induction h with
  | pure => cases hp
  | step hf hk =>
    cases hp
    exact ⟨_, _, _, .refl, hf, hk⟩
  | cut _ ih =>
    obtain ⟨m₀, b, m₁, hc, hf, hk⟩ := ih hp
    exact ⟨m₀, b, m₁, .head hc, hf, hk⟩

/-- A program that starts another task has no run. -/
theorem not_fork {c : Prog Unit} {r : Prog α} {m m' : Machine} {a : α} :
    ¬ Run id (.fork c r) m a m' := by
  intro h
  generalize hp : Prog.fork c r = p at h
  induction h with
  | pure => cases hp
  | step => cases hp
  | cut _ ih => exact ih hp

/-- A single step: it happened on a machine some terminations reached, and
more terminations may follow it. -/
theorem step_pure_inv {f : Machine → Attempt α} {m m' : Machine} {a : α}
    (h : Run id (.step f .pure) m a m') :
    ∃ m₀ m₁, Cuts id m m₀ ∧ f m₀ = .done a m₁ ∧ Cuts id m₁ m' := by
  obtain ⟨m₀, b, m₁, hc, hf, hk⟩ := step_inv h
  obtain ⟨rfl, hc'⟩ := pure_inv hk
  exact ⟨m₀, m₁, hc, hf, hc'⟩

/-- The run of `p >>= g` is a run of `p` followed by a run of what its value selects. -/
theorem bind_inv {p : Prog α} {g : α → Prog β} {m m' : Machine} {b : β}
    (h : Run id (p >>= g) m b m') : ∃ a m₁, Run id p m a m₁ ∧ Run id (g a) m₁ b m' := by
  induction p generalizing m with
  | pure a => exact ⟨a, m, .pure a m, h⟩
  | step f k ih =>
    -- the first step is `p`'s; the rest is the bind of its continuation
    obtain ⟨m₀, c, m₁, hc, hf, hk⟩ := step_inv (f := f) h
    obtain ⟨a, m₂, hka, hg⟩ := ih c hk
    exact ⟨a, m₂, of_cuts hc (.step hf hka), hg⟩
  | fork c r => exact absurd h not_fork

/-- A run of `p` followed by a run of what its value selects is a run of `p >>= g`. -/
theorem bind {p : Prog α} {g : α → Prog β} {m m₁ m' : Machine} {a : α} {b : β}
    (hp : Run id p m a m₁) (hg : Run id (g a) m₁ b m') : Run id (p >>= g) m b m' := by
  induction hp with
  | pure => exact hg
  | step hf _ ih => exact .step hf (ih hg)
  | cut _ ih => exact .cut (ih hg)

/-- Terminations after a run make a run. -/
theorem cuts_after {p : Prog α} {m m₁ m' : Machine} {a : α} (h : Run id p m a m₁) (hc : Cuts id m₁ m') :
    Run id p m a m' := by
  induction h with
  | pure a m => exact of_cuts hc (.pure a m')
  | step hf _ ih => exact .step hf (ih hc)
  | cut _ ih => exact .cut (ih hc)

/-- What a task does alone is one of its runs. -/
theorem of_eval {p : Prog α} {m m' : Machine} {a : α} (h : eval p m = some (a, m')) : Run id p m a m' := by
  induction p generalizing m with
  | pure b =>
    cases h
    exact .pure b _
  | step f k ih =>
    unfold eval at h
    split at h
    · next b m₁ hf => exact .step hf (ih b h)
    · cases h
  | fork => cases h

end Run

/-! ## Runs of the common steps -/

section Steps

variable {m m' : Machine}

theorem Run.atomic_inv {f : Machine → β × Machine} {b : β} (h : Run id (Prog.atomic f) m b m') :
    ∃ m₀, Cuts id m m₀ ∧ b = (f m₀).1 ∧ Cuts id (f m₀).2 m' := by
  obtain ⟨m₀, m₁, hc, hf, hc'⟩ := Run.step_pure_inv h
  simp only [Attempt.done.injEq] at hf
  obtain ⟨rfl, rfl⟩ := hf
  exact ⟨m₀, hc, rfl, hc'⟩

theorem Run.change_inv {f : Machine → Machine} {u : Unit} (h : Run id (Prog.change f) m u m') :
    ∃ m₀, Cuts id m m₀ ∧ Cuts id (f m₀) m' := by
  obtain ⟨m₀, hc, -, hc'⟩ := Run.atomic_inv h
  exact ⟨m₀, hc, hc'⟩

theorem Run.act_inv {a : Act β} {b : β} (h : Run id (Prog.act a) m b m') :
    ∃ m₀, Cuts id m m₀ ∧ b = (a.run m₀).1 ∧ Cuts id (a.run m₀).2 m' :=
  Run.atomic_inv h

/-- A blocking step of a context: it happened, or gave up with the context's fault
on an unchanged machine. -/
theorem Run.block_inv {c : Ctx} {f : Machine → Option (β × Machine)} {w : Option Nat}
    {r : Except Fault β} (h : Run id (c.block f w) m r m') :
    ∃ m₀, Cuts id m m₀ ∧
      ((∃ b m₁, f m₀ = some (b, m₁) ∧ r = .ok b ∧ Cuts id m₁ m') ∨
        (∃ e, f m₀ = none ∧ c.err? m₀ = some e ∧ r = .error e ∧ Cuts id m₀ m')) := by
  obtain ⟨m₀, m₁, hc, hf, hc'⟩ := Run.step_pure_inv h
  refine ⟨m₀, hc, ?_⟩
  revert hf
  cases hfm : f m₀ with
  | some bm =>
    obtain ⟨b, m₂⟩ := bm
    intro hf
    simp only [Attempt.done.injEq] at hf
    obtain ⟨rfl, rfl⟩ := hf
    exact .inl ⟨b, m₂, rfl, rfl, hc'⟩
  | none =>
    cases he : c.err? m₀ with
    | none => intro hf; cases hf
    | some e =>
      intro hf
      simp only [Attempt.done.injEq] at hf
      obtain ⟨rfl, rfl⟩ := hf
      exact .inr ⟨e, rfl, rfl, rfl, hc'⟩

/-- A task step run inside a process leaves the process's state alone. -/
theorem Run.lift_inv {p : Prog β} {st st' : ProcState} {b : β} (h : Run id ((Proc.lift p).run st) m (b, st') m') :
    st' = st ∧ Run id p m b m' := by
  obtain ⟨b₀, m₁, hp, hpure⟩ := Run.bind_inv h
  obtain ⟨rfl, rfl, hc⟩ := Run.pure_pair_inv hpure
  exact ⟨rfl, hp.cuts_after hc⟩

end Steps

end Prog

end Userland
