import Mathlib.Data.List.GetD
import Userland.Boot.Launch
import Userland.Supervisor.Serve
import Userland.Proofs.Process.Table

/-! # The order of a launch's calls

A launch talks to the supervisor through five calls. To see what it does for
every way the supervisor may answer, the calls are made against a `Responder`:
each call joins a log, and is answered by any function of the calls made
before it, so any pids and any failures.

What a launch should do is written as a plan (`Manifest.plan`): first, for
every entry in order, its creation and, when it reads another entry's output,
the pipe from that entry's pid to its own; then, for every entry to start or
wait for, in order, a watch when it is waited for, its start, and the wait.
`Planned.run` makes one planned call and `exec` runs a plan until its first
failed call.

`launch_follows_plan`: for every manifest that passes its check, and every
responder, a launch makes exactly the plan's calls up to its first failure and
returns what the plan returns. The plan puts every pipe before every start and
every watch right before its start, and every pipe joins an earlier entry
created to write a pipe to one created to read one; the supervisor accepts
such a pipe whenever the reader has not started.
`problem_first_refusal` says which manifests pass the check, and what it reports.
-/

namespace Userland

namespace Boot

/-- A call a launch makes to the supervisor. -/
inductive Call where
  | create (req : CreateRequest)
  | pipe (out inp : Int)
  | start (pid : Int)
  | watch (pid : Int)
  | await (handle : Nat)

/-- How a launch's calls are answered: each answer may depend on every call
made before it. -/
structure Responder where
  create : List Call → CreateRequest → Except Fault Int
  pipe : List Call → Int → Int → Except Fault Unit
  start : List Call → Int → Except Fault Unit
  watch : List Call → Int → Except Fault Nat
  await : List Call → Nat → Except Fault Int

namespace Responder

/-- Makes a call: it joins the log, and is answered given the log before it. -/
def ask {α : Type} (c : Call) (answer : List Call → α) : StateM (List Call) α :=
  fun log => (answer log, log ++ [c])

/-- The calls of a launch, logged and answered by the responder. -/
def syscalls (R : Responder) : Syscalls (StateM (List Call)) where
  create req := ask (.create req) (R.create · req)
  pipe o i := ask (.pipe o i) (R.pipe · o i)
  start p := ask (.start p) (R.start · p)
  watch p := ask (.watch p) (R.watch · p)
  await h := ask (.await h) (R.await · h)
  report _ := pure ()

end Responder

namespace Manifest

variable (man : Manifest)

/-- Entry `i`; an empty one past the end. -/
def entry (i : Nat) : Program := man.programs.getD i Program.empty

/-- The names that entries read from. -/
def producers : List String :=
  man.programs.filterMap fun p => if p.stdinFrom ≠ "" then some p.stdinFrom else none

/-- The creation request of entry `i`. -/
def request (i : Nat) : CreateRequest := (man.entry i).request man.producers

/-- The entry whose output entry `i` reads: the first one its `stdin_from` names. -/
def source? (i : Nat) : Option Nat :=
  if (man.entry i).stdinFrom = "" then none
  else man.programs.findIdx? (·.name == (man.entry i).stdinFrom)

end Manifest

/-- A step of a launch's plan, naming entries by their place in the manifest. -/
inductive Planned where
  | create (i : Nat)
  | pipe (src i : Nat)
  | watch (i : Nat)
  | start (i : Nat)
  | await (i : Nat)
  deriving DecidableEq

namespace Manifest

variable (man : Manifest)

/-- The first pass for entry `i`: create it, then join it to its source. -/
def creation (i : Nat) : List Planned :=
  .create i :: ((man.source? i).map (Planned.pipe · i)).toList

/-- The second pass for entry `i`, if it is to be started or waited for: a
watch when it is waited for, its start, and the wait. -/
def starting (i : Nat) : List Planned :=
  if (man.entry i).start || (man.entry i).wait then
    (if (man.entry i).wait then [.watch i] else []) ++ .start i :: (if (man.entry i).wait then [.await i] else [])
  else []

/-- The plan of a launch: every entry created and joined, in order; then the
entries started in order. -/
def plan : List Planned :=
  (List.range man.programs.length).flatMap man.creation ++
    (List.range man.programs.length).flatMap man.starting

end Manifest

/-- How far a plan has run: the calls made, the pid each created entry was
given, the handle of each watch by entry, and the entries' records. -/
structure Progress where
  log : List Call
  pids : List Int
  handles : List (Nat × Nat)
  launched : List Launched

namespace Progress

/-- Nothing run yet. -/
def init : Progress := ⟨[], [], [], []⟩

/-- The pid entry `i` was created with. -/
def pid (s : Progress) (i : Nat) : Int := s.pids.getD i 0

/-- What a launch returns, with the calls it made. -/
def outcome (r : Progress × Option String) : (List Launched × Option String) × List Call :=
  ((r.1.launched, r.2), r.1.log)

end Progress

namespace Planned

/-- Makes one planned call, which joins the log; a failed call stops the plan
with the failure's text, naming the call and the entry. -/
def run (man : Manifest) (R : Responder) (s : Progress) : Planned → Except (Progress × String) Progress
  | .create i =>
    let log := s.log ++ [.create (man.request i)]
    match R.create s.log (man.request i) with
    | .ok pid =>
      .ok { s with
        log := log, pids := s.pids ++ [pid]
        launched := s.launched ++ [⟨(man.entry i).name, (man.entry i).path, pid, false, false, 0⟩] }
    | .error e => .error ({ s with log := log }, "create " ++ (man.entry i).path ++ ": " ++ e.message)
  | .pipe j i =>
    let log := s.log ++ [.pipe (s.pid j) (s.pid i)]
    match R.pipe s.log (s.pid j) (s.pid i) with
    | .ok () => .ok { s with log := log }
    | .error e => .error ({ s with log := log },
        "pipe " ++ (man.entry i).stdinFrom ++ " into " ++ (man.entry i).path ++ ": " ++ e.message)
  | .watch i =>
    let log := s.log ++ [.watch (s.pid i)]
    match R.watch s.log (s.pid i) with
    | .ok h => .ok { s with log := log, handles := (i, h) :: s.handles }
    | .error e => .error ({ s with log := log }, "wait " ++ (man.entry i).path ++ ": " ++ e.message)
  | .start i =>
    let log := s.log ++ [.start (s.pid i)]
    match R.start s.log (s.pid i) with
    | .ok () => .ok { s with log := log, launched := updateAt s.launched i fun l => { l with started := true } }
    | .error e => .error ({ s with log := log }, "start " ++ (man.entry i).path ++ ": " ++ e.message)
  | .await i =>
    let h := (s.handles.lookup i).getD 0
    let log := s.log ++ [.await h]
    match R.await s.log h with
    | .ok code =>
      .ok { s with
        log := log
        launched := updateAt s.launched i fun l => { l with exited := true, code := code } }
    | .error e => .error ({ s with log := log }, "wait " ++ (man.entry i).path ++ ": " ++ e.message)

end Planned

/-- Runs a plan until its first failed call. -/
def exec (man : Manifest) (R : Responder) : List Planned → Progress → Progress × Option String
  | [], s => (s, none)
  | a :: rest, s =>
    match a.run man R s with
    | .ok s' => exec man R rest s'
    | .error (s', msg) => (s', some msg)

/-! ## Which manifests pass the check -/

section Refusal

variable {done rest : List Program} {p : Program} {seen : List String}

/-- An entry fits the entries before it: it has a path, its `stdin_from` names
one of them, and its name is none of theirs. -/
def Fits (before : List Program) (p : Program) : Prop :=
  p.path ≠ "" ∧ (p.stdinFrom ≠ "" → ∃ q ∈ before, q.name = p.stdinFrom) ∧
    (p.name ≠ "" → ∀ q ∈ before, q.name ≠ p.name)

/-- Every entry of `rest` fits the entries before it, `done` first. -/
def FitsAll (done rest : List Program) : Prop :=
  ∀ b p a, rest = b ++ p :: a → Fits (done ++ b) p

/-- Why an entry does not fit the entries `before` it: path, then `stdin_from`, then name. -/
def refusal (before : List Program) (p : Program) : Option String :=
  let i := toString before.length
  if p.path = "" then some ("program " ++ i ++ ": path is required")
  else if p.stdinFrom ≠ "" ∧ ¬ ∃ q ∈ before, q.name = p.stdinFrom then
    some ("program " ++ i ++ " (" ++ p.path ++ "): stdin_from " ++ Text.quote p.stdinFrom ++
      " does not name an earlier program")
  else if p.name ≠ "" ∧ ∃ q ∈ before, q.name = p.name then
    some ("program " ++ i ++ ": duplicate name " ++ Text.quote p.name)
  else none

theorem refusal_eq_none : refusal done p = none ↔ Fits done p := by
  unfold refusal Fits
  split_ifs <;> simp_all

@[simp] theorem fitsAll_nil : FitsAll done [] := by
  intro b p a h
  simp at h

@[simp] theorem fitsAll_cons : FitsAll done (p :: rest) ↔ Fits done p ∧ FitsAll (done ++ [p]) rest := by
  constructor
  · intro h
    exact ⟨by simpa using h [] p rest rfl, fun b q a hr => by simpa using h (p :: b) q a (by simp [hr])⟩
  · rintro ⟨hp, hr⟩ (_ | ⟨x, b⟩) q a h
    · obtain ⟨rfl, -⟩ := List.cons.inj h
      simpa using hp
    · obtain ⟨rfl, rfl⟩ := List.cons.inj h
      simpa using hr b q a rfl

namespace Manifest

/-- The names seen are the non-empty names of the entries `done`. -/
def Tracks (seen : List String) (done : List Program) : Prop :=
  ∀ x ≠ "", x ∈ seen ↔ ∃ q ∈ done, q.name = x

theorem Tracks.push (h : Tracks seen done) (p : Program) :
    Tracks (if p.name ≠ "" then p.name :: seen else seen) (done ++ [p]) := by
  intro x hx
  grind [Tracks]

/-- One step: the entry is refused, or the check goes on with its name seen. -/
theorem go_cons (h : Tracks seen done) (p : Program) (rest : List Program) :
    problem.go (p :: rest) done.length seen = (refusal done p).or
      (problem.go rest (done ++ [p]).length (if p.name ≠ "" then p.name :: seen else seen)) := by
  simp only [problem.go, refusal, List.length_append, List.length_singleton]
  split_ifs <;> grind [Tracks]

/-- The check of `rest` once the entries `done` have passed. -/
theorem go_spec : ∀ {seen done}, Tracks seen done →
    (problem.go rest done.length seen = none ↔ FitsAll done rest) ∧
    ∀ msg, problem.go rest done.length seen = some msg →
      ∃ b p a, rest = b ++ p :: a ∧ FitsAll done b ∧ refusal (done ++ b) p = some msg := by
  induction rest with
  | nil => intro seen done _; simp [problem.go]
  | cons p rest ih =>
    intro seen done h
    obtain ⟨ihn, ihs⟩ := ih (h.push p)
    rw [go_cons h]
    cases hr : refusal done p with
    | some e =>
      -- the check stops at `p`, which does not fit
      have hp : ¬ Fits done p := fun hf => by simp [refusal_eq_none.mpr hf] at hr
      refine ⟨by simp [hp], fun msg hm => ⟨[], p, rest, rfl, fitsAll_nil, by simpa [← hm] using hr⟩⟩
    | none =>
      have hp : Fits done p := refusal_eq_none.mp hr
      refine ⟨by rw [Option.none_or, ihn, fitsAll_cons]; simp [hp], fun msg hm => ?_⟩
      obtain ⟨b, q, a, rfl, hf, hq⟩ := ihs msg hm
      exact ⟨p :: b, q, a, rfl, fitsAll_cons.mpr ⟨hp, hf⟩, by simpa using hq⟩

/-- A manifest passes its check exactly when every entry fits the entries before
it; otherwise the problem is the refusal of the first entry that does not. -/
theorem problem_first_refusal (m : Manifest) :
    (m.problem = none ↔ FitsAll [] m.programs) ∧
    ∀ msg, m.problem = some msg →
      ∃ b p a, m.programs = b ++ p :: a ∧ FitsAll [] b ∧ refusal b p = some msg := by
  simpa [problem] using @go_spec m.programs [] [] (by simp [Tracks])

/-- A manifest whose first entry reads from the second. -/
def readsLater : Manifest :=
  ⟨[{ Program.empty with name := "a", path := "/bin/cat", stdinFrom := "b" },
    { Program.empty with name := "b", path := "/bin/echo" }]⟩

/-- The check refuses the entry that reads from a later one, and the entries
before it fit. -/
theorem reads_later_refused :
    readsLater.problem = some "program 0 (/bin/cat): stdin_from \"b\" does not name an earlier program" ∧
      ∃ b p a, readsLater.programs = b ++ p :: a ∧ FitsAll [] b ∧ refusal b p = readsLater.problem :=
  have h : readsLater.problem =
      some "program 0 (/bin/cat): stdin_from \"b\" does not name an earlier program" := by
    decide +kernel
  ⟨h, h ▸ (problem_first_refusal readsLater).2 _ h⟩

end Manifest

end Refusal

/-! ## What the manifest check promises -/

/-- What the check of a list of entries after the names `seen` promises: a
`stdin_from` names an entry before it or a name seen, a name is new, and no two
entries share a name. -/
structure Checked (seen : List String) (ps : List Program) : Prop where
  earlier : ∀ k < ps.length, (ps.getD k .empty).stdinFrom ≠ "" →
    (ps.getD k .empty).stdinFrom ∈ seen ∨ ∃ j < k, (ps.getD j .empty).name = (ps.getD k .empty).stdinFrom
  fresh : ∀ k < ps.length, (ps.getD k .empty).name ≠ "" → (ps.getD k .empty).name ∉ seen
  unique : ∀ k j, k < ps.length → j < ps.length → (ps.getD k .empty).name ≠ "" →
    (ps.getD k .empty).name = (ps.getD j .empty).name → k = j

/-- Entry `k` of a list whose every entry fits the entries before it fits the
first `k`. -/
theorem FitsAll.getD {ps : List Program} (h : FitsAll [] ps) {k : Nat} (hk : k < ps.length) :
    Fits (ps.take k) (ps.getD k .empty) := by
  rw [List.getD_eq_getElem _ _ hk]
  exact h _ _ _ (by rw [← List.drop_eq_getElem_cons hk, List.take_append_drop])

/-- What the check promises, by index, of a list whose every entry fits the
entries before it. -/
theorem Checked.of_fitsAll {ps : List Program} (h : FitsAll [] ps) : Checked [] ps := by
  have hin : ∀ {j k}, j < k → j < ps.length → ps.getD j .empty ∈ ps.take k := by
    intro j k hjk hj
    rw [List.getD_eq_getElem _ _ hj]
    exact List.mem_take_iff_getElem.mpr ⟨j, by omega, rfl⟩
  refine ⟨fun k hk hne => ?_, fun _ _ _ => List.not_mem_nil, fun k j hk hj hne heq => ?_⟩
  · -- the entry named is one of the first `k`
    obtain ⟨q, hq, hname⟩ := (h.getD hk).2.1 hne
    obtain ⟨j, hj, rfl⟩ := List.mem_take_iff_getElem.mp hq
    exact .inr ⟨j, by omega, by rw [List.getD_eq_getElem _ _ (by omega)]; exact hname⟩
  · -- neither of two entries of one name comes before the other
    rcases Nat.lt_trichotomy k j with hkj | rfl | hjk
    · exact absurd heq ((h.getD hj).2.2 (by rwa [← heq]) _ (hin hkj hk))
    · rfl
    · exact absurd heq.symm ((h.getD hk).2.2 hne _ (hin hjk hj))

theorem checked_of_go {ps : List Program} (h : Manifest.problem.go ps 0 [] = none) : Checked [] ps :=
  Checked.of_fitsAll ((@Manifest.go_spec ps [] [] (by simp [Manifest.Tracks])).1.mp h)

variable {man : Manifest} {R : Responder}

/-! ## A launch runs its plan -/

namespace Progress

@[simp] theorem pid_mk (log : List Call) (pids : List Int) (handles : List (Nat × Nat))
    (launched : List Launched) (i : Nat) : (Progress.mk log pids handles launched).pid i = pids.getD i 0 :=
  rfl

@[simp] theorem getD_pids (s : Progress) (i : Nat) : s.pids.getD i 0 = s.pid i := rfl

end Progress

namespace Responder

@[simp] theorem ask_run_bind {α β : Type} (c : Call) (a : List Call → α) (f : α → StateM (List Call) β)
    (log : List Call) : (ask c a >>= f).run log = (f (a log)).run (log ++ [c]) := rfl

@[simp] theorem syscalls_create (req : CreateRequest) : R.syscalls.create req = ask (.create req) (R.create · req) := rfl
@[simp] theorem syscalls_pipe (o i : Int) : R.syscalls.pipe o i = ask (.pipe o i) (R.pipe · o i) := rfl
@[simp] theorem syscalls_start (p : Int) : R.syscalls.start p = ask (.start p) (R.start · p) := rfl
@[simp] theorem syscalls_watch (p : Int) : R.syscalls.watch p = ask (.watch p) (R.watch · p) := rfl
@[simp] theorem syscalls_await (h : Nat) : R.syscalls.await h = ask (.await h) (R.await · h) := rfl
@[simp] theorem syscalls_report (l : Launched) : R.syscalls.report l = pure () := rfl

end Responder

theorem exec_append (xs ys : List Planned) (s : Progress) :
    exec man R (xs ++ ys) s =
      match exec man R xs s with
      | (s', none) => exec man R ys s'
      | r => r := by
  induction xs generalizing s with
  | nil => rfl
  | cons a xs ih =>
    simp only [List.cons_append, exec]
    cases a.run man R s with
    | ok s' => exact ih s'
    | error e => rfl

namespace Manifest

theorem entry_eq {i : Nat} (h : i < man.programs.length) : man.entry i = man.programs[i] :=
  List.getD_eq_getElem _ _ h

theorem drop_eq_entry_cons {k : Nat} (hk : k < man.programs.length) :
    man.programs.drop k = man.entry k :: man.programs.drop (k + 1) := by
  rw [List.drop_eq_getElem_cons hk, entry_eq hk]

/-- In a checked manifest, the source of an entry with a `stdin_from` is the
earlier entry of that name. -/
theorem source?_of_checked (hc : Checked [] man.programs) {k : Nat} (hk : k < man.programs.length)
    (hne : (man.entry k).stdinFrom ≠ "") :
    ∃ j < k, man.source? k = some j ∧ (man.entry j).name = (man.entry k).stdinFrom := by
  obtain ⟨j, hjk, hj⟩ := (hc.earlier k hk hne).resolve_left List.not_mem_nil
  have hj : (man.entry j).name = (man.entry k).stdinFrom := hj
  refine ⟨j, hjk, ?_, hj⟩
  have hjn : j < man.programs.length := by omega
  rw [source?, if_neg hne, List.findIdx?_eq_some_iff_getElem]
  refine ⟨hjn, by simpa [← entry_eq hjn] using hj, fun i hij heq => ?_⟩
  -- an earlier entry of the same name would share it with `j`
  have hi : (man.entry i).name = (man.entry j).name := by
    rw [hj, entry_eq (by omega)]
    simpa using heq
  have hin : (man.entry i).name ≠ "" := by rw [hi, hj]; exact hne
  have := hc.unique i j (by omega) hjn hin hi
  omega

/-- The launch's map from names to pids knows the pid of every named entry
before `k`. -/
def Named (man : Manifest) (pbn : List (String × Int)) (pids : List Int) (k : Nat) : Prop :=
  ∀ j < k, (man.entry j).name ≠ "" → pbn.lookup (man.entry j).name = some (pids.getD j 0)

/-- A pid given to the next entry. -/
theorem getD_pids_push (pids : List Int) (x : Int) (j : Nat) :
    (pids ++ [x]).getD j 0 = if j = pids.length then x else pids.getD j 0 := by
  rw [List.getD_eq_getElem?_getD, List.getD_eq_getElem?_getD, List.getElem?_append]
  split_ifs with h₁ h₂ h₂
  · omega
  · rfl
  · simp [h₂]
  · rw [List.getElem?_eq_none (by simp; omega), List.getElem?_eq_none (by omega)]

/-- Entry `k`'s name and new pid join the map; names being unique, no earlier
entry's pid is hidden. -/
theorem Named.push (hc : Checked [] man.programs) {k : Nat} (hk : k < man.programs.length)
    {pbn : List (String × Int)} {pids : List Int} (hlen : pids.length = k) (h : man.Named pbn pids k)
    (x : Int) :
    man.Named (if (man.entry k).name ≠ "" then ((man.entry k).name, x) :: pbn else pbn) (pids ++ [x]) (k + 1) := by
  intro j hj hne
  rw [getD_pids_push, hlen]
  by_cases hjk : j = k
  · subst hjk
    simp [hne]
  · have hdiff : (man.entry j).name ≠ (man.entry k).name := fun heq =>
      hjk (hc.unique j k (by omega) hk hne heq)
    rw [if_neg hjk, ← h j (by omega) hne]
    split
    · have hne' : ((man.entry j).name == (man.entry k).name) = false := by simpa using hdiff
      rw [List.lookup_cons, hne']
    · rfl

end Manifest

/-- The first pass for one entry makes the calls its `creation` plans, and
goes on with the entry's name and pid in the map, unless one failed. -/
theorem createAll_cons_run (hc : Checked [] man.programs) {k : Nat} (hk : k < man.programs.length)
    {s : Progress} (hlen : s.pids.length = k) {pbn : List (String × Int)} (hpbn : man.Named pbn s.pids k)
    (rest : List Program) :
    (createAll R.syscalls man.producers (man.entry k :: rest) pbn s.launched).run s.log =
      match exec man R (man.creation k) s with
      | (s', none) =>
        (createAll R.syscalls man.producers rest
          (if (man.entry k).name ≠ "" then ((man.entry k).name, s'.pid k) :: pbn else pbn) s'.launched).run s'.log
      | r => Progress.outcome r := by
  simp only [createAll, Responder.syscalls_create, Responder.ask_run_bind]
  cases hcr : R.create s.log ((man.entry k).request man.producers) with
  | error e =>
    simp [Manifest.creation, exec, Planned.run, Manifest.request, hcr, Progress.outcome]
    rfl
  | ok pid =>
    -- the entry is created: `s₁` on the plan's side
    dsimp only
    let s₁ : Progress :=
      { s with
        log := s.log ++ [.create (man.request k)], pids := s.pids ++ [pid]
        launched := s.launched ++ [⟨(man.entry k).name, (man.entry k).path, pid, false, false, 0⟩] }
    have hrun : (Planned.create k).run man R s = .ok s₁ := by
      simp [Planned.run, Manifest.request, hcr, s₁]
    have hpid : s₁.pid k = pid := by simp [s₁, hlen]
    have hout : s.launched ++ [⟨(man.entry k).name, (man.entry k).path, pid, false, false, 0⟩] =
        s₁.launched := rfl
    have hlog : s.log ++ [Call.create ((man.entry k).request man.producers)] = s₁.log := rfl
    rw [hout, hlog]
    by_cases hsrc : (man.entry k).stdinFrom = ""
    · -- nothing to join
      have hcreation : man.creation k = [.create k] := by
        simp [Manifest.creation, Manifest.source?, hsrc]
      rw [if_neg (fun h => h hsrc)]
      simp only [hcreation, exec, hrun, hpid]
    · -- the pipe from the earlier entry that `stdin_from` names, found in the map
      obtain ⟨j, hjk, hsource, hjname⟩ := Manifest.source?_of_checked hc hk hsrc
      have hcreation : man.creation k = [.create k, .pipe j k] := by
        simp [Manifest.creation, hsource]
      have hmap := Manifest.Named.push hc hk hlen hpbn pid
      have hout_pid : ((if (man.entry k).name ≠ "" then ((man.entry k).name, pid) :: pbn else pbn).lookup
          (man.entry k).stdinFrom).getD 0 = s₁.pid j := by
        rw [← hjname, hmap j (by omega) (hjname ▸ hsrc)]
        rfl
      rw [if_pos hsrc]
      simp only [hcreation, exec, hrun, Responder.syscalls_pipe, Responder.ask_run_bind, hout_pid]
      rw [← hpid]
      cases hpr : R.pipe s₁.log (s₁.pid j) (s₁.pid k) with
      | error e =>
        simp only [Planned.run, hpr]
        rfl
      | ok u =>
        simp only [Planned.run, hpr]
        rfl

/-- A pipe keeps the pids. -/
theorem Planned.pids_run_pipe {j i : Nat} {s s' : Progress} (h : (Planned.pipe j i).run man R s = .ok s') :
    s'.pids = s.pids := by
  simp only [Planned.run] at h
  split at h <;> cases h
  rfl

/-- A successful creation gives the entry the next pid. -/
theorem exec_creation_pids {k : Nat} {s s' : Progress} (h : exec man R (man.creation k) s = (s', none)) :
    ∃ pid, s'.pids = s.pids ++ [pid] := by
  cases hcr : R.create s.log (man.request k) with
  | error e => simp [Manifest.creation, exec, Planned.run, hcr] at h
  | ok pid =>
    refine ⟨pid, ?_⟩
    obtain ⟨s₁, hrun, hpids⟩ : ∃ s₁, (Planned.create k).run man R s = .ok s₁ ∧ s₁.pids = s.pids ++ [pid] :=
      ⟨_, by simp [Planned.run, hcr]; rfl, rfl⟩
    cases hsrc : man.source? k with
    | none =>
      simp only [Manifest.creation, hsrc, Option.map_none, Option.toList_none, exec, hrun, Prod.mk.injEq] at h
      rw [← h.1, hpids]
    | some j =>
      -- the pipe after the creation keeps the pids
      simp only [Manifest.creation, hsrc, Option.map_some, Option.toList_some, exec, hrun] at h
      cases hp : (Planned.pipe j k).run man R s₁ with
      | error e => simp [hp] at h
      | ok s₂ =>
        simp only [hp, Prod.mk.injEq] at h
        rw [← h.1, Planned.pids_run_pipe hp, hpids]

theorem createAll_run (hc : Checked [] man.programs) :
    ∀ d k (s : Progress) (pbn : List (String × Int)), k + d = man.programs.length → s.pids.length = k →
      man.Named pbn s.pids k →
      (createAll R.syscalls man.producers (man.programs.drop k) pbn s.launched).run s.log =
        Progress.outcome (exec man R ((List.range' k d).flatMap man.creation) s) := by
  intro d
  induction d with
  | zero =>
    intro k s pbn hkd _ _
    rw [List.drop_eq_nil_of_le (by omega)]
    rfl
  | succ d ih =>
    intro k s pbn hkd hlen hpbn
    have hk : k < man.programs.length := by omega
    rw [Manifest.drop_eq_entry_cons hk, List.range'_succ, List.flatMap_cons, exec_append,
      createAll_cons_run hc hk hlen hpbn]
    -- the pass goes on from entry `k + 1`, with one more pid known by name
    cases hr : exec man R (man.creation k) s with
    | mk s' e =>
      cases e with
      | some e => rfl
      | none =>
        obtain ⟨pid, hp⟩ := exec_creation_pids hr
        have hlen' : s'.pids.length = k + 1 := by simp [hp, hlen]
        have hpid : s'.pid k = pid := by simp [Progress.pid, hp, hlen]
        exact ih (k + 1) s' _ (by omega) hlen' (hpid ▸ hp ▸ Manifest.Named.push hc hk hlen hpbn pid)

/-- Marking an entry started or exited keeps every entry's pid. -/
theorem map_pid_updateAt (out : List Launched) (i : Nat) {f : Launched → Launched}
    (hf : ∀ l, (f l).pid = l.pid) : (updateAt out i f).map (·.pid) = out.map (·.pid) := by
  unfold updateAt
  rw [List.map_set, hf]
  apply List.ext_getElem (by simp)
  intro n h₁ h₂
  rw [List.getElem_set]
  split
  · subst n
    rw [List.getD_eq_getElem _ _ (by simpa using h₂), List.getElem_map]
  · rfl

theorem pid_getD_of_map {s : Progress} (h : s.launched.map (·.pid) = s.pids) (i : Nat) :
    (s.launched.getD i default).pid = s.pid i := by
  have hzero : (0 : Int) = (default : Launched).pid := rfl
  rw [Progress.pid, ← h, hzero, List.getD_map]

/-- Every planned call keeps each entry's record paired with the pid it was
created with, whether it succeeds or fails. -/
theorem Planned.map_pid_run {s : Progress} (h : s.launched.map (·.pid) = s.pids) (a : Planned) :
    (∀ s', a.run man R s = .ok s' → s'.launched.map (·.pid) = s'.pids) ∧
      ∀ s' msg, a.run man R s = .error (s', msg) → s'.launched.map (·.pid) = s'.pids := by
  cases a <;> refine ⟨fun s' hr => ?_, fun s' msg hr => ?_⟩ <;> simp only [Planned.run] at hr <;>
    split at hr <;> cases hr <;> simp [h, map_pid_updateAt]

theorem exec_map_pid {s : Progress} (h : s.launched.map (·.pid) = s.pids) (xs : List Planned) :
    (exec man R xs s).1.launched.map (·.pid) = (exec man R xs s).1.pids := by
  induction xs generalizing s with
  | nil => exact h
  | cons a xs ih =>
    simp only [exec]
    split
    · exact ih ((Planned.map_pid_run h a).1 _ ‹_›)
    · exact (Planned.map_pid_run h a).2 _ _ ‹_›

/-- The second pass for one entry makes the calls its `starting` plans, and
goes on from where they leave off, unless one failed. -/
theorem startAll_cons_run {s : Progress} (hmap : s.launched.map (·.pid) = s.pids) (k : Nat)
    (rest : List Program) :
    (startAll R.syscalls (man.entry k :: rest) k s.launched).run s.log =
      match exec man R (man.starting k) s with
      | (s', none) => (startAll R.syscalls rest (k + 1) s'.launched).run s'.log
      | r => Progress.outcome r := by
  simp only [startAll, pid_getD_of_map hmap]
  by_cases hskip : (!(man.entry k).start && !(man.entry k).wait) = true
  · -- neither started nor waited for: nothing planned
    have hstarting : man.starting k = [] := by
      simp only [Bool.and_eq_true, Bool.not_eq_true'] at hskip
      simp [Manifest.starting, hskip.1, hskip.2]
    rw [if_pos hskip, hstarting]
    rfl
  rw [if_neg hskip]
  have hgo : ((man.entry k).start || (man.entry k).wait) = true := by
    revert hskip
    cases (man.entry k).start <;> cases (man.entry k).wait <;> decide
  by_cases hw : (man.entry k).wait = true
  · -- watch, start, then wait, each of which may fail
    have hstarting : man.starting k = [.watch k, .start k, .await k] := by
      simp [Manifest.starting, hw]
    rw [if_pos hw, hstarting]
    simp only [Responder.syscalls_watch, Responder.ask_run_bind]
    cases hwr : R.watch s.log (s.pid k) with
    | error e =>
      simp only [pure_bind, exec, Planned.run, hwr]
      rfl
    | ok h =>
      simp only [pure_bind, Responder.syscalls_start, Responder.ask_run_bind]
      cases hsr : R.start (s.log ++ [.watch (s.pid k)]) (s.pid k) with
      | error e =>
        simp only [exec, Planned.run, hwr, hsr, Progress.pid_mk, Progress.getD_pids]
        rfl
      | ok u =>
        simp only [Responder.syscalls_report, Responder.syscalls_await, Responder.ask_run_bind, pure_bind]
        cases har : R.await (s.log ++ [.watch (s.pid k)] ++ [.start (s.pid k)]) h with
        | error e =>
          simp only [exec, Planned.run, hwr, hsr, har, List.lookup_cons_self, Option.getD_some,
            Progress.pid_mk, Progress.getD_pids]
          rfl
        | ok code =>
          simp only [exec, Planned.run, hwr, hsr, har, List.lookup_cons_self, Option.getD_some,
            Progress.pid_mk, Progress.getD_pids]
  · -- started without a wait
    have hs : (man.entry k).start = true := by simpa [hw] using hgo
    have hstarting : man.starting k = [.start k] := by
      simp [Manifest.starting, hs, hw]
    rw [if_neg hw, hstarting]
    simp only [pure_bind, Responder.syscalls_start, Responder.ask_run_bind]
    cases hsr : R.start s.log (s.pid k) with
    | error e =>
      simp only [exec, Planned.run, hsr]
      rfl
    | ok u =>
      simp only [Responder.syscalls_report, pure_bind, exec, Planned.run, hsr]

theorem startAll_run :
    ∀ d k (s : Progress), k + d = man.programs.length → s.launched.map (·.pid) = s.pids →
      (startAll R.syscalls (man.programs.drop k) k s.launched).run s.log =
        Progress.outcome (exec man R ((List.range' k d).flatMap man.starting) s) := by
  intro d
  induction d with
  | zero =>
    intro k s hkd _
    rw [List.drop_eq_nil_of_le (by omega)]
    rfl
  | succ d ih =>
    intro k s hkd hmap
    have hk : k < man.programs.length := by omega
    rw [Manifest.drop_eq_entry_cons hk, List.range'_succ, List.flatMap_cons, exec_append,
      startAll_cons_run hmap]
    -- the pass goes on from entry `k + 1`, the records still paired with their pids
    have hmap' := @exec_map_pid man R s hmap (man.starting k)
    generalize exec man R (man.starting k) s = r at hmap' ⊢
    obtain ⟨s', _ | e⟩ := r
    · exact ih (k + 1) s' (by omega) hmap'
    · rfl

theorem launch_eq_exec (hc : Checked [] man.programs) :
    (launch R.syscalls man).run [] = Progress.outcome (exec man R man.plan Progress.init) := by
  have hfirst := createAll_run (R := R) hc man.programs.length 0 Progress.init [] (by omega) rfl
    (fun _ h => absurd h (Nat.not_lt_zero _))
  rw [List.drop_zero, ← List.range_eq_range'] at hfirst
  have hfirst' : StateT.run (createAll R.syscalls (man.programs.filterMap fun p =>
      if p.stdinFrom ≠ "" then some p.stdinFrom else none) man.programs [] []) [] =
      Progress.outcome (exec man R ((List.range man.programs.length).flatMap man.creation) Progress.init) :=
    hfirst
  unfold launch
  rw [Manifest.plan, exec_append, StateT.run_bind, hfirst']
  -- the second pass starts from where the first one stopped, if it did not fail
  have hmap := @exec_map_pid man R Progress.init rfl
    ((List.range man.programs.length).flatMap man.creation)
  generalize exec man R ((List.range man.programs.length).flatMap man.creation) Progress.init = r at hmap ⊢
  obtain ⟨s₁, _ | e⟩ := r
  · have hsecond := @startAll_run man R man.programs.length 0 s₁ (by omega) hmap
    rw [List.drop_zero, ← List.range_eq_range'] at hsecond
    exact hsecond
  · rfl

/-! ## What the plan guarantees -/

namespace Manifest

/-- An entry is created to read a pipe when it asks to or reads another entry. -/
theorem request_pipeStdin (i : Nat) :
    (man.request i).pipeStdin = true ↔ (man.entry i).pipeStdin = true ∨ (man.entry i).stdinFrom ≠ "" := by
  simp [request, Program.request]

/-- An entry is created to write a pipe when it asks to or some entry reads from its name. -/
theorem request_pipeStdout (i : Nat) :
    (man.request i).pipeStdout = true ↔
      (man.entry i).pipeStdout = true ∨ ((man.entry i).name ≠ "" ∧ ∃ q ∈ man.programs, q.stdinFrom = (man.entry i).name) := by
  simp only [request, Program.request, producers, Bool.or_eq_true, Bool.and_eq_true, decide_eq_true_eq,
    List.contains_iff_mem, List.mem_filterMap, Option.ite_none_right_eq_some, Option.some.injEq]
  constructor
  · rintro (h | ⟨hne, q, hq, hsrc, heq⟩)
    · exact .inl h
    · exact .inr ⟨hne, q, hq, heq⟩
  · rintro (h | ⟨hne, q, hq, heq⟩)
    · exact .inl h
    · exact .inr ⟨hne, q, hq, heq ▸ hne, heq⟩

/-- The plan's pipes: each joins an entry to its source, an earlier entry of
the name its `stdin_from` gives, the source created to write a pipe and the
entry to read one. -/
theorem pipe_mem_plan (hc : Checked [] man.programs) {j i : Nat} (h : Planned.pipe j i ∈ man.plan) :
    j < i ∧ i < man.programs.length ∧ (man.entry j).name = (man.entry i).stdinFrom ∧
      (man.request j).pipeStdout = true ∧ (man.request i).pipeStdin = true := by
  simp only [plan, List.mem_append, List.mem_flatMap, List.mem_range] at h
  obtain ⟨k, hk, hmem⟩ | ⟨k, hk, hmem⟩ := h
  · -- a pipe of the first pass joins entry `k` to its source
    simp only [creation, List.mem_cons, reduceCtorEq, false_or, Option.mem_toList, Option.map_eq_some_iff,
      Planned.pipe.injEq] at hmem
    obtain ⟨j', hsource, rfl, rfl⟩ := hmem
    have hne : (man.entry k).stdinFrom ≠ "" := by
      intro hempty
      simp [source?, hempty] at hsource
    obtain ⟨j, hjk, hsj, hname⟩ := source?_of_checked hc hk hne
    obtain rfl : j' = j := Option.some.inj (hsource.symm.trans hsj)
    have hmemk : man.entry k ∈ man.programs := by
      rw [entry_eq hk]
      exact List.getElem_mem hk
    refine ⟨hjk, hk, hname, ?_, (request_pipeStdin k).mpr (.inr hne)⟩
    exact (request_pipeStdout j').mpr (.inr ⟨hname ▸ hne, man.entry k, hmemk, hname.symm⟩)
  · -- the second pass has no pipes
    simp only [starting] at hmem
    split at hmem <;> simp at hmem

/-- The plan has no start before any of its pipes. -/
theorem pipe_not_after_start {xs ys : List Planned} (h : man.plan = xs ++ ys) {i : Nat}
    (hs : Planned.start i ∈ xs) (j k : Nat) : Planned.pipe j k ∉ ys := by
  have hnostart : Planned.start i ∉ (List.range man.programs.length).flatMap man.creation := by
    simp [creation]
  have hnopipe : Planned.pipe j k ∉ (List.range man.programs.length).flatMap man.starting := by
    simp only [List.mem_flatMap, starting, not_exists, not_and]
    intro l _
    split <;> simp
  rw [plan] at h
  -- the split falls inside the creations or inside the starts
  rcases List.append_eq_append_iff.mp h with ⟨a, -, hB⟩ | ⟨c, hA, rfl⟩
  · exact fun hp => hnopipe (hB ▸ List.mem_append_right a hp)
  · exact absurd (hA ▸ List.mem_append_left c hs) hnostart

/-- A watch is followed at once by the start of the same entry. -/
theorem watch_then_start {i : Nat} (h : Planned.watch i ∈ man.plan) :
    [Planned.watch i, Planned.start i] <:+: man.plan := by
  simp only [plan, List.mem_append, List.mem_flatMap, List.mem_range] at h
  obtain ⟨k, hk, hmem⟩ | ⟨k, hk, hmem⟩ := h
  · simp [creation] at hmem
  · -- only an entry waited for has a watch, and its start follows
    have hw : (man.entry k).wait = true ∧ k = i := by
      by_cases hw : (man.entry k).wait <;> by_cases hs : (man.entry k).start <;>
        simp_all [starting]
    obtain ⟨hw, rfl⟩ := hw
    have hstarting : man.starting k = [.watch k, .start k, .await k] := by simp [starting, hw]
    have hin : man.starting k <:+: (List.range man.programs.length).flatMap man.starting := by
      rw [List.flatMap_def]
      exact List.infix_of_mem_flatten (List.mem_map.mpr ⟨k, List.mem_range.mpr hk, rfl⟩)
    rw [plan]
    refine List.IsInfix.trans ?_ (hin.trans (List.suffix_append _ _).isInfix)
    rw [hstarting]
    exact (List.prefix_append [Planned.watch k, .start k] [.await k]).isInfix

end Manifest

/-- The supervisor joins two live processes whenever the writer was made to
write a pipe, the reader to read one, and the reader has not started: the
reader's input becomes the writer's output. -/
theorem Act.pipe_joins {m : Machine} {msg : Message} {o i : Record} (hwf : m.table.Wf)
    (ho : m.table.get? msg.outPid = some o) (hi : m.table.get? msg.inPid = some i)
    (hout : o.pipeStdout = true) (hin : i.pipeStdin = true) (hns : i.started = false) :
    ((Act.pipe msg).run m).1 = .answer (Reply.number 0) ∧
      ((Act.pipe msg).run m).2.table.get? msg.inPid = some { i with stdin := o.stdout } := by
  have hpid : (i.pid : Int) = msg.inPid := hwf.pid_of_get? hi
  have hupd : m.table.update msg.inPid (fun r =>
      if r.started then .error (.sys ((SysError.of .targetAlreadyStarted).concerning Op.pipe.name r.pid))
      else .ok { r with stdin := o.stdout }) = .ok (m.table.put msg.inPid { i with stdin := o.stdout }) :=
    Table.update_eq_ok_iff.mpr ⟨i, _, hi, by simp [hns], rfl⟩
  simp [Act.pipe, ho, hi, hout, hin, hpid, hupd, Act.log, Machine.log, Machine.setTable]
  refine ⟨rfl, ?_⟩
  show (m.table.put msg.inPid _).get? msg.inPid = _
  simp [Table.get?_put hi]

/-- A launch of a valid manifest, against any answers, makes the plan's calls
until the first failure and returns what the plan returns. Each entry is
created asking for a pipe on its input when it asks for one or reads another
entry, and on its output when it asks for one or a named entry reads it. Each
pipe of the plan joins an earlier entry of the name the reader gives, created
to write a pipe, to an entry created to read one; no start comes before a pipe;
each watch comes right before its start; and the supervisor joins the records
of such a pipe whenever the reader has not started. -/
theorem launch_follows_plan {man : Manifest} (hv : man.problem = none) (R : Responder) :
    (launch R.syscalls man).run [] = Progress.outcome (exec man R man.plan Progress.init) ∧
    (∀ i, ((man.request i).pipeStdin = true ↔
        (man.entry i).pipeStdin = true ∨ (man.entry i).stdinFrom ≠ "") ∧
      ((man.request i).pipeStdout = true ↔ (man.entry i).pipeStdout = true ∨
        ((man.entry i).name ≠ "" ∧ ∃ q ∈ man.programs, q.stdinFrom = (man.entry i).name))) ∧
    (∀ j i, Planned.pipe j i ∈ man.plan →
      j < i ∧ (man.entry j).name = (man.entry i).stdinFrom ∧
        (man.request j).pipeStdout = true ∧ (man.request i).pipeStdin = true ∧
        ∀ (m : Machine) (msg : Message) (o r : Record), m.table.Wf →
          m.table.get? msg.outPid = some o → m.table.get? msg.inPid = some r →
          o.pipeStdout = (man.request j).pipeStdout → r.pipeStdin = (man.request i).pipeStdin →
          r.started = false →
          ((Act.pipe msg).run m).1 = .answer (Reply.number 0) ∧
            ((Act.pipe msg).run m).2.table.get? msg.inPid = some { r with stdin := o.stdout }) ∧
    (∀ xs ys i j k, man.plan = xs ++ ys → Planned.start i ∈ xs → Planned.pipe j k ∉ ys) ∧
    (∀ i, Planned.watch i ∈ man.plan → [Planned.watch i, Planned.start i] <:+: man.plan) := by
  have hc : Checked [] man.programs := checked_of_go hv
  refine ⟨launch_eq_exec hc, fun i => ⟨Manifest.request_pipeStdin i, Manifest.request_pipeStdout i⟩,
    fun j i hp => ?_, fun xs ys i j k h hs => Manifest.pipe_not_after_start h hs j k,
    fun i hw => Manifest.watch_then_start hw⟩
  obtain ⟨hji, -, hname, hout, hin⟩ := Manifest.pipe_mem_plan hc hp
  refine ⟨hji, hname, hout, hin, fun m msg o r hwf ho hr hro hri hns => ?_⟩
  exact Act.pipe_joins hwf ho hr (hro.trans hout) (hri.trans hin) hns

/-- Two entries, the second reading the first and waited for, launched against
a supervisor that gives pids in order and accepts every call. -/
theorem launch_follows_plan_pair :
    let man : Manifest := ⟨[⟨"src", "/bin/src", [], "", false, false, "", false, false⟩,
      ⟨"", "/bin/sink", [], "", false, false, "src", true, true⟩]⟩
    let R : Responder := ⟨fun log _ => .ok (log.length + 1), fun _ _ _ => .ok (), fun _ _ => .ok (),
      fun _ _ => .ok 0, fun _ _ => .ok 0⟩
    man.problem = none ∧
      (launch R.syscalls man).run [] = Progress.outcome (exec man R man.plan Progress.init) :=
  ⟨rfl, (launch_follows_plan rfl _).1⟩

end Boot

end Userland
