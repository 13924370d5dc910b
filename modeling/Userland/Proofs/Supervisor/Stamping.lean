import Userland.Proofs.Supervisor.Move

/-! # Whose process a unit's request reaches

A unit registered to process `p` posts what its process sends through the
handler installed at registration: the supervisor's, which stamps `p` on each
request and queues it (`post_stamps`). Nothing else in the request says who
sent it. When the request is served it is applied to the process that holds
`p` at that moment; an exit request ends that process, frees its slot,
releases its waiters and closes its outputs (`Act.exit_ends_holder`), whichever
unit the process is registered to.

Freeing a slot moves the cursor onto it, so the number of a killed process is
the next one handed out (`Table.Wf.free_then_allocate`). A unit that was killed
but still posts an exit request therefore ends the next process created
(`stale_exit_ends_successor`). `posted_exit_ends_holder` says exactly what a
posted exit request does: it leaves other units' processes alone only while
the process holding the stamped number is the sender's own.
-/

namespace Userland

namespace Act

variable {m : Machine}

/-- A unit whose handler is the supervisor's, stamped with `p`, queues what its
process sends with `p` as the sender, while the inbox is open. -/
theorem post_stamps {id : String} {u : ExecUnit} {p : Nat} (hu : m.unit? id = some u)
    (hh : u.handler = .supervisor p) (hopen : m.supervisor.closed = false) (msg : Message) :
    ((post id msg).run m).2 =
      { m with supervisor := { m.supervisor with
        inbox := m.supervisor.inbox ++ [.request { msg with pid := p }] } } := by
  have hsubmit : m.submit (.request { msg with pid := p }) =
      .ok { m with supervisor := { m.supervisor with
        inbox := m.supervisor.inbox ++ [.request { msg with pid := p }] } } := by
    simp [Machine.submit, hopen]
  simp [post, hu, hh, hsubmit]
  rfl

variable (hwf : m.table.Wf)

include hwf in
/-- Serving an exit request ends the process that holds the number it carries. -/
theorem dispatch_exit_ends_holder {msg : Message} (hop : msg.op = .exit) {r : Record}
    (hr : m.table.get? msg.pid = some r) :
    ∃ t, m.table.free r.pid = .ok t ∧ Ends (dispatch msg) m (· = m.endedView r t) := by
  obtain ⟨t, hfree, -⟩ := exit_ends_holder hwf msg hr
  refine ⟨t, hfree, ?_⟩
  have hh : handlerFor msg = some (exit msg) := by simp [handlerFor, hop]
  refine Ends.dispatch_handler hh fun m₁ hv₁ => ?_
  have ht₁ : m₁.table = m.table := congrArg View.table hv₁
  obtain ⟨t₁, hfree₁, hend₁⟩ := exit_ends_holder (ht₁ ▸ hwf) msg (ht₁ ▸ hr)
  rw [ht₁, hfree, Except.ok.injEq] at hfree₁
  subst hfree₁
  exact hend₁.trans (Machine.endedView_congr _ hv₁ r t)

include hwf in
/-- A unit stamped with `p` posts an exit request to an idle supervisor, and the
request is served: the process that holds `p` then ends, whichever unit it is
registered to. -/
theorem posted_exit_ends_holder {id : String} {p : Nat}
    (hstamp : (m.unit? id).map (·.handler) = some (.supervisor p))
    (hopen : m.supervisor.closed = false) (hidle : m.supervisor.inbox = [])
    (hlive : (m.table.get? p).isSome) {msg : Message} (hop : msg.op = .exit) :
    ∃ r t, m.table.get? p = some r ∧ m.table.free p = .ok t ∧
      ((post id msg >>= fun _ => serveOne).run m).2.view = m.endedView r t := by
  obtain ⟨u, hu, hh⟩ : ∃ u, m.unit? id = some u ∧ u.handler = .supervisor p := by
    cases hu : m.unit? id with
    | none => simp [hu] at hstamp
    | some u => exact ⟨u, rfl, by simpa [hu] using hstamp⟩
  obtain ⟨r, hr⟩ := Option.isSome_iff_exists.mp hlive
  have hpid : (r.pid : Int) = p := hwf.pid_of_get? hr
  -- the stamped request is the one item of the inbox; serving it dispatches it
  let m₁ : Machine := { m with supervisor := { m.supervisor with inbox := [] } }
  have hop₁ : ({ msg with pid := p } : Message).op = .exit := hop
  have hr₁ : m₁.table.get? ({ msg with pid := p } : Message).pid = some r := hr
  obtain ⟨t, hfree, hend⟩ := dispatch_exit_ends_holder (show m₁.table.Wf from hwf) hop₁ hr₁
  refine ⟨r, t, hr, hpid ▸ hfree, ?_⟩
  rw [← Machine.endedView_congr _ (show m₁.view = m.view from rfl)]
  show Ends (post id msg >>= fun _ => serveOne) m (· = m₁.endedView r t)
  refine Ends.bind ?_
  rw [post_stamps hu hh hopen msg, hidle, List.nil_append]
  unfold serveOne
  exact Ends.get_bind (Ends.modify_bind (Ends.bind hend))

/-- Unit `u1` was killed and process 1 handed to unit `u2`, as a kill and the
next creation leave them. -/
def successorSample : Machine :=
  Machine.setTable
    ((((((Machine.new (SupervisorConfig.withDefaults 3 0 0 false "") (.scripted [] true) .none []).addUnit
      (ExecUnit.fresh "u1" true)).installHandler "u1" (.supervisor 1)).terminate "u1").addUnit
      (ExecUnit.fresh "u2" true)).installHandler "u2" (.supervisor 1))
    ((Table.new 3).run [.allocate { (default : Spec) with path := "/bin/b" } default 0, .register 1 "u2"])

/-- An exit request `u1` still posts ends process 1, now `u2`'s. -/
theorem posted_exit_ends_successor :
    ∃ r t, successorSample.table.get? 1 = some r ∧ successorSample.table.free 1 = .ok t ∧
      ((post "u1" { Message.of .exit with code := 5 } >>= fun _ => serveOne).run successorSample).2.view =
        successorSample.endedView r t := by
  have hwf : successorSample.table.Wf :=
    (Table.wf_new 3).run _ fun c hc => by
      simp only [List.mem_cons, List.not_mem_nil, or_false] at hc
      rcases hc with rfl | rfl <;> trivial
  exact posted_exit_ends_holder hwf (by decide +kernel) (by decide +kernel) (by decide +kernel)
    (by decide +kernel) rfl

/-- Process 1 was killed and its number handed to a new process, registered to
unit `u2`, while the killed process's unit `u1` still posts: its exit request
ends the new process. -/
theorem stale_exit_ends_successor :
    ¬ ∀ (m : Machine) (id : String) (p : Nat) (msg : Message),
      (m.unit? id).map (·.handler) = some (.supervisor p) → msg.op = .exit →
      (m.table.get? p).map (·.unit) ≠ some (some id) →
      (((post id msg >>= fun _ => serveOne).run m).2.table.get? p).isSome = (m.table.get? p).isSome := by
  intro hall
  have hkeep := hall successorSample "u1" 1 { Message.of .exit with code := 5 } (by decide +kernel) rfl
    (by decide +kernel)
  exact absurd hkeep (by decide +kernel)

end Act

end Userland
