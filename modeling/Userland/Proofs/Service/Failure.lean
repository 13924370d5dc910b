import Userland.Service.Remote
import Userland.Proofs.Json.Read
import Userland.Proofs.Process.Codes

/-! # A failure's identity over HTTP and the reply channel

A failure reaches a caller in one of two ways. A request to the supervisor is
answered on the caller's signal with the failure's code, which the client
reads back as the protocol error of that code (`read_back_code`). A request
to the service over HTTP is answered through an abort that writes an error
status and a JSON envelope holding the failure's text and, unless it is
`external`, its code (`ApiError.failWith`). Over any transport that keeps the
status and hands the client back the JSON written, the client reads the
failure back (`Remote.failureOf_failWith`), and the code it reads stands for
the protocol error the failure was (`CallError.isErrno_api`).

Reading the envelope back rests on the envelope, a flat object of a flag, a
string and a listed code, reading back from its JSON text.
`failure_identity` puts the two ways together.
-/

namespace Userland

open Json in
/-- A listed code reads back from its text, when a comma or a closing brace follows. -/
theorem Errno.readsBack_code (e : Errno) : ReadsBack (.int e.code) := by
  intro n c r hc
  rcases hc with rfl | rfl <;> cases e <;>
    simp [render, code, Int.repr_eq_if, Nat.toList_repr, Nat.toDigits, Nat.toDigitsCore, Nat.digitChar,
      readValue, skipBlanks, isBlank, readNumber, spanDigits, readNumberTail, String.toNat!,
      String.Slice.toNat!, String.Slice.isNat, String.Slice.foldl_eq_foldl_toList, String.copy_toSlice]

namespace Service

namespace ApiError

/-- Whether a failure answered over HTTP is the protocol error `e`, under any contexts. -/
def isErrno : ApiError → Errno → Bool
  | .fault f, e => f.isErrno e
  | .terminal _, _ => false

/-- Every failure is answered with an error status, which carries a body. -/
theorem status_ge (e : ApiError) : 400 ≤ e.status := by
  cases e with
  | terminal t => cases t <;> simp [status]
  | fault f =>
    simp only [status]
    split
    · split <;> omega
    · split <;> omega

/-- A failure's code, when it sends one, is a listed one. -/
theorem code?_listed {e : ApiError} {c : Int} (h : e.code? = some c) : ∃ s : Errno, s.code = c := by
  cases e with
  | terminal t => simp [code?] at h
  | fault f =>
    simp only [code?] at h
    split at h
    · cases h
    · cases h
      exact f.ofCode?_code

/-- The envelope reads back from its text. -/
theorem parse_body (e : ApiError) : Json.parse e.body.render = .ok e.body := by
  apply Json.parse_render_obj
  intro p hp
  simp only [List.cons_append, List.nil_append, List.mem_cons] at hp
  rcases hp with rfl | rfl | hp
  · exact Json.readsBack_bool false
  · exact Json.readsBack_str _
  · cases hc : e.code? with
    | none => simp [hc] at hp
    | some c =>
      simp only [hc, List.mem_cons, List.not_mem_nil, or_false] at hp
      subst hp
      obtain ⟨s, rfl⟩ := code?_listed hc
      exact s.readsBack_code

/-- The envelope's message member is the failure's text. -/
theorem body_get_error (e : ApiError) : e.body.get? "error" = some (.str e.message) := by
  cases hc : e.code? <;> simp [body, hc, Json.get?, Json.field?]

/-- The envelope's code member is the failure's code, when it sends one. -/
theorem body_get_code (e : ApiError) : e.body.get? "code" = e.code?.map .int := by
  cases hc : e.code? <;> simp [body, hc, Json.get?, Json.field?]

end ApiError

namespace Remote

/-- A failure answered through a transport whose abort writes the status it is
given and whose reader gives back the JSON written, when that reads back from
its text, is read as a failure of the service with the same status, the same
text and the code sent, or 0 when none is sent. -/
theorem failureOf_failWith {R : Type} {abort : Nat → Json → R} {status : R → Nat} {body : R → Json}
    (keeps_status : ∀ s j, status (abort s j) = s)
    (reads_body : ∀ s j, Json.parse j.render = .ok j → body (abort s j) = j) (e : ApiError) :
    failureOf (status (e.failWith abort)) (body (e.failWith abort)) =
      .api e.status e.message (e.code?.getD 0) := by
  rw [ApiError.failWith, keeps_status, reads_body _ _ e.parse_body]
  simp only [failureOf, e.body_get_error, e.body_get_code]
  cases e.code? <;> rfl

end Remote

/-- A failure read back stands for the protocol error it was sent as, unless
that was `external`, whose code is not sent. -/
theorem CallError.isErrno_api (e : ApiError) (s : Errno) :
    (CallError.api e.status e.message (e.code?.getD 0)).isErrno s = (e.isErrno s && s != .external) := by
  cases e with
  | terminal t => simp [ApiError.code?, CallError.isErrno, CallError.unwrap, ApiError.isErrno]
  | fault f =>
    by_cases hf : f.code = Errno.external.code
    · -- no code is sent: only a protocol error `external` had one to lose
      have hsent : (ApiError.fault f).code? = none := by simp [ApiError.code?, hf]
      rw [hsent]
      cases hs : f.sysError? with
      | none => simp [CallError.isErrno, CallError.unwrap, ApiError.isErrno, Fault.isErrno_foreign hs]
      | some se =>
        have hiff := Fault.isErrno_iff_code (f := f) (by simp [hs]) s
        rw [hf] at hiff
        by_cases hse : s = .external
        · simp [CallError.isErrno, CallError.unwrap, hse]
        · have hno : f.isErrno s = false := by
            rw [Bool.eq_false_iff]
            exact fun h => hse (Errno.code_inj (hiff.mp h))
          simp [CallError.isErrno, CallError.unwrap, ApiError.isErrno, hno]
    · -- the code is sent, and it is a protocol error's
      have hsent : (ApiError.fault f).code? = some f.code := by simp [ApiError.code?, hf]
      have hsys : f.sysError?.isSome := by
        cases hs : f.sysError? with
        | none => exact absurd (Fault.code_of_foreign hs) hf
        | some _ => rfl
      obtain ⟨e₀, he₀⟩ := f.ofCode?_code
      have hneg : f.code < 0 := he₀ ▸ e₀.code_neg
      have hunwrap : (CallError.api (ApiError.fault f).status (ApiError.fault f).message f.code).unwrap =
          some (SysError.of e₀) := by
        rw [CallError.unwrap, if_pos hneg, ← he₀, SysError.ofCode?_code]
      rw [hsent, Option.getD_some, CallError.isErrno, hunwrap, ApiError.isErrno]
      apply Bool.eq_iff_iff.mpr
      rw [Bool.and_eq_true, Fault.isErrno_iff_code hsys, bne_iff_ne, SysError.of, beq_iff_eq]
      constructor
      · rintro rfl
        exact ⟨he₀, fun h => hf (he₀ ▸ h ▸ rfl)⟩
      · rintro ⟨hc, -⟩
        exact Errno.code_inj (he₀.trans hc.symm)

end Service

/-- A failure keeps its identity on both ways back to a caller. A code reads
back as no error when it is zero or more, and otherwise as a protocol error
whose code is the code itself when listed and that of `unknown` when not. A
failed request is answered with its code: the client that reads that reply
gets the protocol error of the code, with the same code and exactly the listed
error of that code, which is the failure itself whenever it was a protocol
error. A failure answered over HTTP on a fresh response keeps its status, and
the client reads back its text and the code sent; the protocol error that
stands for is the failure's own, unless it was `external`, whose code is not
sent. -/
theorem failure_identity :
    (∀ c : Int, 0 ≤ c → SysError.ofCode? c = none) ∧
    (∀ c : Int, c < 0 → ((SysError.ofCode? c).map Fault.sys).map Fault.code =
      some (if c ∈ Errno.all.map Errno.code then c else Errno.unknown.code)) ∧
    (∀ (f : Fault) (cl : Client) (op : Op) (sig : Nat) (m : Machine) (σ : SignalSpec) (rest : List Reply),
      (m.signal sig).Carries σ → σ.queue.replies = Reply.errno f.code :: rest →
      ∃ m' g, (cl.receive op sig).advance m = .finished ⟨some (Reply.errno f.code), some g⟩ m' ∧
        g.code = f.code ∧ (∀ e, g.isErrno e ↔ e.code = f.code) ∧
        (f.sysError?.isSome → ∀ e, g.isErrno e = f.isErrno e)) ∧
    (∀ {R : Type} (abort : Nat → Json → R) (status : R → Nat) (body : R → Json)
      (keeps_status : ∀ s j, status (abort s j) = s)
      (reads_body : ∀ s j, Json.parse j.render = .ok j → body (abort s j) = j) (e : Service.ApiError),
      status (e.failWith abort) = e.status ∧ 400 ≤ e.status ∧
        Service.Remote.failureOf (status (e.failWith abort)) (body (e.failWith abort)) =
          .api e.status e.message (e.code?.getD 0) ∧
        ∀ s, (Service.CallError.api e.status e.message (e.code?.getD 0)).isErrno s =
          (e.isErrno s && s != .external)) := by
  refine ⟨fun c hc => SysError.ofCode?_of_nonneg hc, fun c hc => code_read_back hc,
    fun f cl op sig m σ rest hs hq => ?_, fun abort status body hst hbody e =>
      ⟨hst _ _, e.status_ge, Service.Remote.failureOf_failWith hst hbody e, Service.CallError.isErrno_api e⟩⟩
  -- the reply is read, and its code reads back as the protocol error of that code
  obtain ⟨m', hm'⟩ := Client.receive_error_reply cl op hs hq
  obtain ⟨g, hg, hcode, hiff⟩ := read_back_code f
  refine ⟨m', g, by rw [hm', hg], hcode, hiff, fun hsys e => ?_⟩
  exact Bool.eq_iff_iff.mpr ((hiff e).trans (Fault.isErrno_iff_code hsys e).symm)

/-- Through a transport that hands over the status and the JSON as they are,
an HTTP failure for a process that is not there is read back with its status,
its text and its code. -/
theorem no_such_process_read_back :
    Service.Remote.failureOf 404 (Service.ApiError.fault (.sys (SysError.of .noSuchProcess))).body =
      .api 404 "no such process" (-2) :=
  (failure_identity.2.2.2 Prod.mk Prod.fst Prod.snd (fun _ _ => rfl) (fun _ _ _ => rfl)
    (.fault (.sys (SysError.of .noSuchProcess)))).2.2.1

/-- A failure from elsewhere is no protocol error, yet its code, that of
`external`, reads back as the protocol error `external`. -/
theorem foreign_reads_back_external :
    (Fault.other "boom").isErrno .external = false ∧
      ((SysError.ofCode? (Fault.other "boom").code).map Fault.sys).map (·.isErrno .external) = some true :=
  ⟨rfl, rfl⟩

end Userland
