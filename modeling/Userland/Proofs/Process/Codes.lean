import Userland.Task.World
import Userland.Proofs.Signal.Channel

/-! # Error codes across the reply channel

A failed request is answered with the code of its error: the code of the
protocol error beneath all contexts, or the code of `external` for a failure
from elsewhere (`Fault.code`). The client reads an error reply back as the
protocol error of its code (`SysError.ofCode?`): a listed code reads as its own
error, any other negative code as `unknown`, and a code of zero or more as no
error at all.

`Fault.isErrno f e` is how a caller asks whether a failure is the protocol
error `e`, under any contexts. A protocol error is exactly the listed error of
its code, so the error read back is the error of the code sent
(`receive_error_reply`): it has the same code, and it is the same protocol
error whenever the failure sent was one. A failure from elsewhere is no
protocol error, but it is read back as `external`.
-/

namespace Userland

namespace Errno

theorem code_neg (e : Errno) : e.code < 0 := by
  cases e <;> decide

theorem code_inj {e e' : Errno} (h : e.code = e'.code) : e = e' := by
  cases e <;> cases e' <;> first | rfl | simp [code] at h

theorem mem_all (e : Errno) : e ∈ all := by
  cases e <;> decide

@[simp] theorem ofCode?_code (e : Errno) : ofCode? e.code = some e := by
  cases e <;> rfl

theorem ofCode?_eq_some_iff {c : Int} {e : Errno} : ofCode? c = some e ↔ e.code = c := by
  constructor
  · intro h
    simpa using List.find?_some h
  · rintro rfl
    exact ofCode?_code e

theorem ofCode?_eq_none_iff {c : Int} : ofCode? c = none ↔ ∀ e : Errno, e.code ≠ c := by
  simp only [ofCode?, List.find?_eq_none, beq_iff_eq]
  exact ⟨fun h e => h e (mem_all e), fun h e _ => h e⟩

end Errno

namespace SysError

theorem ofCode?_of_nonneg {c : Int} (h : 0 ≤ c) : ofCode? c = none := by
  simp [ofCode?, h]

@[simp] theorem ofCode?_code (e : Errno) : ofCode? e.code = some (of e) := by
  simp [ofCode?, (Errno.code_neg e).not_ge]

theorem ofCode?_unlisted {c : Int} (hc : c < 0) (h : ∀ e : Errno, e.code ≠ c) :
    ofCode? c = some ((of .unknown).withMsg ("unknown error code " ++ toString c)) := by
  simp [ofCode?, hc.not_ge, Errno.ofCode?_eq_none_iff.mpr h]

end SysError

namespace Fault

@[simp] theorem sysError?_sys (e : SysError) : (sys e).sysError? = some e := rfl

@[simp] theorem sysError?_wrap (ctx : String) (f : Fault) : (wrap ctx f).sysError? = f.sysError? := rfl

theorem code_of_sysError? {f : Fault} {e : SysError} (h : f.sysError? = some e) : f.code = e.errno.code := by
  simp [code, h]

theorem code_of_foreign {f : Fault} (h : f.sysError? = none) : f.code = Errno.external.code := by
  simp [code, h]

/-- Every fault's code is a listed one. -/
theorem ofCode?_code (f : Fault) : ∃ e : Errno, e.code = f.code := by
  cases h : f.sysError? with
  | some s => exact ⟨s.errno, (code_of_sysError? h).symm⟩
  | none => exact ⟨.external, (code_of_foreign h).symm⟩

/-- A protocol error, under any contexts, is exactly the listed error of its code. -/
theorem isErrno_iff_code {f : Fault} (h : f.sysError?.isSome) (e : Errno) :
    f.isErrno e ↔ e.code = f.code := by
  obtain ⟨s, hs⟩ := Option.isSome_iff_exists.mp h
  rw [code_of_sysError? hs]
  simp only [isErrno, hs, beq_iff_eq]
  exact ⟨fun h => h ▸ rfl, fun h => (Errno.code_inj h).symm⟩

/-- A failure from elsewhere is no protocol error. -/
theorem isErrno_foreign {f : Fault} (h : f.sysError? = none) (e : Errno) : f.isErrno e = false := by
  simp [isErrno, h]

end Fault

/-- The code of what a negative code reads back as: the code itself when it is
listed, and that of `unknown` when it is not. -/
theorem code_read_back {c : Int} (hc : c < 0) :
    ((SysError.ofCode? c).map Fault.sys).map Fault.code =
      some (if c ∈ Errno.all.map Errno.code then c else Errno.unknown.code) := by
  cases hcode : Errno.ofCode? c with
  | some e =>
    obtain rfl := Errno.ofCode?_eq_some_iff.mp hcode
    have hmem : e.code ∈ Errno.all.map Errno.code := List.mem_map.mpr ⟨e, Errno.mem_all e, rfl⟩
    rw [SysError.ofCode?_code, if_pos hmem]
    rfl
  | none =>
    have hmem : c ∉ Errno.all.map Errno.code := fun h => by
      obtain ⟨e, -, he⟩ := List.mem_map.mp h
      exact Errno.ofCode?_eq_none_iff.mp hcode e he
    rw [SysError.ofCode?_unlisted hc (Errno.ofCode?_eq_none_iff.mp hcode), if_neg hmem]
    rfl

/-- A failure sent as its code reads back as the protocol error of that code:
one with the same code, which is exactly the listed error of that code. -/
theorem read_back_code (f : Fault) :
    ∃ g, (SysError.ofCode? f.code).map Fault.sys = some g ∧ g.code = f.code ∧
      ∀ e, g.isErrno e ↔ e.code = f.code := by
  obtain ⟨e₀, he₀⟩ := f.ofCode?_code
  refine ⟨.sys (SysError.of e₀), by rw [← he₀, SysError.ofCode?_code]; rfl, ?_, ?_⟩
  · rw [Fault.code_of_sysError? (Fault.sysError?_sys _), ← he₀]
    rfl
  · intro e
    rw [Fault.isErrno_iff_code (by simp), Fault.code_of_sysError? (Fault.sysError?_sys _), ← he₀]
    rfl

/-- A client woken with an error reply at the front of its signal reads it,
and answers with the protocol error of its code. -/
theorem Client.receive_error_reply (c : Client) (op : Op) {sig : Nat} {m : Machine} {σ : SignalSpec}
    {code : Int} {rest : List Reply} (hs : (m.signal sig).Carries σ)
    (hq : σ.queue.replies = Reply.errno code :: rest) :
    ∃ m', (c.receive op sig).advance m =
      .finished ⟨some (Reply.errno code), (SysError.ofCode? code).map .sys⟩ m' := by
  have hread : (m.signal sig).read.1 = some (Reply.errno code) := by
    have h := hs.read.1
    simp only [Signal.call, SignalSpec.call, ReplyQueue.read, hq] at h
    injection h
  refine ⟨m.setSignal sig (m.signal sig).read.2, ?_⟩
  simp [Client.receive, Prog.atomic, bind, Prog.bind, pure, Prog.advance, hread, Reply.errno, Reply.isErr,
    Reply.kind, Reply.num]

end Userland
