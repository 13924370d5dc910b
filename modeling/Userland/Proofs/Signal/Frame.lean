import Mathlib.Tactic.Ring
import Userland.Signal.Basic
import Userland.Proofs.Pipe.Refinement

/-! # Reading reply frames back

A reader takes a reply's frame back whole from a ring whose unread bytes start
with it (`Ring.Refines.decode_encode`), for every reply it knows
(`Reply.Known`): a number of kind `n` or `e` in the 64-bit signed range, or a
text. The zig-zag form of such a number fits in 64 unsigned bits, so its
base-128 form has at most ten bytes and at most one bit in the tenth, which is
what the reader accepts (`Ring.Refines.readUvarint_uvarint`). An empty ring
gives nothing and stays as it was (`Ring.Refines.decode_nil`).
-/

namespace Userland

namespace Reply

/-- A reply whose frame a reader takes back whole: a number of kind `n` or `e`
in the 64-bit signed range, or a text shorter than 2^64 bytes. -/
def Known : Reply → Prop
  | .text bs => bs.length < 2 ^ 64
  | .tagged k n => (k = kindNumber ∨ k = kindErrno) ∧ -2 ^ 63 ≤ n ∧ n < 2 ^ 63

instance : DecidablePred Known := fun r => by
  cases r <;> unfold Known <;> infer_instance

end Reply

namespace Frame

@[simp] theorem unzigzag_zigzag (n : Int) : unzigzag (zigzag n) = n := by
  unfold unzigzag zigzag
  split <;> split <;> omega

/-- A number in the 64-bit signed range has a zig-zag form in the unsigned one. -/
theorem zigzag_lt {n : Int} (h₁ : -2 ^ 63 ≤ n) (h₂ : n < 2 ^ 63) : zigzag n < 2 ^ 64 := by
  unfold zigzag
  split <;> omega

theorem uvarint_of_lt {n : Nat} (h : n < 128) : uvarint n = [n.toUInt8] := by
  rw [uvarint, if_pos h]

theorem uvarint_of_ge {n : Nat} (h : 128 ≤ n) :
    uvarint n = (n % 128 + 128).toUInt8 :: uvarint (n / 128) := by
  rw [uvarint, if_neg (by omega)]

end Frame

namespace Ring

variable {r : Ring} {q : ByteQueue}

/-- The byte a reader takes is the front of the queue. -/
theorem Refines.takeByte_cons (h : r.Refines q) {b : UInt8} {rest : List UInt8}
    (hq : q.bytes = b :: rest) :
    ∃ r', Frame.takeByte r = some (b, r') ∧ r'.Refines (q.dropFront 1) := by
  obtain ⟨hdata, -, hring⟩ := h.readAvailable 1
  have hget : q.readAvailable 1 = ⟨[b], q.dropFront 1, none⟩ := by
    simp [ByteQueue.readAvailable, hq]
  rw [hget] at hdata hring
  unfold Frame.takeByte
  cases hg : r.readAvailable 1 with
  | mk data r' stop =>
    rw [hg] at hdata hring
    subst hdata
    exact ⟨r', rfl, hring⟩

/-- A reader takes nothing from an empty queue. -/
theorem Refines.takeByte_nil (h : r.Refines q) (hq : q.bytes = []) : Frame.takeByte r = none := by
  obtain ⟨hdata, -, -⟩ := h.readAvailable 1
  have hnone : (q.readAvailable 1).data = [] := by simp [ByteQueue.readAvailable, hq]
  unfold Frame.takeByte
  cases hg : r.readAvailable 1 with
  | mk data r' stop =>
    rw [hg, hnone] at hdata
    subst hdata
    rfl

/-- The base-128 form of `n` at the front of the queue is read whole, when `i`
bytes of the number were read before it and the whole still fits in 64 bits. -/
theorem Refines.readUvarint_uvarint (h : r.Refines q) {n i : Nat} {rest : List UInt8}
    (hq : q.bytes = Frame.uvarint n ++ rest) (hi : i < 10) (hn : n * 128 ^ i < 2 ^ 64) (x : Nat) :
    ∃ r', Frame.readUvarint r i x = (some (x + n * 128 ^ i), r') ∧
      r'.Refines (q.dropFront (Frame.uvarint n).length) := by
  -- on the number: each byte but the last carries seven bits and leaves `n / 128`
  induction n using Nat.strong_induction_on generalizing r q i x with
  | _ n ih =>
  by_cases hsmall : n < 128
  · rw [Frame.uvarint_of_lt hsmall] at hq ⊢
    obtain ⟨r', htake, hr'⟩ := h.takeByte_cons hq
    have hb : n.toUInt8.toNat = n := by simp; omega
    have hlt : n.toUInt8 < 128 := by rw [UInt8.lt_iff_toNat_lt, hb]; simpa using hsmall
    -- a tenth byte carries one bit at most, as the bound on `n` says
    have hlast : (i = 9 && decide (n.toUInt8 > 1)) = false := by
      by_cases h9 : i = 9
      · subst h9
        have : n ≤ 1 := by
          by_contra hgt
          have : 2 * 128 ^ 9 ≤ n * 128 ^ 9 := Nat.mul_le_mul_right _ (by omega)
          omega
        simp [UInt8.lt_iff_toNat_lt, hb, this]
      · simp [h9]
    refine ⟨r', ?_, hr'⟩
    rw [Frame.readUvarint, dif_pos hi, htake]
    simp only [hlt, if_true, hlast, Bool.false_eq_true, if_false, hb, Nat.pow_eq]
  · have hbig : 128 ≤ n := by omega
    rw [Frame.uvarint_of_ge hbig, List.cons_append] at hq
    rw [Frame.uvarint_of_ge hbig]
    obtain ⟨r₁, htake, hr₁⟩ := h.takeByte_cons hq
    -- more bytes follow, so this one was not the tenth
    have hi' : i + 1 < 10 := by
      by_contra hge
      have h9 : i = 9 := by omega
      subst h9
      have : 128 * 128 ^ 9 ≤ n * 128 ^ 9 := Nat.mul_le_mul_right _ hbig
      omega
    have hn' : n / 128 * 128 ^ (i + 1) < 2 ^ 64 := by
      have : n / 128 * 128 ^ (i + 1) ≤ n * 128 ^ i := by
        rw [Nat.pow_succ, ← Nat.mul_assoc, Nat.mul_comm (n / 128) (128 ^ i), Nat.mul_assoc,
          Nat.mul_comm n]
        exact Nat.mul_le_mul_left _ (Nat.div_mul_le_self n 128)
      omega
    obtain ⟨r', hread, hr'⟩ := ih (n / 128) (by omega) hr₁ (by simp [hq]) hi' hn'
      (x + n % 128 * 128 ^ i)
    have hb : ((n % 128 + 128).toUInt8).toNat - 128 = n % 128 := by simp; omega
    have hge : ¬ (n % 128 + 128).toUInt8 < 128 := by rw [UInt8.lt_iff_toNat_lt]; simp; omega
    have hsum : x + n % 128 * 128 ^ i + n / 128 * 128 ^ (i + 1) = x + n * 128 ^ i := by
      have hdiv := Nat.div_add_mod n 128
      rw [Nat.pow_succ]
      calc x + n % 128 * 128 ^ i + n / 128 * (128 ^ i * 128)
          = x + (128 * (n / 128) + n % 128) * 128 ^ i := by ring
        _ = x + n * 128 ^ i := by rw [hdiv]
    refine ⟨r', ?_, ?_⟩
    · rw [Frame.readUvarint, dif_pos hi, htake]
      simp only [hge, if_false, hb, Nat.pow_eq, hread, hsum]
    · simpa [Nat.add_comm] using hr'

/-- An empty ring gives no reply and stays as it was. -/
theorem Refines.decode_nil (h : r.Refines q) (hq : q.bytes = []) : Frame.decode r = (none, r) := by
  simp [Frame.decode, h.takeByte_nil hq]

/-- The frame of a known reply at the front of the queue is read back whole. -/
theorem Refines.decode_encode (h : r.Refines q) {rep : Reply} (hk : rep.Known) {rest : List UInt8}
    (hq : q.bytes = Frame.encode rep ++ rest) :
    ∃ r', Frame.decode r = (some rep, r') ∧ r'.Refines (q.dropFront (Frame.encode rep).length) := by
  cases rep with
  | tagged k n =>
    obtain ⟨hkind, hlo, hhi⟩ := hk
    simp only [Frame.encode, List.cons_append] at hq
    obtain ⟨r₁, htake, hr₁⟩ := h.takeByte_cons hq
    have hq₁ : (q.dropFront 1).bytes = Frame.uvarint (Frame.zigzag n) ++ rest := by simp [hq]
    have hfit : Frame.zigzag n * 128 ^ 0 < 2 ^ 64 := by simpa using Frame.zigzag_lt hlo hhi
    obtain ⟨r', hread, hr'⟩ := hr₁.readUvarint_uvarint hq₁ (by norm_num) hfit 0
    have hk : (k = Reply.kindNumber || k = Reply.kindErrno) = true := by simpa using hkind
    refine ⟨r', ?_, ?_⟩
    · simp only [Frame.decode, htake, hk, if_true, hread, Nat.zero_add, pow_zero, Nat.mul_one,
        Frame.unzigzag_zigzag]
    · simpa [Frame.encode, Nat.add_comm] using hr'
  | text bs =>
    simp only [Frame.encode, List.cons_append, List.append_assoc] at hq
    obtain ⟨r₁, htake, hr₁⟩ := h.takeByte_cons hq
    have hq₁ : (q.dropFront 1).bytes = Frame.uvarint bs.length ++ (bs ++ rest) := by simp [hq]
    have hfit : bs.length * 128 ^ 0 < 2 ^ 64 := by simpa [Reply.Known] using hk
    obtain ⟨r₂, hread, hr₂⟩ := hr₁.readUvarint_uvarint hq₁ (by norm_num) hfit 0
    have hq₂ : ((q.dropFront 1).dropFront (Frame.uvarint bs.length).length).bytes = bs ++ rest := by
      rw [ByteQueue.dropFront_bytes, hq₁, List.drop_left]
    have hkind : (Reply.kindText = Reply.kindNumber || Reply.kindText = Reply.kindErrno) = false := by
      decide
    -- the length, then that many bytes
    cases bs with
    | nil =>
      refine ⟨r₂, ?_, by simpa [Frame.encode, Nat.add_comm] using hr₂⟩
      simp [Frame.decode, htake, hkind, hread]
    | cons b bs' =>
      generalize hQ : (q.dropFront 1).dropFront (Frame.uvarint (b :: bs').length).length = Q
        at hr₂ hq₂
      obtain ⟨hdata, -, hring⟩ := hr₂.readAvailable (b :: bs').length
      have hget : Q.readAvailable (b :: bs').length =
          ⟨b :: bs', Q.dropFront (b :: bs').length, none⟩ := by
        simp [ByteQueue.readAvailable, hq₂]
      rw [hget] at hdata hring
      have hlen : (Frame.encode (.text (b :: bs'))).length =
          1 + (Frame.uvarint (b :: bs').length).length + (b :: bs').length := by
        simp only [Frame.encode, List.length_cons, List.length_append]
        omega
      refine ⟨(r₂.readAvailable (b :: bs').length).ring, ?_, ?_⟩
      · have hdata' : (r₂.readAvailable (bs'.length + 1)).data = b :: bs' := hdata
        simp only [Frame.decode, htake, hkind, Bool.false_eq_true, if_false, if_true, hread,
          Nat.zero_add, pow_zero, Nat.mul_one, List.length_cons, Nat.add_one_ne_zero, hdata']
      · rw [hlen, ← ByteQueue.dropFront_dropFront, ← ByteQueue.dropFront_dropFront, hQ]
        exact hring

end Ring

end Userland
