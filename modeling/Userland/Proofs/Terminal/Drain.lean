import Mathlib.Data.List.DropRight
import Userland.Proofs.Pipe.Ring
import Userland.Terminal.Buffer

/-! # Draining a terminal buffer

A buffer of `size` slots holds the bytes from its head round to its tail
(`contents`). A byte written where the tail has caught up with the head pushes
the head on past the oldest byte, so the buffer holds the last `size - 1` bytes
written; a drain hands out what is held, oldest first, reading the slots up to
the end of the ring and then from its start when it wraps, and leaves nothing.
So every sequence of writes and drains on a new buffer behaves as the list of
the bytes written since the last drain, cut to its last `size - 1`.
-/

namespace Userland.Terminal.Buffer

variable {b : Buffer}

/-- The shape every buffer keeps: at least two slots, and its head and tail on them. -/
structure Wf (b : Buffer) : Prop where
  two_le : 2 ≤ b.size
  data : b.data.size = b.size
  head : b.head < b.size
  tail : b.tail < b.size

/-- How many bytes are held: the way from the head round to the tail. -/
def len (b : Buffer) : Nat := (b.tail + b.size - b.head) % b.size

/-- The bytes held, oldest first. -/
def contents (b : Buffer) : List UInt8 :=
  (List.range b.len).map fun i => b.data.getD ((b.head + i) % b.size) 0

theorem mod_of_lt_two {x k : Nat} (h : x < 2 * k) : x % k = if x < k then x else x - k := by
  split_ifs with hx
  · exact Nat.mod_eq_of_lt hx
  · rw [Nat.mod_eq_sub_mod (by omega), Nat.mod_eq_of_lt (by omega)]

theorem Wf.len_lt (h : b.Wf) : b.len < b.size := Nat.mod_lt _ (by have := h.two_le; omega)

theorem Wf.len_eq (h : b.Wf) :
    b.len = if b.head ≤ b.tail then b.tail - b.head else b.tail + b.size - b.head := by
  have := h.head
  have := h.tail
  unfold len
  rw [mod_of_lt_two (by omega)]
  split_ifs <;> omega

theorem Wf.tail_eq (h : b.Wf) : b.tail = (b.head + b.len) % b.size := by
  have := h.head
  have := h.tail
  rw [h.len_eq, mod_of_lt_two (by split_ifs <;> omega)]
  split_ifs <;> omega

theorem getD_setIfInBounds {a : Array UInt8} {i : Nat} (hi : i < a.size) (c : UInt8) (j : Nat) :
    (a.setIfInBounds i c).getD j 0 = if i = j then c else a.getD j 0 := by
  simp only [Array.getD_eq_getD_getElem?, Array.getElem?_setIfInBounds]
  split_ifs <;> simp_all

@[simp] theorem length_contents : b.contents.length = b.len := by simp [contents]

theorem getElem_contents {i : Nat} (hi : i < b.contents.length) :
    b.contents[i] = b.data.getD ((b.head + i) % b.size) 0 := by
  simp [contents]

theorem Wf.push (h : b.Wf) (c : UInt8) : (b.push c).Wf where
  two_le := h.two_le
  data := by simp [Buffer.push, h.data]
  head := by
    simp only [Buffer.push]
    split_ifs
    · exact Nat.mod_lt _ (by have := h.two_le; omega)
    · exact h.head
  tail := Nat.mod_lt _ (by have := h.two_le; omega)

theorem Wf.succ_tail (h : b.Wf) : (b.tail + 1) % b.size = (b.head + (b.len + 1)) % b.size := by
  rw [h.tail_eq, Nat.mod_add_mod, Nat.add_assoc]

/-- Slots counted from the head are distinct below the size, so only the one
at the held count is the tail. -/
theorem Wf.slot_ne_tail (h : b.Wf) {i : Nat} (hi : i < b.size) (hne : i ≠ b.len) :
    b.tail ≠ (b.head + i) % b.size := fun heq =>
  hne (Ring.mod_add_inj (h.tail_eq.symm.trans heq).symm hi h.len_lt)

/-- One byte written keeps the last `size - 1` bytes, the new one last. -/
theorem contents_push (h : b.Wf) (c : UInt8) :
    (b.push c).contents = (b.contents ++ [c]).rtake (b.size - 1) := by
  have hH := h.head
  have hL := h.len_lt
  have hdata : ∀ j, (b.push c).data.getD j 0 = if b.tail = j then c else b.data.getD j 0 :=
    getD_setIfInBounds (h.data ▸ h.tail) c
  by_cases hfull : (b.tail + 1) % b.size = b.head
  · -- the tail has caught up with the head, which moves past the oldest byte
    have hL' : b.len + 1 = b.size := by
      by_contra hne
      have h0 := Ring.mod_add_inj ((h.succ_tail.symm.trans hfull).trans
        (Nat.mod_eq_of_lt hH).symm : (b.head + (b.len + 1)) % b.size = (b.head + 0) % b.size)
        (by omega) (by omega)
      omega
    have hhead : (b.push c).head = (b.head + 1) % b.size := if_pos hfull
    have hlen : (b.push c).len = b.size - 1 := by
      rw [(h.push c).len_eq, hhead, show (b.push c).tail = b.head from hfull,
        show (b.push c).size = b.size from rfl, mod_of_lt_two (by omega)]
      split_ifs <;> omega
    apply List.ext_getElem (by simp [List.rtake, hlen]; omega)
    intro i hi₁ hi₂
    simp only [length_contents, hlen] at hi₁
    rw [getElem_contents, hdata, hhead, show (b.push c).size = b.size from rfl, Nat.mod_add_mod]
    simp only [List.rtake, List.getElem_drop, List.getElem_append, List.getElem_singleton,
      List.length_append, length_contents, List.length_singleton]
    rcases Nat.lt_or_ge (i + 1) b.len with hlt | hge
    · -- a byte kept from before, one slot on from the new head
      rw [show b.head + 1 + i = b.head + (i + 1) by omega, if_neg (h.slot_ne_tail (by omega) (by omega)),
        dif_pos (by omega), getElem_contents, show b.len + 1 - (b.size - 1) + i = i + 1 by omega]
    · rw [show (b.head + 1 + i) % b.size = b.tail by rw [h.tail_eq]; congr 1; omega, if_pos rfl,
        dif_neg (by omega)]
  · -- there is room: the byte goes after the others
    have hhead : (b.push c).head = b.head := if_neg hfull
    have hL' : b.len + 1 < b.size := by
      by_contra hge
      apply hfull
      rw [h.succ_tail, show b.len + 1 = b.size by omega, Nat.add_mod_right, Nat.mod_eq_of_lt hH]
    have hlen : (b.push c).len = b.len + 1 := by
      show ((b.tail + 1) % b.size + b.size - (b.push c).head) % b.size = _
      rw [hhead, h.succ_tail]
      exact Ring.mod_dist hH hL'
    apply List.ext_getElem (by simp [List.rtake, hlen]; omega)
    intro i hi₁ hi₂
    simp only [length_contents, hlen] at hi₁
    rw [getElem_contents, hdata, hhead, show (b.push c).size = b.size from rfl]
    simp only [List.rtake, List.getElem_drop, List.getElem_append, List.getElem_singleton,
      List.length_append, length_contents, List.length_singleton]
    rcases Nat.lt_or_ge i b.len with hlt | hge
    · rw [if_neg (h.slot_ne_tail (by omega) (by omega)), dif_pos (by omega), getElem_contents,
        show b.len + 1 - (b.size - 1) + i = i by omega]
    · rw [show (b.head + i) % b.size = b.tail by rw [h.tail_eq]; congr 2; omega, if_pos rfl,
        dif_neg (by omega)]

theorem rtake_append_rtake {α : Type} (l p : List α) (n : Nat) :
    (l.rtake n ++ p).rtake n = (l ++ p).rtake n := by
  simp only [List.rtake_eq_reverse_take_reverse, List.reverse_append, List.reverse_reverse,
    List.take_append, List.take_take]
  congr 3
  omega

@[simp] theorem size_write (b : Buffer) (p : List UInt8) : (b.write p).2.size = b.size := by
  induction p generalizing b with
  | nil => rfl
  | cons c p ih => exact ih (b.push c)

theorem Wf.write (h : b.Wf) (p : List UInt8) : (b.write p).2.Wf := by
  induction p generalizing b with
  | nil => exact h
  | cons c p ih => exact ih (h.push c)

/-- A write keeps the last `size - 1` bytes of those held and those written. -/
theorem contents_write (h : b.Wf) (p : List UInt8) :
    (b.write p).2.contents = (b.contents ++ p).rtake (b.size - 1) := by
  induction p generalizing b with
  | nil =>
    have := h.len_lt
    simp [Buffer.write, List.rtake, Nat.sub_eq_zero_of_le (show b.len ≤ b.size - 1 by omega)]
  | cons c p ih =>
    show ((b.push c).write p).2.contents = _
    rw [ih (h.push c), contents_push h, show (b.push c).size = b.size from rfl, rtake_append_rtake,
      List.append_assoc, List.singleton_append]

@[simp] theorem size_drain (b : Buffer) : b.drain.2.size = b.size := by
  unfold drain
  split_ifs <;> rfl

theorem Wf.drain (h : b.Wf) : b.drain.2.Wf := by
  unfold Buffer.drain
  split_ifs
  · exact h
  all_goals exact ⟨h.two_le, h.data, h.tail, h.tail⟩

theorem contents_drain (h : b.Wf) : b.drain.2.contents = [] := by
  have := h.two_le
  unfold Buffer.drain
  split_ifs with heq
  all_goals simp [contents, len, heq]

/-- A drain hands out what is held, oldest first. -/
theorem drain_fst (h : b.Wf) : b.drain.1 = b.contents := by
  have hH := h.head
  have hT := h.tail
  have hd := h.data
  unfold Buffer.drain
  split_ifs with heq hlt
  · simp [contents, len, heq]
  · -- the bytes lie from the head up to the tail
    apply List.ext_getElem (by simp [h.len_eq, if_pos (Nat.le_of_lt hlt)]; omega)
    intro i hi₁ hi₂
    simp at hi₁
    rw [getElem_contents, Nat.mod_eq_of_lt (by omega)]
    simp [Array.getD_eq_getD_getElem?, Array.getElem?_eq_getElem (show b.head + i < b.data.size by omega)]
  · -- the ring wraps: from the head up to its end, then from its start up to the tail
    apply List.ext_getElem (by simp [h.len_eq, if_neg (show ¬ b.head ≤ b.tail by omega)]; omega)
    intro i hi₁ hi₂
    simp at hi₁
    rw [getElem_contents, List.getElem_append]
    split_ifs with hi
    · simp at hi
      rw [Nat.mod_eq_of_lt (by omega)]
      simp [Array.getD_eq_getD_getElem?, Array.getElem?_eq_getElem (show b.head + i < b.data.size by omega)]
    · simp at hi
      rw [Nat.mod_eq_sub_mod (by omega), Nat.mod_eq_of_lt (by omega)]
      simp [Array.getD_eq_getD_getElem?, Array.getElem?_eq_getElem (show b.head + i - b.size < b.data.size by omega)]
      congr 1
      omega

/-- A call on a buffer. -/
inductive Call where
  | write (p : List UInt8)
  | drain

/-- What the drains among `calls` return, in order. -/
def drains (b : Buffer) : List Call → List (List UInt8)
  | [] => []
  | .write p :: cs => (b.write p).2.drains cs
  | .drain :: cs => b.drain.1 :: b.drain.2.drains cs

/-- What the drains among `calls` return by the list view: the last `room` of
the bytes written since the drain before, `w` being those written so far. -/
def Call.expected (room : Nat) (w : List UInt8) : List Call → List (List UInt8)
  | [] => []
  | .write p :: cs => expected room (w ++ p) cs
  | .drain :: cs => w.rtake room :: expected room [] cs

/-- Run from a buffer holding the last `size - 1` of the bytes `w`, every
sequence of calls drains what the list view says. -/
theorem drains_eq (h : b.Wf) {w : List UInt8} (hw : b.contents = w.rtake (b.size - 1))
    (calls : List Call) :
    b.drains calls = Call.expected (b.size - 1) w calls := by
  induction calls generalizing b w with
  | nil => rfl
  | cons call calls ih =>
    cases call with
    | write p =>
      rw [drains, Call.expected, ← size_write b p]
      exact ih (h.write p) (by rw [contents_write h, size_write, hw, rtake_append_rtake])
    | drain =>
      rw [drains, Call.expected, drain_fst h, hw, ← size_drain b]
      exact congrArg _ (ih h.drain (by rw [contents_drain h]; simp [List.rtake]))

theorem Wf.new (s : Int) : (new s).Wf where
  two_le := by simp only [Buffer.new]; split_ifs <;> omega
  data := by simp [Buffer.new]
  head := by simp only [Buffer.new]; split_ifs <;> omega
  tail := by simp only [Buffer.new]; split_ifs <;> omega

/-- Writes take every byte, and the ring refines the list of the bytes it holds:
a byte written chases the head once the ring is full, so the last `size - 1`
bytes are kept, and a drain hands out all of them and leaves none. So on a new
buffer of size `s` (2 when less), every sequence of writes and drains has each
drain return the last `max s 2 - 1` of the bytes written since the drain
before, or since the buffer was made. -/
theorem drain_after_writes (s : Int) (calls : List Call) :
    (∀ (b : Buffer) p, (write b p).1 = p.length) ∧
    (∀ (b : Buffer) c, b.Wf → (b.push c).Wf ∧ (b.push c).contents = (b.contents ++ [c]).rtake (b.size - 1)) ∧
    (∀ b : Buffer, b.Wf → b.drain.1 = b.contents ∧ b.drain.2.Wf ∧ b.drain.2.contents = []) ∧
    (new s).drains calls = Call.expected ((max s 2).toNat - 1) [] calls := by
  refine ⟨fun _ _ => rfl, fun b c h => ⟨h.push c, contents_push h c⟩,
    fun b h => ⟨drain_fst h, h.drain, contents_drain h⟩, ?_⟩
  have hsize : (new s).size = (max s 2).toNat := by
    simp only [new]
    split_ifs <;> omega
  have hempty : (new s).contents = [] := by
    simp [contents, len, show (new s).tail = 0 from rfl, show (new s).head = 0 from rfl]
  rw [← hsize]
  exact drains_eq (Wf.new s) (by rw [hempty]; simp [List.rtake]) calls

example : (new 4).drains [.write [1, 2, 3, 4, 5], .drain, .drain, .write [6], .drain] =
    [[3, 4, 5], [], [6]] := by decide

end Userland.Terminal.Buffer
