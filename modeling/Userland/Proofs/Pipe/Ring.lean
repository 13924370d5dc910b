import Mathlib.Data.Nat.ModEq
import Userland.Pipe.Ring

/-! # The shape of a pipe's ring

A pipe's ring keeps one shape through every operation: its `n` data bytes
start at the read position, the end marker follows them once the pipe is
closed, and the write position is just past both. Positions are taken modulo
the number of slots, and since at most `capacity + 1` slots are in use, two
offsets from one position below the number of slots never land on one slot.

* `Ring.Shape.available_eq`: a ring in shape has its `n` bytes to read, and is at
  its end after them exactly when closed.
* `Ring.Shape.append`, `Ring.Shape.close`, `Ring.Shape.take_of_pos`: writing adds
  the bytes that fit after the data, closing keeps the data, and taking hands out
  the front of it; each keeps the shape.
-/

namespace Userland

namespace Ring

variable {r : Ring} {n : Nat}

theorem mod_add_inj {a x y k : Nat} (h : (a + x) % k = (a + y) % k) (hx : x < k) (hy : y < k) :
    x = y := by
  have h' := Nat.ModEq.add_left_cancel' a h
  unfold Nat.ModEq at h'
  rwa [Nat.mod_eq_of_lt hx, Nat.mod_eq_of_lt hy] at h'

theorem mod_dist {a m k : Nat} (ha : a < k) (hm : m < k) : ((a + m) % k + k - a) % k = m := by
  rcases Nat.lt_or_ge (a + m) k with h | h
  · rw [Nat.mod_eq_of_lt h, show a + m + k - a = m + k by omega, Nat.add_mod_right,
      Nat.mod_eq_of_lt hm]
  · rw [Nat.mod_eq_sub_mod h, Nat.mod_eq_of_lt (by omega : a + m - k < k),
      show a + m - k + k - a = m by omega, Nat.mod_eq_of_lt hm]

theorem size_pos (r : Ring) : 0 < r.size := by simp [size]

theorem slot_congr {i j : Nat} (h : i % r.size = j % r.size) : r.slot i = r.slot j := by
  simp only [slot, h]

theorem slot_mod_add (i k : Nat) : r.slot (i % r.size + k) = r.slot (i + k) :=
  slot_congr (Nat.mod_add_mod i r.size k)

@[simp] theorem store_size (r : Ring) (i : Nat) (b : UInt8) : (r.store i b).size = r.size := rfl

theorem slot_store (i j : Nat) (b : UInt8) :
    (r.store i b).slot j = if i % r.size = j % r.size then b else r.slot j := by
  simp only [slot, store]
  rw [Array.getElem_set]
  rfl

@[simp] theorem storeAll_size (r : Ring) (i : Nat) (bs : List UInt8) :
    (r.storeAll i bs).size = r.size := by
  simp [size]

@[simp] theorem storeAll_readPos (r : Ring) (i : Nat) (bs : List UInt8) :
    (r.storeAll i bs).readPos = r.readPos := by
  induction bs generalizing r i with
  | nil => rfl
  | cons b bs ih => simp [storeAll, ih, store]

/-- Storing bytes leaves alone every slot that none of them lands on. -/
theorem slot_storeAll_of_ne (i j : Nat) (bs : List UInt8)
    (h : ∀ t < bs.length, (i + t) % r.size ≠ j % r.size) :
    (r.storeAll i bs).slot j = r.slot j := by
  induction bs generalizing r i with
  | nil => rfl
  | cons b bs ih =>
    simp only [storeAll]
    rw [ih]
    · rw [slot_store, if_neg (by simpa using h 0 (by simp))]
    · intro t ht
      simpa [Nat.add_assoc, Nat.add_comm 1 t] using h (t + 1) (by simpa using ht)

/-- The `t`-th of the bytes stored from slot `i` sits `t` slots after it. -/
theorem slot_storeAll_add (i : Nat) (bs : List UInt8) (t : Nat) (ht : t < bs.length)
    (hlen : bs.length ≤ r.size) :
    (r.storeAll i bs).slot (i + t) = bs[t] := by
  induction bs generalizing r i t with
  | nil => simp at ht
  | cons b bs ih =>
    simp only [storeAll]
    rcases t with _ | t
    · -- the first byte: the later ones land on the next `bs.length` slots
      rw [slot_storeAll_of_ne]
      · simp [slot_store]
      · intro t' ht' heq
        have := mod_add_inj (a := i) (x := t' + 1) (y := 0) (by simpa [Nat.add_assoc, Nat.add_comm 1 t'] using heq)
          (by simp at hlen; omega) (size_pos r)
        omega
    · have := ih (r := r.store i b) (i + 1) t (by simpa using ht) (by simp at hlen ⊢; omega)
      simpa [Nat.add_assoc, Nat.add_comm 1 t] using this

/-- The shape every pipe keeps: `n` data bytes start at the read position, the
end marker follows them once the pipe is closed, and the write position is just
past both. -/
structure Shape (r : Ring) (n : Nat) : Prop where
  readPos_lt : r.readPos < r.size
  len_le : n ≤ r.capacity
  writePos_eq : r.writePos = (r.readPos + n + if r.closed then 1 else 0) % r.size
  endPos_eq : r.endPos = if r.closed then some ((r.readPos + n) % r.size) else none

theorem Shape.lt_size (h : r.Shape n) : n + 1 < r.size := by
  have := h.len_le; simp [size]; omega

theorem shape_new (c : Nat) : (Ring.new c).Shape 0 := by
  constructor <;> simp [Ring.new, size]

theorem Shape.used_eq (h : r.Shape n) : r.used = n + if r.closed then 1 else 0 := by
  have hlt := h.lt_size
  unfold used
  rw [h.writePos_eq, Nat.add_assoc]
  exact mod_dist h.readPos_lt (by split <;> omega)

/-- A pipe in shape has exactly its `n` bytes to read, and is at its end after
them exactly when it is closed. -/
theorem Shape.available_eq (h : r.Shape n) : r.available = (n, r.closed) := by
  have hlt := h.lt_size
  unfold available
  rw [h.endPos_eq]
  cases hc : r.closed
  · simp [h.used_eq, hc]
  · simp only [if_true]
    rw [mod_dist h.readPos_lt (by omega), h.used_eq, hc]
    simp

theorem Shape.len_eq (h : r.Shape n) : r.len = n := by
  simp [len, h.available_eq]

theorem Shape.length_contents (h : r.Shape n) : r.contents.length = n := by
  simp [contents, h.len_eq]

theorem getElem_contents (k : Nat) (hk : k < r.contents.length) :
    r.contents[k] = r.slot (r.readPos + k) := by
  simp [contents]

@[simp] theorem storeAll_writePos (r : Ring) (i : Nat) (bs : List UInt8) :
    (r.storeAll i bs).writePos = r.writePos := by
  induction bs generalizing r i <;> simp_all [storeAll, store]

@[simp] theorem storeAll_endPos (r : Ring) (i : Nat) (bs : List UInt8) :
    (r.storeAll i bs).endPos = r.endPos := by
  induction bs generalizing r i <;> simp_all [storeAll, store]

@[simp] theorem storeAll_closed (r : Ring) (i : Nat) (bs : List UInt8) :
    (r.storeAll i bs).closed = r.closed := by
  induction bs generalizing r i <;> simp_all [storeAll, store]

theorem Shape.free_eq (h : r.Shape n) (hc : r.closed = false) : r.free = r.capacity - n := by
  simp [free, h.used_eq, hc]

theorem append_count (r : Ring) (p : List UInt8) : (r.append p).2 = min r.free p.length := rfl

@[simp] theorem append_readPos (r : Ring) (p : List UInt8) :
    (r.append p).1.readPos = r.readPos := by simp [Ring.append]

@[simp] theorem append_capacity (r : Ring) (p : List UInt8) :
    (r.append p).1.capacity = r.capacity := by simp [Ring.append]

@[simp] theorem append_size (r : Ring) (p : List UInt8) :
    (r.append p).1.size = r.size := by simp [size]

@[simp] theorem append_closed (r : Ring) (p : List UInt8) :
    (r.append p).1.closed = r.closed := by simp [Ring.append]

@[simp] theorem append_endPos (r : Ring) (p : List UInt8) :
    (r.append p).1.endPos = r.endPos := by simp [Ring.append]

theorem append_writePos (r : Ring) (p : List UInt8) :
    (r.append p).1.writePos = (r.writePos + (r.append p).2) % r.size := rfl

theorem append_slot (r : Ring) (p : List UInt8) (j : Nat) :
    (r.append p).1.slot j = (r.storeAll r.writePos (p.take (r.append p).2)).slot j := rfl

/-- Appending to an open pipe in shape adds the bytes that fit after its data. -/
theorem Shape.append (h : r.Shape n) (hc : r.closed = false) (p : List UInt8) :
    (r.append p).1.Shape (n + (r.append p).2) ∧
      (r.append p).1.contents = r.contents ++ p.take (r.append p).2 := by
  have hlt := h.lt_size
  have hn := h.len_le
  have hsize : r.size = r.capacity + 2 := rfl
  have hm : (r.append p).2 ≤ r.capacity - n := by
    rw [append_count, h.free_eq hc]; omega
  have hmp : (r.append p).2 ≤ p.length := by
    rw [append_count]; omega
  have hw : r.writePos = (r.readPos + n) % r.size := by simp [h.writePos_eq, hc]
  have hshape : (r.append p).1.Shape (n + (r.append p).2) := by
    constructor
    · simpa using h.readPos_lt
    · simp; omega
    · simp [append_writePos, hc, hw, Nat.mod_add_mod, Nat.add_assoc]
    · simp [hc, h.endPos_eq]
  refine ⟨hshape, List.ext_getElem (by simp [hshape.length_contents, h.length_contents, hmp]) ?_⟩
  intro k hk₁ hk₂
  rw [getElem_contents, append_slot, append_readPos]
  simp only [List.getElem_append, h.length_contents]
  have hk : k < n + (r.append p).2 := by simpa [hshape.length_contents] using hk₁
  split
  · -- a byte that was there before: no new byte lands on it
    rename_i hkn
    rw [getElem_contents, slot_storeAll_of_ne]
    intro t ht heq
    simp only [List.length_take] at ht
    rw [hw, Nat.mod_add_mod, Nat.add_assoc] at heq
    have := mod_add_inj heq (by omega) (by omega)
    omega
  · -- a new byte, `k - n` after the old write position
    rename_i hkn
    have hlen : (p.take (r.append p).2).length = (r.append p).2 := by
      simp [hmp]
    have := slot_storeAll_add (r := r) r.writePos (p.take (r.append p).2) (k - n)
      (by omega) (by omega)
    rw [← this]
    apply slot_congr
    rw [storeAll_size, hw, Nat.mod_add_mod]
    congr 1
    omega

/-- Closing an open pipe in shape keeps its data and puts the end marker after it. -/
theorem Shape.close (h : r.Shape n) (hc : r.closed = false) :
    ∃ r', r.close = .ok r' ∧ r'.Shape n ∧ r'.closed = true ∧ r'.capacity = r.capacity ∧
      r'.contents = r.contents := by
  have hlt := h.lt_size
  have hn := h.len_le
  have hw : r.writePos = (r.readPos + n) % r.size := by simp [h.writePos_eq, hc]
  let r' : Ring := { r.store r.writePos endMarker with
    endPos := some r.writePos, closed := true, writePos := (r.writePos + 1) % r.size }
  have hshape : r'.Shape n := by
    constructor
    · simpa [r', store, size] using h.readPos_lt
    · simpa [r', store] using hn
    · simp [r', store, size, hw, Nat.mod_add_mod]
    · simp [r', store, size, hw]
  refine ⟨r', by simp [Ring.close, hc, r'], hshape, rfl, rfl, ?_⟩
  refine List.ext_getElem (by simp [hshape.length_contents, h.length_contents]) ?_
  intro k hk₁ hk₂
  have hk : k < n := by simpa [h.length_contents] using hk₂
  rw [getElem_contents, getElem_contents]
  -- the marker lands right after the data, on no slot of it
  show (r.store r.writePos endMarker).slot (r.readPos + k) = _
  rw [slot_store, if_neg]
  intro heq
  rw [hw, Nat.mod_mod] at heq
  have := mod_add_inj heq (by omega) (by omega)
  omega

/-- What `prefixUpTo` keeps is a prefix of the bytes it was given. -/
theorem prefixUpTo_prefixOf (bs : List UInt8) (delim : Option UInt8) : prefixUpTo bs delim <+: bs := by
  unfold prefixUpTo
  split
  · exact List.prefix_refl bs
  · split
    · exact List.take_prefix _ bs
    · exact List.prefix_refl bs

/-- Moving the read position `k` bytes on drops the first `k` bytes of the data. -/
theorem Shape.advance (h : r.Shape n) {k : Nat} (hk : k ≤ n) :
    ({ r with readPos := (r.readPos + k) % r.size } : Ring).Shape (n - k) ∧
      ({ r with readPos := (r.readPos + k) % r.size } : Ring).contents = r.contents.drop k := by
  have hlt := h.lt_size
  have hshape : ({ r with readPos := (r.readPos + k) % r.size } : Ring).Shape (n - k) := by
    constructor
    · exact Nat.mod_lt _ (size_pos r)
    · have := h.len_le; simp; omega
    · show r.writePos = ((r.readPos + k) % r.size + (n - k) + if r.closed then 1 else 0) % r.size
      rw [h.writePos_eq, Nat.add_assoc _ (n - k), Nat.mod_add_mod]
      congr 1
      omega
    · show r.endPos = if r.closed then some (((r.readPos + k) % r.size + (n - k)) % r.size) else none
      rw [h.endPos_eq, Nat.mod_add_mod, Nat.add_assoc, Nat.add_sub_cancel' hk]
  refine ⟨hshape, List.ext_getElem (by simp [hshape.length_contents, h.length_contents]) ?_⟩
  intro i hi₁ hi₂
  rw [getElem_contents, List.getElem_drop, getElem_contents]
  show r.slot ((r.readPos + k) % r.size + i) = _
  rw [slot_mod_add, Nat.add_assoc]

/-- The front of a pipe's data is the front of its contents. -/
theorem take_contents (r : Ring) (m : Nat) :
    (List.range (min r.len m)).map (fun k => r.slot (r.readPos + k)) = r.contents.take m := by
  simp [contents, ← List.map_take, List.take_range, Nat.min_comm]

/-- A pipe in shape with data hands out the front of it, up to `max` bytes and
through the first `delim`. -/
theorem Shape.take_of_pos (h : r.Shape n) (hn : 0 < n) (max : Nat) (delim : Option UInt8) :
    r.take max delim =
      .ok (prefixUpTo (r.contents.take max) delim,
        { r with readPos := (r.readPos + (prefixUpTo (r.contents.take max) delim).length) % r.size }) := by
  have hfront := take_contents r max
  rw [h.len_eq] at hfront
  simp only [Ring.take, h.available_eq, gt_iff_lt, if_pos hn, hfront]

/-- A pipe in shape without data is at its end when closed, and would make the
reader wait otherwise. -/
theorem Shape.take_of_zero (h : r.Shape 0) (max : Nat) (delim : Option UInt8) :
    r.take max delim = .error (if r.closed then .atEnd else .wouldBlock) := by
  cases hc : r.closed <;> simp [Ring.take, h.available_eq, hc]

end Ring

end Userland
