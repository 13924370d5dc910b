import Mathlib.Data.List.Range
import Userland.Process.Table

/-! # The process table keeps its invariants

A process table of `maxPID` slots hands out the numbers `1 … maxPID - 1`. Its
invariant (`Table.Wf`): slot 0 is empty, every occupied slot `p` holds the record
of process `p`, the live count is the number of occupied slots, and the cursor
names a slot that can be handed out. Every call keeps it, and on a table that
has it each call does what the table promises:

* `Table.allocate` fails with `tableFull` exactly when every number is taken, and
  otherwise hands out the first free number in the cyclic order from the cursor
  (`Table.searchOrder_eq`): `next, next + 1, …, cap, 1, …, next - 1`.
* freeing a live process makes its number the next one handed out;
* every call on a number that names no live process fails with `noSuchProcess`;
* a state change follows an allowed move, and a terminating process stays so.
-/

namespace Userland

namespace Table

/-- The record in slot `p`, if any. -/
def slot? (t : Table) (p : Nat) : Option Record := (t.slots[p]?).join

/-- The table with the record at `p` replaced: what a successful `update` leaves. -/
def put (t : Table) (p : Int) (r : Record) : Table := { t with slots := t.slots.set! p.toNat (some r) }

/-- The invariant of a process table. -/
structure Wf (t : Table) : Prop where
  two_le : 2 ≤ t.slots.size
  slot_zero : t.slot? 0 = none
  pid_eq : ∀ p r, t.slot? p = some r → r.pid = p
  live_eq : t.live = t.records.length
  next_pos : 1 ≤ t.next
  next_le : t.next ≤ t.cap

variable {t : Table}

theorem get?_eq_slot? {p : Int} (hp : 0 < p) : t.get? p = t.slot? p.toNat := by
  simp [get?, slot?, Int.not_le.mpr hp]

@[simp] theorem get?_natCast {p : Nat} (hp : 0 < p) : t.get? (p : Int) = t.slot? p := by
  rw [get?_eq_slot? (by omega)]
  simp

/-- An occupied slot is one that can be handed out: not 0, not past the last. -/
theorem Wf.pos_of_slot? (h : t.Wf) {p : Nat} {r : Record} (hr : t.slot? p = some r) :
    1 ≤ p ∧ p ≤ t.cap := by
  refine ⟨?_, ?_⟩
  · rcases Nat.eq_zero_or_pos p with rfl | hp
    · rw [h.slot_zero] at hr; cases hr
    · exact hp
  · have hlt : p < t.slots.size := by
      by_contra hge
      simp [slot?, Array.getElem?_eq_none (Nat.le_of_not_lt hge)] at hr
    unfold cap; omega

/-! ## The cyclic search order -/

/-- The numbers from `next` to `cap`, then from 1 to `next - 1`. -/
def cyclicOrder (next cap : Nat) : List Nat :=
  List.range' next (cap + 1 - next) ++ List.range' 1 (next - 1)

/-- The table looks at the numbers in cyclic order from its cursor. -/
theorem searchOrder_eq (h : t.Wf) : t.searchOrder = cyclicOrder t.next t.cap := by
  have h1 := h.next_pos
  have h2 := h.next_le
  apply List.ext_getElem (by simp [searchOrder, cyclicOrder]; omega)
  intro i hi₁ hi₂
  simp only [searchOrder, List.getElem_map, List.getElem_range, cyclicOrder]
  rw [List.getElem_append]
  split
  · -- before the wrap: the cursor and the numbers after it
    rename_i hlt
    simp only [List.length_range'] at hlt
    rw [List.getElem_range', Nat.mod_eq_of_lt (by omega)]
    omega
  · -- after the wrap: from 1 on
    rename_i hge
    simp only [List.length_range'] at hge ⊢
    simp only [searchOrder, List.length_map, List.length_range] at hi₁
    rw [List.getElem_range', Nat.mod_eq_sub_mod (by omega), Nat.mod_eq_of_lt (by omega)]
    omega

example : cyclicOrder 3 4 = [3, 4, 1, 2] := by decide

theorem mem_cyclicOrder {next cap p : Nat} (h1 : 1 ≤ next) (h2 : next ≤ cap) :
    p ∈ cyclicOrder next cap ↔ 1 ≤ p ∧ p ≤ cap := by
  simp only [cyclicOrder, List.mem_append, List.mem_range']
  constructor
  · rintro (⟨i, hi, rfl⟩ | ⟨i, hi, rfl⟩) <;> omega
  · rintro ⟨hp1, hp2⟩
    rcases Nat.lt_or_ge p next with hlt | hge
    · exact Or.inr ⟨p - 1, by omega, by omega⟩
    · exact Or.inl ⟨p - next, by omega, by omega⟩

/-! ## Counting occupied slots -/

/-- Setting one entry changes the number of filled entries by what it puts in
against what it takes out. -/
theorem length_filterMap_set {α : Type} (l : List (Option α)) (i : Nat) (v : Option α)
    (hi : i < l.length) :
    ((l.set i v).filterMap id).length + (l[i]).isSome.toNat =
      (l.filterMap id).length + v.isSome.toNat := by
  induction l generalizing i with
  | nil => simp at hi
  | cons x l ih =>
    cases i with
    | zero => cases x <;> cases v <;> simp
    | succ i =>
      have := ih i (by simpa using hi)
      simp at this
      cases x <;> simp <;> omega

/-- The filled entries of a list, read off by position. -/
theorem filterMap_id_eq_range {α : Type} (l : List (Option α)) :
    l.filterMap id = (List.range l.length).filterMap fun i => (l[i]?).join := by
  induction l with
  | nil => rfl
  | cons x l ih =>
    rw [List.length_cons, List.range_succ_eq_map, List.filterMap_cons (l := List.map _ _),
      List.filterMap_map]
    simp only [id] at ih
    cases x <;> simp [← ih]

/-- The live records are the records in the slots, in order of number. -/
theorem records_eq (t : Table) : t.records = (List.range t.slots.size).filterMap t.slot? := by
  simp only [records, filterMap_id_eq_range, Array.length_toList, Array.getElem?_toList]
  rfl

/-- The live count is the number of occupied slots among those that can be handed out. -/
theorem Wf.live_eq_countP (h : t.Wf) :
    t.live = (List.range' 1 t.cap).countP fun p => (t.slot? p).isSome := by
  have hsize : t.slots.size = t.cap + 1 := by have := h.two_le; unfold cap; omega
  rw [h.live_eq, records_eq, List.length_filterMap_eq_countP, hsize, List.range_eq_range',
    List.range'_succ, List.countP_cons, h.slot_zero]
  simp

theorem Wf.live_le (h : t.Wf) : t.live ≤ t.cap := by
  rw [h.live_eq_countP]
  simpa using List.countP_le_length (l := List.range' 1 t.cap)

/-- Every number is taken exactly when the live count reaches the capacity. -/
theorem Wf.live_eq_cap_iff (h : t.Wf) :
    t.live = t.cap ↔ ∀ p, 1 ≤ p → p ≤ t.cap → (t.slot? p).isSome := by
  rw [h.live_eq_countP]
  have := List.countP_eq_length (p := fun p => (t.slot? p).isSome) (l := List.range' 1 t.cap)
  simp only [List.length_range', List.mem_range'] at this
  rw [this]
  constructor
  · intro hall p hp1 hp2
    exact hall p ⟨p - 1, by omega, by omega⟩
  · rintro hall p ⟨i, hi, rfl⟩
    exact hall _ (by omega) (by omega)

/-! ## Slots after a change -/

/-- Writing a slot changes that slot only. -/
theorem slot?_set! (t : Table) (p q : Nat) (v : Option Record) :
    ((t.slots.set! p v)[q]?).join = if p = q ∧ p < t.slots.size then v else t.slot? q := by
  simp only [Array.set!_eq_setIfInBounds, Array.getElem?_setIfInBounds, slot?]
  by_cases hpq : p = q
  · subst hpq
    by_cases hp : p < t.slots.size <;> simp [hp]
  · simp [hpq]

/-- Writing an in-range slot changes the number of records by what it puts in
against what it takes out. -/
theorem length_records_set! (t : Table) {p : Nat} (hp : p < t.slots.size) (v : Option Record) :
    ((t.slots.set! p v).toList.filterMap id).length + (t.slot? p).isSome.toNat =
      t.records.length + v.isSome.toNat := by
  have := length_filterMap_set t.slots.toList p v (by simpa using hp)
  simp only [Array.set!_eq_setIfInBounds, Array.toList_setIfInBounds, records, slot?,
    Array.getElem?_eq_getElem hp, Option.join_some] at this ⊢
  simpa [hp] using this

/-- A lookup finds exactly the live process of a number. -/
theorem lookup_eq_ok_iff {p : Int} {r : Record} : t.lookup p = .ok r ↔ t.get? p = some r := by
  unfold lookup
  cases t.get? p <;> simp

theorem pos_of_get? {p : Int} {r : Record} (hr : t.get? p = some r) : 0 < p := by
  unfold get? at hr
  by_contra hp
  simp [Int.not_lt.mp hp] at hr

/-! ## What each call does -/

/-- A number is looked at while searching exactly when it can be handed out, and
the search takes the first free one. -/
theorem Wf.firstFree?_eq (h : t.Wf) :
    t.firstFree? = (cyclicOrder t.next t.cap).find? fun p => (t.slot? p).isNone := by
  rw [firstFree?, searchOrder_eq h]
  rfl

theorem Wf.firstFree?_spec (h : t.Wf) {p : Nat} (hp : t.firstFree? = some p) :
    1 ≤ p ∧ p ≤ t.cap ∧ t.slot? p = none := by
  rw [h.firstFree?_eq] at hp
  obtain ⟨hfree, hmem⟩ := List.find?_some hp, List.mem_of_find?_eq_some hp
  rw [mem_cyclicOrder h.next_pos h.next_le] at hmem
  exact ⟨hmem.1, hmem.2, by simpa using hfree⟩

/-- The search finds nothing exactly when every number is taken. -/
theorem Wf.firstFree?_eq_none_iff (h : t.Wf) : t.firstFree? = none ↔ t.live = t.cap := by
  rw [h.firstFree?_eq, List.find?_eq_none, h.live_eq_cap_iff]
  constructor
  · intro hall p hp1 hp2
    have := hall p ((mem_cyclicOrder h.next_pos h.next_le).mpr ⟨hp1, hp2⟩)
    simpa [Option.isSome_iff_ne_none] using this
  · intro hall p hp
    rw [mem_cyclicOrder h.next_pos h.next_le] at hp
    have := hall p hp.1 hp.2
    simpa [Option.isSome_iff_ne_none] using this

/-- The record a new process starts with. -/
theorem allocate_of_firstFree? (spec : Spec) (ends : Endpoints) (now : Nat) {pid : Nat}
    (hf : t.firstFree? = some pid) :
    ∃ r, t.allocate spec ends now =
        .ok (r, { slots := t.slots.set! pid (some r), next := pid % t.cap + 1, live := t.live + 1 }) ∧
      r.pid = pid ∧ r.state = .starting ∧ r.started = false ∧ r.unit = none := by
  unfold allocate
  rw [hf]
  exact ⟨_, rfl, rfl, rfl, rfl, rfl⟩

theorem free_of_get? {p : Int} {r : Record} (hr : t.get? p = some r) :
    t.free p = .ok { slots := t.slots.set! p.toNat none, next := p.toNat, live := t.live - 1 } := by
  simp [free, lookup, hr]

theorem update_eq_ok_iff {p : Int} {f : Record → Except Fault Record} {t' : Table} :
    t.update p f = .ok t' ↔
      ∃ r r', t.get? p = some r ∧ f r = .ok r' ∧ t' = t.put p r' := by
  unfold update lookup
  cases hr : t.get? p with
  | none => simp [bind, Except.bind]
  | some r =>
    cases hf : f r with
    | error e => simp [bind, Except.bind, hf]
    | ok r' =>
      simp only [bind, Except.bind, hf, pure, Except.pure, Except.ok.injEq]
      constructor
      · intro ht; exact ⟨r, r', rfl, hf, ht.symm⟩
      · rintro ⟨r₁, r₂, h₁, h₂, rfl⟩
        cases h₁
        rw [hf] at h₂
        cases h₂
        rfl

/-! ## Every call keeps the invariant -/

theorem wf_new (maxPID : Nat) : (Table.new maxPID).Wf where
  two_le := by simp only [Table.new, Array.size_replicate]; omega
  slot_zero := by
    simp only [slot?, Table.new, Array.getElem?_replicate]
    split <;> rfl
  pid_eq := by
    intro p r hr
    simp only [slot?, Table.new, Array.getElem?_replicate] at hr
    split at hr <;> simp at hr
  live_eq := by simp [Table.new, records]
  next_pos := le_refl 1
  next_le := by simp only [Table.new, cap, Array.size_replicate]; omega

theorem Wf.allocate (h : t.Wf) {spec : Spec} {ends : Endpoints} {now : Nat} {r : Record}
    {t' : Table} (ha : t.allocate spec ends now = .ok (r, t')) : t'.Wf := by
  cases hf : t.firstFree? with
  | none => simp [Table.allocate, hf] at ha
  | some pid =>
    obtain ⟨r₀, ha₀, hpid, -⟩ := allocate_of_firstFree? spec ends now hf
    rw [ha₀, Except.ok.injEq, Prod.mk.injEq] at ha
    obtain ⟨rfl, rfl⟩ := ha
    obtain ⟨hp1, hp2, hempty⟩ := h.firstFree?_spec hf
    have hsize : pid < t.slots.size := by unfold cap at hp2; have := h.two_le; omega
    constructor
    · simpa using h.two_le
    · simp only [slot?, slot?_set!]
      rw [if_neg (by omega)]
      exact h.slot_zero
    · intro q r' hq
      simp only [slot?, slot?_set!] at hq
      split at hq
      · rename_i hpq; cases hq; rw [hpid]; exact hpq.1
      · exact h.pid_eq q r' hq
    · have := length_records_set! t hsize (some r₀)
      rw [hempty] at this
      simp only [records, Option.isSome_none, Option.isSome_some, Bool.toNat_false,
        Bool.toNat_true] at this ⊢
      have hl : t.live = (t.slots.toList.filterMap id).length := h.live_eq
      omega
    · simp
    · simp only [cap, Array.size_set!] at hp2 ⊢
      have := Nat.mod_lt pid (show 0 < t.slots.size - 1 by have := h.two_le; omega)
      omega

theorem Wf.free (h : t.Wf) {p : Int} {t' : Table} (hfree : t.free p = .ok t') : t'.Wf := by
  cases hr : t.get? p with
  | none => simp [Table.free, lookup, hr, bind, Except.bind] at hfree
  | some r =>
    rw [free_of_get? hr, Except.ok.injEq] at hfree
    subst hfree
    have hpos := pos_of_get? hr
    rw [get?_eq_slot? hpos] at hr
    obtain ⟨hp1, hp2⟩ := h.pos_of_slot? hr
    have hsize : p.toNat < t.slots.size := by unfold cap at hp2; have := h.two_le; omega
    constructor
    · simpa using h.two_le
    · simp only [slot?, slot?_set!]
      rw [if_neg (by omega)]
      exact h.slot_zero
    · intro q r' hq
      simp only [slot?, slot?_set!] at hq
      split at hq
      · cases hq
      · exact h.pid_eq q r' hq
    · have := length_records_set! t hsize none
      rw [hr] at this
      simp only [records, Option.isSome_none, Option.isSome_some, Bool.toNat_false,
        Bool.toNat_true] at this ⊢
      have hl : t.live = (t.slots.toList.filterMap id).length := h.live_eq
      omega
    · simpa using hp1
    · simpa [cap] using hp2

/-- Replacing a live record by one of the same number keeps the invariant. -/
theorem Wf.put (h : t.Wf) {p : Int} {r₀ r : Record} (hr : t.get? p = some r₀)
    (hpid : r.pid = r₀.pid) : (t.put p r).Wf := by
  have hpos := pos_of_get? hr
  rw [get?_eq_slot? hpos] at hr
  obtain ⟨hp1, hp2⟩ := h.pos_of_slot? hr
  have hsize : p.toNat < t.slots.size := by unfold cap at hp2; have := h.two_le; omega
  constructor
  · simpa [Table.put] using h.two_le
  · simp only [Table.put, slot?, slot?_set!]
    rw [if_neg (by omega)]
    exact h.slot_zero
  · intro q r' hq
    simp only [Table.put, slot?, slot?_set!] at hq
    split at hq
    · rename_i hpq
      cases hq
      rw [hpid, h.pid_eq _ r₀ hr]
      exact hpq.1
    · exact h.pid_eq q r' hq
  · have := length_records_set! t hsize (some r)
    rw [hr] at this
    simp only [Table.put, records, Option.isSome_some, Bool.toNat_true] at this ⊢
    have hl : t.live = (t.slots.toList.filterMap id).length := h.live_eq
    omega
  · exact h.next_pos
  · simpa [Table.put, cap] using h.next_le

/-- A change that keeps the record's number keeps the invariant. -/
theorem Wf.update (h : t.Wf) {p : Int} {f : Record → Except Fault Record} {t' : Table}
    (hf : ∀ r r', f r = .ok r' → r'.pid = r.pid) (hu : t.update p f = .ok t') : t'.Wf := by
  obtain ⟨r, r', hr, hfr, rfl⟩ := update_eq_ok_iff.mp hu
  exact h.put hr (hf r r' hfr)

/-- A state change only changes the state, so it keeps the invariant. -/
theorem Wf.setStateNamed (h : t.Wf) {p : Int} {s : String} {t' : Table}
    (hs : t.setStateNamed p s = .ok t') : t'.Wf := by
  refine h.update ?_ hs
  intro r r' hf
  split at hf
  · cases hf; rfl
  · split at hf
    · split at hf
      · cases hf; rfl
      · cases hf
    · cases hf

/-! ## What each call promises on a table that keeps the invariant -/

variable {spec : Spec} {ends : Endpoints} {now : Nat}

/-- The table is full, and refuses a new process, exactly when every number is taken. -/
theorem Wf.allocate_eq_tableFull_iff (h : t.Wf) :
    t.allocate spec ends now = .error (.sys (SysError.of .tableFull)) ↔ t.live = t.cap := by
  rw [← h.firstFree?_eq_none_iff]
  unfold Table.allocate
  cases t.firstFree? <;> simp

/-- Below capacity a new process gets the first free number in cyclic order from
the cursor, starts out `STARTING`, unstarted and with no unit, and nothing else
in the table changes. -/
theorem Wf.allocate_first (h : t.Wf) (hlt : t.live < t.cap) :
    ∃ r t', t.allocate spec ends now = .ok (r, t') ∧
      (cyclicOrder t.next t.cap).find? (fun p => (t.slot? p).isNone) = some r.pid ∧
      r.state = .starting ∧ r.unit = none ∧ r.started = false ∧
      t'.slot? r.pid = some r ∧ ∀ q, q ≠ r.pid → t'.slot? q = t.slot? q := by
  cases hf : t.firstFree? with
  | none => exact absurd (h.firstFree?_eq_none_iff.mp hf) (by omega)
  | some pid =>
    obtain ⟨r, ha, hpid, hstate, hstarted, hunit⟩ :=
      allocate_of_firstFree? spec ends now hf
    obtain ⟨hp1, hp2, -⟩ := h.firstFree?_spec hf
    have hsize : pid < t.slots.size := by unfold cap at hp2; have := h.two_le; omega
    refine ⟨r, _, ha, ?_, hstate, hunit, hstarted, ?_, ?_⟩
    · rw [hpid, ← h.firstFree?_eq, hf]
    · simp [slot?, hpid, hsize]
    · intro q hq
      simp only [slot?, slot?_set!]
      rw [if_neg (by rw [hpid] at hq; omega)]

/-- After freeing a live process, the next process created gets its number. -/
theorem Wf.free_then_allocate (h : t.Wf) {p : Int} {r : Record} (hr : t.get? p = some r) :
    ∃ t', t.free p = .ok t' ∧ ∀ spec ends now, ∃ r' t'',
      t'.allocate spec ends now = .ok (r', t'') ∧ (r'.pid : Int) = p := by
  refine ⟨_, free_of_get? hr, ?_⟩
  intro spec ends now
  have hpos := pos_of_get? hr
  have hwf := h.free (free_of_get? hr)
  rw [get?_eq_slot? hpos] at hr
  obtain ⟨hp1, hp2⟩ := h.pos_of_slot? hr
  have hsize : p.toNat < t.slots.size := by unfold cap at hp2; have := h.two_le; omega
  -- the cursor is on the freed slot, which is free: the search stops there at once
  have hfirst : ({ slots := t.slots.set! p.toNat none, next := p.toNat, live := t.live - 1 } :
      Table).firstFree? = some p.toNat := by
    rw [hwf.firstFree?_eq]
    simp only [cyclicOrder]
    have hcap : ({ slots := t.slots.set! p.toNat none, next := p.toNat, live := t.live - 1 } :
        Table).cap = t.cap := by simp [cap]
    rw [hcap, show t.cap + 1 - p.toNat = (t.cap - p.toNat) + 1 by omega, List.range'_succ]
    simp [slot?, Array.set!_eq_setIfInBounds, Array.getElem?_setIfInBounds, hsize]
  obtain ⟨r', ha, hpid, -⟩ := allocate_of_firstFree? spec ends now hfirst
  exact ⟨r', _, ha, by rw [hpid]; omega⟩

/-- Every call on a number that names no live process fails with `noSuchProcess`. -/
theorem absent (t : Table) {p : Int} (hp : t.get? p = none) :
    t.lookup p = .error noSuch ∧ t.free p = .error noSuch ∧
      (∀ u, t.register p u = .error noSuch) ∧ (∀ s, t.setStateNamed p s = .error noSuch) ∧
      ∀ f, t.update p f = .error noSuch := by
  have hl : t.lookup p = .error noSuch := by simp [lookup, hp]
  refine ⟨hl, ?_, ?_, ?_, ?_⟩
  · simp [free, hl, bind, Except.bind]
  · intro u; simp [register, update, hl, bind, Except.bind]
  · intro s; simp [setStateNamed, update, hl, bind, Except.bind]
  · intro f; simp [update, hl, bind, Except.bind]

/-- Writing a live process's slot changes what that number names and nothing else. -/
theorem get?_set! (t : Table) {p q : Int} (hp : 0 < p) (hsize : p.toNat < t.slots.size)
    (v : Option Record) (n l : Nat) :
    ({ slots := t.slots.set! p.toNat v, next := n, live := l } : Table).get? q =
      if q = p then v else t.get? q := by
  by_cases hq : 0 < q
  · rw [get?_eq_slot? hq, get?_eq_slot? hq]
    simp only [slot?, slot?_set!]
    by_cases hqp : q = p
    · subst hqp; simp [hsize]
    · rw [if_neg (by omega), if_neg hqp]
  · have hne : q ≠ p := by omega
    simp [get?, Int.not_lt.mp hq, hne]

/-- Writing back the record a slot holds changes nothing. -/
theorem set!_self (t : Table) {p : Nat} {v : Option Record} (hp : t.slots[p]? = some v) :
    t.slots.set! p v = t.slots := by
  have hsize : p < t.slots.size := by
    by_contra hge; simp [Array.getElem?_eq_none (Nat.le_of_not_lt hge)] at hp
  apply Array.ext_getElem? 
  intro q
  simp only [Array.set!_eq_setIfInBounds, Array.getElem?_setIfInBounds]
  by_cases hpq : p = q
  · subst hpq
    rw [Array.getElem?_eq_getElem hsize] at hp
    simp [hsize, (Option.some.inj hp).symm]
  · simp [hpq]

/-- A state change moves the record along an allowed move or keeps its state,
changes no other number, and asking for the current state changes nothing. -/
theorem setStateNamed_moves {p : Int} {s : String} {t' : Table}
    (hs : t.setStateNamed p s = .ok t') :
    ∃ r st, t.get? p = some r ∧ t'.get? p = some { r with state := st } ∧
      (st = r.state ∨ r.state.canMove st = true) ∧ (∀ q, q ≠ p → t'.get? q = t.get? q) ∧
      (s = r.state.name → t' = t) := by
  obtain ⟨r, r', hr, hf, rfl⟩ := update_eq_ok_iff.mp hs
  have hpos := pos_of_get? hr
  have hslot : t.slots[p.toNat]? = some (some r) := by
    rw [get?_eq_slot? hpos] at hr
    unfold slot? at hr
    cases hx : t.slots[p.toNat]? with
    | none => simp [hx] at hr
    | some x => simp [hx] at hr; rw [hr]
  have hsize : p.toNat < t.slots.size := by
    by_contra hge; simp [Array.getElem?_eq_none (Nat.le_of_not_lt hge)] at hslot
  have hafter : ∀ q, (t.put p r').get? q = if q = p then some r' else t.get? q :=
    fun q => get?_set! (q := q) t hpos hsize (some r') t.next t.live
  -- the record after the change, by the three ways the change can go
  have hmove : ∃ st, r' = { r with state := st } ∧ (st = r.state ∨ r.state.canMove st = true) ∧
      (s = r.state.name → r' = r) := by
    by_cases hsame : s = r.state.name
    · simp only [hsame, if_true, Except.ok.injEq] at hf
      exact ⟨r.state, hf.symm, Or.inl rfl, fun _ => hf.symm⟩
    · simp only [hsame, if_false] at hf
      cases hname : State.ofName? s with
      | none => simp [hname] at hf
      | some st =>
        simp only [hname] at hf
        by_cases hcan : r.state.canMove st = true
        · simp only [hcan, if_true, Except.ok.injEq] at hf
          exact ⟨st, hf.symm, Or.inr hcan, fun h => absurd h hsame⟩
        · simp [hcan] at hf
  obtain ⟨st, rfl, hallowed, hnoop⟩ := hmove
  refine ⟨r, st, hr, by rw [hafter p, if_pos rfl], hallowed, fun q hq => by rw [hafter q, if_neg hq], ?_⟩
  intro hsame
  rw [hnoop hsame]
  unfold put
  rw [set!_self t hslot]

/-- A terminating process stays terminating. -/
theorem setStateNamed_terminating {p : Int} {s : String} {t' : Table} {r : Record}
    (hr : t.get? p = some r) (hterm : r.state = .terminating) (hs : t.setStateNamed p s = .ok t') :
    t'.get? p = some r := by
  obtain ⟨r₀, st, hr₀, hafter, hallowed, -⟩ := setStateNamed_moves hs
  rw [hr] at hr₀
  cases hr₀
  rcases hallowed with rfl | hcan
  · simpa using hafter
  · rw [hterm] at hcan
    simp [State.canMove] at hcan

/-- The live records are listed in increasing order of number. -/
theorem Wf.records_sorted (h : t.Wf) : (t.records.map (·.pid)).Pairwise (· < ·) := by
  rw [records_eq, List.pairwise_map]
  apply List.Pairwise.filterMap _ _ List.pairwise_lt_range
  intro a a' hlt r hr r' hr'
  rw [h.pid_eq a r hr, h.pid_eq a' r' hr']
  exact hlt

/-! ## What each call does to every lookup -/

/-- A new table finds no record. -/
theorem get?_new (maxPID : Nat) (q : Int) : (Table.new maxPID).get? q = none := by
  unfold get? Table.new
  split_ifs
  · rfl
  · simp only [Array.getElem?_replicate]
    split_ifs <;> rfl

/-- A number that finds a record names a slot of the table. -/
theorem lt_size_of_get? {p : Int} {r : Record} (hr : t.get? p = some r) : p.toNat < t.slots.size := by
  rw [get?_eq_slot? (pos_of_get? hr)] at hr
  by_contra hge
  simp [slot?, Array.getElem?_eq_none (Nat.le_of_not_lt hge)] at hr

/-- The record at `p` is the one changed, and every other number finds what it found. -/
theorem get?_of_update {p : Int} {f : Record → Except Fault Record} {t' : Table}
    (hu : t.update p f = .ok t') :
    ∃ r r', t.get? p = some r ∧ f r = .ok r' ∧
      ∀ q, t'.get? q = if q = p then some r' else t.get? q := by
  obtain ⟨r, r', hr, hf, rfl⟩ := update_eq_ok_iff.mp hu
  exact ⟨r, r', hr, hf, fun q => get?_set! t (q := q) (pos_of_get? hr) (lt_size_of_get? hr) _ _ _⟩

theorem get?_put {p : Int} {r₀ : Record} (hr : t.get? p = some r₀) (r : Record) (q : Int) :
    (t.put p r).get? q = if q = p then some r else t.get? q :=
  get?_set! t (q := q) (pos_of_get? hr) (lt_size_of_get? hr) _ _ _

theorem get?_of_free {p : Int} {t' : Table} (hf : t.free p = .ok t') (q : Int) :
    t'.get? q = if q = p then none else t.get? q := by
  cases hr : t.get? p with
  | none => rw [(absent t hr).2.1] at hf; cases hf
  | some r =>
    rw [free_of_get? hr] at hf
    cases hf
    exact get?_set! t (q := q) (pos_of_get? hr) (lt_size_of_get? hr) _ _ _

/-- Freeing a slot forgets what was last written to it. -/
theorem free_of_update {p : Int} {f : Record → Except Fault Record} {t' : Table}
    (hu : t.update p f = .ok t') : t'.free p = t.free p := by
  obtain ⟨r, r', hr, -, rfl⟩ := update_eq_ok_iff.mp hu
  have hr' : (t.put p r').get? p = some r' := by
    rw [get?_put hr]
    simp
  rw [free_of_get? hr, free_of_get? hr']
  simp [put, Array.set!_eq_setIfInBounds]

/-- On a table that keeps its invariant, a record is found at its own number. -/
theorem Wf.pid_of_get? (h : t.Wf) {p : Int} {r : Record} (hr : t.get? p = some r) :
    (r.pid : Int) = p := by
  have hpos := pos_of_get? hr
  rw [get?_eq_slot? hpos] at hr
  have := h.pid_eq _ _ hr
  omega

theorem Wf.get?_pid (h : t.Wf) {p : Int} {r : Record} (hr : t.get? p = some r) :
    t.get? r.pid = some r := by
  rw [h.pid_of_get? hr]
  exact hr

@[simp] theorem put_put (t : Table) (p : Int) (r r' : Record) : (t.put p r).put p r' = t.put p r' := by
  simp [put, Array.set!_eq_setIfInBounds]

/-- A live process with no unit takes the one registered for it. -/
theorem register_of_none {p : Int} {r : Record} (hr : t.get? p = some r) (hnone : r.unit = none)
    (u : String) : t.register p u = .ok (t.put p { r with unit := some u }) := by
  simp [register, update, lookup, hr, hnone, bind, Except.bind, pure, Except.pure, put]

/-- A registration succeeds only on a live process with no unit, and gives it the unit. -/
theorem register_eq_ok {p : Int} {u : String} {t' : Table} (h : t.register p u = .ok t') :
    ∃ r, t.get? p = some r ∧ r.unit = none ∧ t' = t.put p { r with unit := some u } := by
  obtain ⟨r, r', hr, hf, rfl⟩ := update_eq_ok_iff.mp h
  cases hu : r.unit with
  | some u' => rw [hu] at hf; cases hf
  | none => rw [hu] at hf; cases hf; exact ⟨r, hr, hu, rfl⟩

/-- A new process takes a slot that was free, starts out as `allocate` promises,
and every other number finds what it found. -/
theorem Wf.get?_of_allocate (h : t.Wf) {spec : Spec} {ends : Endpoints} {now : Nat} {r : Record}
    {t' : Table} (ha : t.allocate spec ends now = .ok (r, t')) :
    0 < r.pid ∧ t.get? r.pid = none ∧ r.state = .starting ∧ r.started = false ∧ r.unit = none ∧
      r.stdout = ends.stdout ∧ r.stderr = ends.stderr ∧
      ∀ q, t'.get? q = if q = (r.pid : Int) then some r else t.get? q := by
  cases hf : t.firstFree? with
  | none => simp [Table.allocate, hf] at ha
  | some pid =>
    obtain ⟨hpos, hle, hfree⟩ := h.firstFree?_spec hf
    unfold Table.allocate at ha
    rw [hf] at ha
    cases ha
    have hsize : pid < t.slots.size := by have := h.two_le; unfold cap at hle; omega
    refine ⟨?_, ?_, rfl, rfl, rfl, rfl, rfl, fun q => ?_⟩
    · show 0 < pid
      omega
    · show t.get? (pid : Int) = none
      rw [get?_natCast (by omega)]
      exact hfree
    · exact get?_set! t (p := (pid : Int)) (q := q) (by omega) hsize _ _ _

/-- A new process whose slot is freed again leaves every lookup as it was. -/
theorem Wf.get?_of_allocate_free (h : t.Wf) {spec : Spec} {ends : Endpoints} {now : Nat} {r : Record}
    {t₁ t₂ : Table} (ha : t.allocate spec ends now = .ok (r, t₁)) (hfree : t₁.free r.pid = .ok t₂)
    (q : Int) : t₂.get? q = t.get? q := by
  obtain ⟨-, hfree₀, -, -, -, -, -, hget⟩ := h.get?_of_allocate ha
  rw [get?_of_free hfree, hget]
  split_ifs with hq
  · rw [hq, hfree₀]
  · rfl

end Table

/-! ## Runs of calls -/

/-- A call on the process table. -/
inductive TableCall where
  | allocate (spec : Spec) (ends : Endpoints) (now : Nat)
  | get (pid : Int)
  | register (pid : Int) (unit : String)
  | setState (pid : Int) (state : String)
  | update (pid : Int) (f : Record → Except Fault Record)
  | free (pid : Int)
  | snapshot

namespace TableCall

/-- A call keeps the numbers records are filed under: an update may change a
record's fields but not its number, as every update the supervisor makes (joining
a pipe, marking a start) does. -/
def KeepsPid : TableCall → Prop
  | .update _ f => ∀ r r', f r = .ok r' → r'.pid = r.pid
  | _ => True

end TableCall

namespace Table

variable {t : Table}

/-- The table a call leaves: the changed one, or the same one if the call was refused. -/
def orKeep (t : Table) : Except Fault Table → Table
  | .ok t' => t'
  | .error _ => t

/-- The table after a call. -/
def apply (t : Table) : TableCall → Table
  | .allocate spec ends now => t.orKeep ((t.allocate spec ends now).map Prod.snd)
  | .get _ => t
  | .register p u => t.orKeep (t.register p u)
  | .setState p s => t.orKeep (t.setStateNamed p s)
  | .update p f => t.orKeep (t.update p f)
  | .free p => t.orKeep (t.free p)
  | .snapshot => t

/-- The table after calls made one after another. -/
def run (t : Table) (calls : List TableCall) : Table := calls.foldl apply t

/-- What holds of the table before a call and of every table the call can make
holds after it. -/
theorem of_orKeep {P : Table → Prop} {x : Except Fault Table} (ht : P t)
    (hx : ∀ t', x = .ok t' → P t') : P (t.orKeep x) := by
  cases x with
  | ok t' => exact hx t' rfl
  | error _ => exact ht

theorem map_snd_eq_ok {x : Except Fault (Record × Table)} {t' : Table} (h : x.map Prod.snd = .ok t') :
    ∃ r, x = .ok (r, t') := by
  cases x with
  | ok rt => exact ⟨rt.1, by simp [Except.map] at h; rw [← h]⟩
  | error _ => simp [Except.map] at h

/-- No call changes the number of slots. -/
theorem size_apply (t : Table) (c : TableCall) : (t.apply c).slots.size = t.slots.size := by
  have hupdate : ∀ p f, (t.orKeep (t.update p f)).slots.size = t.slots.size := by
    intro p f
    refine of_orKeep (P := fun t' => t'.slots.size = t.slots.size) rfl fun t' ht' => ?_
    obtain ⟨-, -, -, -, rfl⟩ := update_eq_ok_iff.mp ht'
    simp [put]
  cases c with
  | allocate spec ends now =>
    refine of_orKeep (P := fun t' => t'.slots.size = t.slots.size) rfl fun t' ht' => ?_
    obtain ⟨r, ha⟩ := map_snd_eq_ok ht'
    unfold Table.allocate at ha
    split at ha
    · cases ha
    · cases ha; simp
  | get _ => rfl
  | register p u => exact hupdate p _
  | setState p s => exact hupdate p _
  | update p f => exact hupdate p f
  | free p =>
    refine of_orKeep (P := fun t' => t'.slots.size = t.slots.size) rfl fun t' ht' => ?_
    cases hr : t.get? p with
    | none => simp [Table.free, lookup, hr, bind, Except.bind] at ht'
    | some r =>
      rw [free_of_get? hr, Except.ok.injEq] at ht'
      subst ht'
      simp
  | snapshot => rfl

theorem size_run (t : Table) (calls : List TableCall) : (t.run calls).slots.size = t.slots.size := by
  induction calls generalizing t with
  | nil => rfl
  | cons c calls ih => exact (ih (t.apply c)).trans (size_apply t c)

/-- One call keeps the invariant. -/
theorem Wf.apply (h : t.Wf) (c : TableCall) (hc : c.KeepsPid) : (t.apply c).Wf := by
  cases c with
  | allocate spec ends now =>
    refine of_orKeep h fun t' ht' => ?_
    obtain ⟨r, ha⟩ := map_snd_eq_ok ht'
    exact h.allocate ha
  | get _ => exact h
  | register p u =>
    -- a registration only fills in the unit
    refine of_orKeep h fun t' ht' => h.update ?_ ht'
    intro r r' hf
    cases hu : r.unit <;> simp [hu] at hf
    rw [← hf]
  | setState p s => exact of_orKeep h fun t' ht' => h.setStateNamed ht'
  | update p f => exact of_orKeep h fun t' ht' => h.update hc ht'
  | free p => exact of_orKeep h fun t' ht' => h.free ht'
  | snapshot => exact h

/-- Every run of calls keeps the invariant. -/
theorem Wf.run (h : t.Wf) (calls : List TableCall) (hc : ∀ c ∈ calls, c.KeepsPid) :
    (t.run calls).Wf := by
  induction calls generalizing t with
  | nil => exact h
  | cons c calls ih =>
    exact ih (h.apply c (hc c (by simp))) fun c' hc' => hc c' (by simp [hc'])

/-- What a table promises to every call made on it. -/
structure Contract (t : Table) : Prop where
  live_le : t.live ≤ t.cap
  allocate_full : ∀ spec ends now,
    t.allocate spec ends now = .error (.sys (SysError.of .tableFull)) ↔ t.live = t.cap
  allocate_first : ∀ spec ends now, t.live < t.cap → ∃ r t', t.allocate spec ends now = .ok (r, t') ∧
    (cyclicOrder t.next t.cap).find? (fun p => (t.slot? p).isNone) = some r.pid ∧
    r.state = .starting ∧ r.unit = none ∧ r.started = false ∧
    t'.slot? r.pid = some r ∧ ∀ q, q ≠ r.pid → t'.slot? q = t.slot? q
  free_then_allocate : ∀ p r, t.get? p = some r → ∃ t', t.free p = .ok t' ∧
    ∀ spec ends now, ∃ r' t'', t'.allocate spec ends now = .ok (r', t'') ∧ (r'.pid : Int) = p
  absent : ∀ p, t.get? p = none →
    t.lookup p = .error noSuch ∧ t.free p = .error noSuch ∧
      (∀ u, t.register p u = .error noSuch) ∧ (∀ s, t.setStateNamed p s = .error noSuch) ∧
      ∀ f, t.update p f = .error noSuch
  setState_moves : ∀ p s t', t.setStateNamed p s = .ok t' →
    ∃ r st, t.get? p = some r ∧ t'.get? p = some { r with state := st } ∧
      (st = r.state ∨ r.state.canMove st = true) ∧ (∀ q, q ≠ p → t'.get? q = t.get? q) ∧
      (s = r.state.name → t' = t)
  terminating_stays : ∀ p s t' r, t.get? p = some r → r.state = .terminating →
    t.setStateNamed p s = .ok t' → t'.get? p = some r
  records_eq : t.records = (List.range t.slots.size).filterMap t.slot?
  records_sorted : (t.records.map (·.pid)).Pairwise (· < ·)

theorem Wf.contract (h : t.Wf) : t.Contract where
  live_le := h.live_le
  allocate_full _ _ _ := h.allocate_eq_tableFull_iff
  allocate_first _ _ _ hlt := h.allocate_first hlt
  free_then_allocate _ _ hr := h.free_then_allocate hr
  absent _ hp := t.absent hp
  setState_moves _ _ _ hs := setStateNamed_moves hs
  terminating_stays _ _ _ _ hr hterm hs := setStateNamed_terminating hr hterm hs
  records_eq := t.records_eq
  records_sorted := h.records_sorted

/-- For every table size (below 2 taken as 2) and every sequence of calls that
keep records' numbers, the table holds the numbers `1 … maxPID - 1`, keeps its
invariant, and every call on it does what the table promises. -/
theorem run_new_wf_contract (maxPID : Nat) (calls : List TableCall)
    (hcalls : ∀ c ∈ calls, c.KeepsPid) :
    ((Table.new maxPID).run calls).cap = max maxPID 2 - 1 ∧
      ((Table.new maxPID).run calls).Wf ∧ ((Table.new maxPID).run calls).Contract :=
  have h := (wf_new maxPID).run calls hcalls
  ⟨by simp [cap, size_run, Table.new], h, h.contract⟩

/-- A table of three slots after a process is created, marked started and freed. -/
theorem run_new_wf_contract_three :
    (∀ c ∈ [TableCall.allocate default default 0,
        .update 1 (fun r => .ok { r with started := true }), .free 1], c.KeepsPid) ∧
      ((Table.new 3).run [.allocate default default 0,
        .update 1 (fun r => .ok { r with started := true }), .free 1]).cap = max 3 2 - 1 ∧
      ((Table.new 3).run [.allocate default default 0,
        .update 1 (fun r => .ok { r with started := true }), .free 1]).Wf ∧
      ((Table.new 3).run [.allocate default default 0,
        .update 1 (fun r => .ok { r with started := true }), .free 1]).Contract := by
  have hcalls : ∀ c ∈ [TableCall.allocate default default 0,
      .update 1 (fun r => .ok { r with started := true }), .free 1], c.KeepsPid := by
    intro c hc
    simp only [List.mem_cons, List.not_mem_nil, or_false] at hc
    rcases hc with rfl | rfl | rfl
    · trivial
    · intro r r' hf; cases hf; rfl
    · trivial
  exact ⟨hcalls, run_new_wf_contract 3 _ hcalls⟩

end Table

end Userland
