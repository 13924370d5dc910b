import Userland.Proofs.Process.Table

/-! # Tables no call can tell apart

Two process tables are alike when they hold the same records in the same
slots, count the same live processes, and would hand out the same number next.
Their cursors may differ: a cursor that sits on the free number the search from
the other cursor finds first makes no difference to any call.

* `Table.Alike.allocate_eq`, `Table.Alike.free_eq`: creating or freeing a
  process in two alike tables gives equal tables.
* `Table.Alike.run`: every call keeps two tables alike, so after any further
  calls they find the same records and hand out the same numbers
  (`Table.Alike.run_allocate`).
* `Table.Wf.alike_allocate_free`: taking a slot and freeing it again leaves a
  table alike to the one before, although its cursor moved onto the freed
  number.
-/

namespace Userland

namespace Table

/-- Two tables that no call can tell apart. -/
structure Alike (t t' : Table) : Prop where
  slots : t'.slots = t.slots
  live : t'.live = t.live
  firstFree : t'.firstFree? = t.firstFree?

variable {t t' t'' : Table}

@[refl] theorem Alike.refl (t : Table) : t.Alike t := ⟨rfl, rfl, rfl⟩

@[symm] theorem Alike.symm (h : t.Alike t') : t'.Alike t :=
  ⟨h.slots.symm, h.live.symm, h.firstFree.symm⟩

@[trans] theorem Alike.trans (h : t.Alike t') (h' : t'.Alike t'') : t.Alike t'' :=
  ⟨h'.slots.trans h.slots, h'.live.trans h.live, h'.firstFree.trans h.firstFree⟩

theorem Alike.cap_eq (h : t.Alike t') : t'.cap = t.cap := by simp [cap, h.slots]

theorem Alike.get?_eq (h : t.Alike t') (p : Int) : t'.get? p = t.get? p := by
  simp [Table.get?, h.slots]

theorem Alike.records_eq (h : t.Alike t') : t'.records = t.records := by simp [records, h.slots]

/-- Creating a process in two alike tables gives the same record and equal tables. -/
theorem Alike.allocate_eq (h : t.Alike t') (spec : Spec) (ends : Endpoints) (now : Nat) :
    t'.allocate spec ends now = t.allocate spec ends now := by
  unfold allocate
  rw [h.firstFree, h.cap_eq, h.slots, h.live]

/-- Freeing a process in two alike tables gives equal tables. -/
theorem Alike.free_eq (h : t.Alike t') (p : Int) : t'.free p = t.free p := by
  simp only [free, lookup, h.get?_eq p, h.slots, h.live]

/-! ## The first free number -/

/-- The search for a free number depends on the cursor, the number of slots and
which slots are free, and on nothing else. -/
theorem firstFree?_congr (hnext : t'.next = t.next) (hsize : t'.slots.size = t.slots.size)
    (hfree : ∀ q, (t'.slot? q).isNone = (t.slot? q).isNone) : t'.firstFree? = t.firstFree? := by
  unfold firstFree? searchOrder cap
  rw [hnext, hsize]
  exact congrArg (fun f => List.find? f _) (funext hfree)

/-- A cursor on a free number finds it at once. -/
theorem firstFree?_of_free_next (h1 : 1 ≤ t.next) (h2 : t.next ≤ t.cap)
    (hfree : t.slot? t.next = none) : t.firstFree? = some t.next := by
  obtain ⟨c, hc⟩ : ∃ c, t.cap = c + 1 := ⟨t.cap - 1, by omega⟩
  have hfirst : (t.next - 1 + 0) % t.cap + 1 = t.next := by
    rw [Nat.add_zero, Nat.mod_eq_of_lt (by omega)]
    omega
  have hisNone : (t.slot? ((t.next - 1 + 0) % t.cap + 1)).isNone = true := by
    rw [hfirst, hfree]
    rfl
  unfold firstFree?
  rw [searchOrder, hc, List.range_succ_eq_map, List.map_cons, List.find?_cons, ← hc]
  rw [show (t.slots[(t.next - 1 + 0) % t.cap + 1]?).join.isNone = true from hisNone]
  exact congrArg some hfirst

/-- Replacing a live record leaves the same slots free. -/
theorem firstFree?_put {p : Int} {r₀ : Record} (hr : t.get? p = some r₀) (r : Record) :
    (t.put p r).firstFree? = t.firstFree? := by
  refine firstFree?_congr rfl (by simp [put]) fun q => ?_
  have hpos := pos_of_get? hr
  rw [get?_eq_slot? hpos] at hr
  show ((t.slots.set! p.toNat (some r))[q]?).join.isNone = _
  rw [slot?_set!]
  split
  · rename_i hq
    rw [← hq.1, hr]
    rfl
  · rfl

/-- Replacing a live record in two alike tables keeps them alike. -/
theorem Alike.put (h : t.Alike t') {p : Int} {r₀ : Record} (hr : t.get? p = some r₀) (r : Record) :
    (t.put p r).Alike (t'.put p r) := by
  have hr' : t'.get? p = some r₀ := (h.get?_eq p).trans hr
  refine ⟨show t'.slots.set! _ _ = t.slots.set! _ _ by rw [h.slots], h.live, ?_⟩
  rw [firstFree?_put hr', firstFree?_put hr]
  exact h.firstFree

/-! ## Calls on alike tables -/

/-- What a call that may refuse gives on two alike tables: the same refusal, or
tables that are again alike. -/
inductive AlikeResult : Except Fault Table → Except Fault Table → Prop where
  | error (e : Fault) : AlikeResult (.error e) (.error e)
  | ok {u u' : Table} (h : u.Alike u') : AlikeResult (.ok u) (.ok u')

theorem AlikeResult.refl (x : Except Fault Table) : AlikeResult x x := by
  cases x with
  | error e => exact .error e
  | ok u => exact .ok (.refl u)

/-- The table a call leaves keeps two tables alike. -/
theorem AlikeResult.orKeep {x x' : Except Fault Table} (h : t.Alike t') (hx : AlikeResult x x') :
    (t.orKeep x).Alike (t'.orKeep x') := by
  cases hx with
  | error e => exact h
  | ok hu => exact hu

/-- A change of a record refuses alike in two alike tables, or changes them alike. -/
theorem Alike.update (h : t.Alike t') (p : Int) (f : Record → Except Fault Record) :
    AlikeResult (t.update p f) (t'.update p f) := by
  cases hr : t.get? p with
  | none =>
    rw [(absent t hr).2.2.2.2 f, (absent t' ((h.get?_eq p).trans hr)).2.2.2.2 f]
    exact .error _
  | some r =>
    have hr' : t'.get? p = some r := (h.get?_eq p).trans hr
    cases hf : f r with
    | error e =>
      have hfail : ∀ u : Table, u.get? p = some r → u.update p f = .error e := by
        intro u hu
        simp [Table.update, lookup, hu, hf, bind, Except.bind]
      rw [hfail t hr, hfail t' hr']
      exact .error e
    | ok r' =>
      have hok : ∀ u : Table, u.get? p = some r → u.update p f = .ok (u.put p r') :=
        fun u hu => update_eq_ok_iff.mpr ⟨r, r', hu, hf, rfl⟩
      rw [hok t hr, hok t' hr']
      exact .ok (h.put hr r')

/-- One call keeps two tables alike. -/
theorem Alike.apply (h : t.Alike t') (c : TableCall) : (t.apply c).Alike (t'.apply c) := by
  cases c with
  | allocate spec ends now =>
    simp only [Table.apply, h.allocate_eq]
    exact (AlikeResult.refl _).orKeep h
  | get _ => exact h
  | register p u => exact (h.update p _).orKeep h
  | setState p s => exact (h.update p _).orKeep h
  | update p f => exact (h.update p f).orKeep h
  | free p =>
    simp only [Table.apply, h.free_eq]
    exact (AlikeResult.refl _).orKeep h
  | snapshot => exact h

/-- Any run of calls keeps two tables alike. -/
theorem Alike.run (h : t.Alike t') (calls : List TableCall) : (t.run calls).Alike (t'.run calls) := by
  induction calls generalizing t t' with
  | nil => exact h
  | cons c calls ih => exact ih (h.apply c)

/-- After any run of calls, two alike tables hand out the same next process. -/
theorem Alike.run_allocate (h : t.Alike t') (calls : List TableCall) (spec : Spec)
    (ends : Endpoints) (now : Nat) :
    (t'.run calls).allocate spec ends now = (t.run calls).allocate spec ends now :=
  (h.run calls).allocate_eq spec ends now

/-! ## Taking a slot back -/

/-- Taking a slot for a new process and freeing it again leaves a table alike
to the one before: the cursor moved onto the freed number, which is the number
the search from the old cursor found first. -/
theorem Wf.alike_allocate_free (h : t.Wf) {spec : Spec} {ends : Endpoints} {now : Nat}
    {r : Record} {t₁ t₂ : Table} (ha : t.allocate spec ends now = .ok (r, t₁))
    (hfree : t₁.free r.pid = .ok t₂) : t.Alike t₂ := by
  cases hf : t.firstFree? with
  | none => simp [Table.allocate, hf] at ha
  | some pid =>
    obtain ⟨r₀, ha₀, hpid, -⟩ := allocate_of_firstFree? spec ends now hf
    rw [ha₀, Except.ok.injEq, Prod.mk.injEq] at ha
    obtain ⟨rfl, rfl⟩ := ha
    obtain ⟨hp1, hp2, hempty⟩ := h.firstFree?_spec hf
    have hsize : pid < t.slots.size := by unfold cap at hp2; have := h.two_le; omega
    have hr₁ : ({ slots := t.slots.set! pid (some r₀), next := pid % t.cap + 1, live := t.live + 1 } :
        Table).get? (r₀.pid : Int) = some r₀ := by
      rw [get?_natCast (by omega), hpid]
      simp [slot?, hsize]
    rw [free_of_get? hr₁, Except.ok.injEq] at hfree
    subst hfree
    -- the slot holds nothing again, as before
    have hslot : t.slots[pid]? = some none := by
      simpa [slot?, Array.getElem?_eq_getElem hsize] using hempty
    have hslots : (t.slots.set! pid (some r₀)).set! pid none = t.slots := by
      simp only [Array.set!_eq_setIfInBounds, Array.setIfInBounds_setIfInBounds]
      rw [← Array.set!_eq_setIfInBounds]
      exact set!_self t hslot
    simp only [hpid, Int.toNat_natCast]
    refine ⟨hslots, by simp, ?_⟩
    rw [hf]
    refine firstFree?_of_free_next hp1 ?_ ?_
    · show pid ≤ ((t.slots.set! pid (some r₀)).set! pid none).size - 1
      rw [hslots]
      exact hp2
    · show (((t.slots.set! pid (some r₀)).set! pid none)[pid]?).join = none
      rw [hslots]
      exact hempty

end Table

end Userland
