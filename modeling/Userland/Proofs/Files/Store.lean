import Userland.Proofs.Files.Canonical

/-! # The in-memory file system is a store of files

Over every run of calls from any set of files, the in-memory file system
behaves as a map from canonical paths to bytes with a table of descriptors.
Descriptors are handed out as 3, 4, 5, … and never again, and a call on one
that is not open fails as closed. An open descriptor keeps the path and mode
it was opened with and collects exactly the bytes written through it, if it is
a writer. A reader reads its file as it is at the time of the read, and
closing a writer puts in its file the bytes written, after the file's content
at open time when it appends (mode 2). Only a put and the close of a writer
change a file. The main statement is `Memory.behaves_as_store`.
-/

namespace Userland

/-- A call a program makes on a file system. -/
inductive FileCall where
  | openFile (name : String) (mode : OpenMode)
  | write (fd : Int) (data : List UInt8)
  | readAll (fd : Int)
  | close (fd : Int)
  | put (name : String) (data : List UInt8)
  | get (name : String)
  deriving DecidableEq

/-- What a call on a file system answers. -/
inductive FileAnswer where
  | opened (r : Except Fault Int)
  | wrote (r : Except Fault Unit)
  | read (r : Except Fault (List UInt8))
  | closed (r : Except Fault Unit)
  | stored
  | found (data : Option (List UInt8))

/-- The descriptor an answer hands out: that of an open that went through. -/
def FileAnswer.openedFd? : FileAnswer → Option Int
  | .opened (.ok fd) => some fd
  | _ => none

/-- The descriptors a run of answers handed out, in order. -/
def openedFds (as : List FileAnswer) : List Int := as.filterMap FileAnswer.openedFd?

/-- The bytes a call writes through a descriptor. -/
def FileCall.bytesTo (fd : Int) : FileCall → List UInt8
  | .write k data => if k = fd then data else []
  | _ => []

/-- The bytes a run of calls writes through a descriptor, in order. -/
def writtenTo (fd : Int) (cs : List FileCall) : List UInt8 := (cs.map (FileCall.bytesTo fd)).flatten

/-- A descriptor after a run of calls: a writer has collected what they wrote through it. -/
def Descriptor.collect (fd : Int) (cs : List FileCall) (d : Descriptor) : Descriptor :=
  { d with written := d.written ++ if d.mode = OpenMode.read then [] else writtenTo fd cs }

namespace Memory

/-- What a call on the in-memory file system answers, and the file system after it. -/
def call (m : Memory) : FileCall → FileAnswer × Memory
  | .openFile name mode =>
    match m.openFile name mode with
    | .ok (fd, m') => (.opened (.ok fd), m')
    | .error e => (.opened (.error e), m)
  | .write fd data =>
    match m.write fd data with
    | .ok m' => (.wrote (.ok ()), m')
    | .error e => (.wrote (.error e), m)
  | .readAll fd => (.read (m.readAll fd), m)
  | .close fd =>
    match m.close fd with
    | .ok m' => (.closed (.ok ()), m')
    | .error e => (.closed (.error e), m)
  | .put name data => (.stored, m.put name data)
  | .get name => (.found (m.get? name), m)

/-- The answers of calls made one after another. -/
def answers (m : Memory) : List FileCall → List FileAnswer
  | [] => []
  | c :: cs => (m.call c).1 :: (m.call c).2.answers cs

/-- The file system after calls made one after another. -/
def after (m : Memory) : List FileCall → Memory
  | [] => m
  | c :: cs => (m.call c).2.after cs

/-- The content kept under a path, taken as it is. -/
def fileAt (m : Memory) (k : String) : Option (List UInt8) :=
  (m.files.find? (·.1 == k)).map (·.2)

/-- The calls that may change a file: a put, and the close of a descriptor
opened for writing. -/
def Publishes (m : Memory) : FileCall → Prop
  | .put _ _ => True
  | .close fd => ∃ d, m.descriptor fd = .ok d ∧ d.mode ≠ OpenMode.read
  | _ => False

/-- Every call on the descriptor fails as closed. -/
def Rejects (m : Memory) (fd : Int) : Prop :=
  ∀ data, m.write fd data = .error (notOpen fd) ∧ m.readAll fd = .error (notOpen fd) ∧
    m.close fd = .error (notOpen fd)

/-- No descriptor is open at or past the next number. -/
def Fresh (m : Memory) : Prop := ∀ fd, (m.open_.lookup fd).isSome → fd < m.nextFd

end Memory

namespace Descriptor

variable {fd : Int} {c : FileCall} {cs : List FileCall}

@[simp] theorem collect_nil : collect fd [] = id := by
  funext d
  simp [collect, writtenTo]

theorem collect_of_bytesTo (h : c.bytesTo fd = []) : collect fd [c] = id := by
  funext d
  simp [collect, writtenTo, h]

theorem map_collect_of_bytesTo (h : c.bytesTo fd = []) (o : Option Descriptor) :
    o.map (collect fd [c]) = o := by
  rw [collect_of_bytesTo h, Option.map_id, id_eq]

theorem collect_cons : collect fd (c :: cs) = collect fd cs ∘ collect fd [c] := by
  funext d
  by_cases hr : d.mode = OpenMode.read <;> simp [collect, writtenTo, hr]

end Descriptor

/-! ## Lists of keyed entries -/

section Entries

variable {β : Type} (l : List (Int × β)) (fd k : Int)

theorem lookup_map_at (g : β → β) :
    (l.map fun (x : Int × β) => if x.1 == fd then (x.1, g x.2) else (x.1, x.2)).lookup k =
      (l.lookup k).map (if k = fd then g else id) := by
  induction l with
  | nil => rfl
  | cons e l ih =>
    obtain ⟨k', e⟩ := e
    simp only [List.map_cons]
    by_cases hf : k' = fd
    · subst hf
      simp only [beq_self_eq_true, if_true]
      rw [List.lookup_cons, List.lookup_cons, ih]
      cases hk : k == k' with
      | false => rfl
      | true => simp [beq_iff_eq.mp hk]
    · simp only [beq_false_of_ne hf, Bool.false_eq_true, if_false]
      rw [List.lookup_cons, List.lookup_cons, ih]
      cases hk : k == k' with
      | false => rfl
      | true => simp [beq_iff_eq.mp hk, hf]

theorem lookup_filter_ne : (l.filter (·.1 != fd)).lookup k = if k = fd then none else l.lookup k := by
  induction l with
  | nil => simp
  | cons e l ih =>
    obtain ⟨k', e⟩ := e
    rw [List.filter_cons, List.lookup_cons]
    by_cases hf : k' = fd
    · subst hf
      rw [if_neg (by simp), ih]
      cases hk : k == k' with
      | false => simp [beq_eq_false_iff_ne.mp hk]
      | true => simp [beq_iff_eq.mp hk]
    · rw [if_pos (by simpa using hf), List.lookup_cons, ih]
      cases hk : k == k' with
      | false => rfl
      | true =>
        obtain rfl := beq_iff_eq.mp hk
        simp [hf]

theorem lookup_append_fresh {n : Int} {d : β} (hn : l.lookup n = none) :
    (l ++ [(n, d)]).lookup k = if k = n then some d else l.lookup k := by
  rw [List.lookup_append]
  by_cases hk : k = n
  · subst hk
    simp [hn]
  · cases hl : l.lookup k <;> simp [hk]

end Entries

section Paths

variable {β : Type} (l : List (String × β)) (key k : String) (d : β)

theorem find?_replace :
    ((l.map fun x => match x with | (p, y) => if (p == key) = true then (p, d) else (p, y)).find?
      (·.1 == k)).map (·.2) =
      if k = key then (if l.any (·.1 == key) then some d else none) else (l.find? (·.1 == k)).map (·.2) := by
  -- replacing keeps every key, so the search finds the same entry
  have hkeys : ((·.1 == k) ∘ fun x : String × β => match x with
      | (p, y) => if (p == key) = true then (p, d) else (p, y)) = (·.1 == k) := by
    funext ⟨p, y⟩
    by_cases h : p = key <;> simp [h]
  rw [List.find?_map, hkeys]
  cases hf : l.find? (·.1 == k) with
  | none =>
    by_cases hk : k = key
    · subst hk
      have hany : l.any (·.1 == k) = false := by simpa [List.find?_eq_none] using hf
      simp [hany]
    · simp [hk]
  | some e =>
    obtain ⟨p, y⟩ := e
    have hpk : p = k := by simpa using List.find?_some hf
    subst hpk
    by_cases hk : p = key
    · subst hk
      have hany : l.any (·.1 == p) = true :=
        List.any_eq_true.mpr ⟨(p, y), List.mem_of_find?_eq_some hf, by simp⟩
      simp [hany]
    · simp [hk]

theorem find?_append_entry (hl : l.any (·.1 == key) = false) :
    ((l ++ [(key, d)]).find? (·.1 == k)).map (·.2) =
      if k = key then some d else (l.find? (·.1 == k)).map (·.2) := by
  rw [List.find?_append]
  by_cases hk : k = key
  · subst hk
    have hnone : l.find? (·.1 == k) = none := by simpa [List.find?_eq_none] using hl
    simp [hnone]
  · cases hf : l.find? (·.1 == k) <;> simp [hk, Ne.symm hk]

end Paths

namespace Memory

variable {m : Memory}

@[simp] theorem after_nil : m.after [] = m := rfl

@[simp] theorem after_cons (c : FileCall) (cs : List FileCall) : m.after (c :: cs) = (m.call c).2.after cs :=
  rfl

theorem after_append (cs₁ cs₂ : List FileCall) : m.after (cs₁ ++ cs₂) = (m.after cs₁).after cs₂ := by
  induction cs₁ generalizing m with
  | nil => rfl
  | cons c cs ih => exact ih

theorem fileAt_put (name : String) (data : List UInt8) (k : String) :
    (m.put name data).fileAt k = if k = Path.resolve "/" name then some data else m.fileAt k := by
  by_cases hany : m.files.any (·.1 == Path.resolve "/" name) = true
  · simp only [put, fileAt, hany, if_true, find?_replace]
  · simp only [put, fileAt, hany, if_false, Bool.false_eq_true]
    exact find?_append_entry _ _ _ _ ((Bool.not_eq_true _).mp hany)

theorem get?_eq_fileAt (name : String) : m.get? name = m.fileAt (Path.resolve "/" name) := rfl

theorem descriptor_of_lookup {fd : Int} {d : Descriptor} (h : m.open_.lookup fd = some d) :
    m.descriptor fd = .ok d := by
  simp [descriptor, h]

theorem descriptor_of_lookup_none {fd : Int} (h : m.open_.lookup fd = none) :
    m.descriptor fd = .error (notOpen fd) := by
  simp [descriptor, h]

/-- An open that goes through hands out the next number for a new descriptor. -/
theorem openFile_of_found {name : String} {mode : OpenMode}
    (h : ¬(mode = OpenMode.read ∧ m.get? name = none)) :
    m.openFile name mode = .ok (m.nextFd, { m with
      open_ := m.open_ ++ [(m.nextFd, ⟨Path.resolve "/" name, mode,
        if mode = OpenMode.append then (m.get? name).getD [] else []⟩)],
      nextFd := m.nextFd + 1 }) := by
  have hcond : ¬(mode = OpenMode.read && (m.get? name).isNone) = true := by
    simpa [Option.isNone_iff_eq_none] using h
  simp only [openFile, get?_resolve]
  rw [if_neg hcond]

theorem openFile_of_missing {name : String} (h : m.get? name = none) :
    m.openFile name OpenMode.read =
      .error (.wrap ("open " ++ Path.resolve "/" name) (.notExist "file does not exist")) := by
  simp [openFile, get?_resolve, h]

/-! ### What each call on a descriptor does -/

variable {fd : Int} {d : Descriptor} {data : List UInt8}

theorem write_of_closed {e : Fault} (hd : m.descriptor fd = .error e) : m.write fd data = .error e := by
  rw [write, hd]
  rfl

theorem write_of_reader (hd : m.descriptor fd = .ok d) (hr : d.mode = OpenMode.read) :
    m.write fd data = .error (.wrap ("write " ++ d.name) (.permission "permission denied")) := by
  rw [write, hd]
  simp only [bind, Except.bind, hr, if_true]
  rfl

theorem write_of_writer (hd : m.descriptor fd = .ok d) (hr : d.mode ≠ OpenMode.read) :
    m.write fd data = .ok { m with open_ := m.open_.map fun (k, e) =>
      if k == fd then (k, { e with written := e.written ++ data }) else (k, e) } := by
  rw [write, hd]
  simp only [bind, Except.bind, hr, if_false]
  rfl

theorem readAll_of_closed {e : Fault} (hd : m.descriptor fd = .error e) : m.readAll fd = .error e := by
  rw [readAll, hd]
  rfl

theorem readAll_of_reader {x : List UInt8} (hd : m.descriptor fd = .ok d) (hr : d.mode = OpenMode.read)
    (hget : m.get? d.name = some x) : m.readAll fd = .ok x := by
  rw [readAll, hd]
  simp only [bind, Except.bind, hr, ne_eq, not_true_eq_false, if_false, hget]
  rfl

theorem readAll_of_writer (hd : m.descriptor fd = .ok d) (hr : d.mode ≠ OpenMode.read) :
    m.readAll fd = .error (.wrap ("read " ++ d.name) (.permission "permission denied")) := by
  rw [readAll, hd]
  simp only [bind, Except.bind, hr, ne_eq, not_false_eq_true, if_true]
  rfl

theorem close_of_closed {e : Fault} (hd : m.descriptor fd = .error e) : m.close fd = .error e := by
  rw [close, hd]
  rfl

theorem close_of_open (hd : m.descriptor fd = .ok d) :
    m.close fd = .ok (if d.mode ≠ OpenMode.read then
      ({ m with open_ := m.open_.filter (·.1 != fd) } : Memory).put d.name d.written
      else { m with open_ := m.open_.filter (·.1 != fd) }) := by
  rw [close, hd]
  rfl

/-! ### One call -/

/-- Closing an open descriptor drops it from the table, whether or not its file is put. -/
theorem open_call_close {fd : Int} {d : Descriptor} (hl : m.open_.lookup fd = some d) :
    (m.call (.close fd)).2.open_ = m.open_.filter (·.1 != fd) := by
  simp only [call, close_of_open (descriptor_of_lookup hl)]
  split <;> rfl

/-- A call either hands out the next number and moves past it, or hands out
nothing and keeps the number. -/
theorem call_next (c : FileCall) :
    ((m.call c).1.openedFd? = some m.nextFd ∧ (m.call c).2.nextFd = m.nextFd + 1) ∨
      ((m.call c).1.openedFd? = none ∧ (m.call c).2.nextFd = m.nextFd) := by
  cases c with
  | openFile name mode =>
    by_cases hmiss : mode = OpenMode.read ∧ m.get? name = none
    · obtain ⟨rfl, hnone⟩ := hmiss
      simp [call, openFile_of_missing hnone, FileAnswer.openedFd?]
    · simp [call, openFile_of_found hmiss, FileAnswer.openedFd?]
  | write fd data =>
    refine .inr ⟨by simp only [call]; split <;> rfl, ?_⟩
    cases hl : m.open_.lookup fd with
    | none => simp [call, write_of_closed (descriptor_of_lookup_none hl)]
    | some d =>
      by_cases hr : d.mode = OpenMode.read
      · simp [call, write_of_reader (descriptor_of_lookup hl) hr]
      · simp [call, write_of_writer (descriptor_of_lookup hl) hr]
  | readAll fd => exact .inr ⟨rfl, rfl⟩
  | close fd =>
    refine .inr ⟨by simp only [call]; split <;> rfl, ?_⟩
    cases hl : m.open_.lookup fd with
    | none => simp [call, close_of_closed (descriptor_of_lookup_none hl)]
    | some d =>
      simp only [call, close_of_open (descriptor_of_lookup hl)]
      split <;> rfl
  | put name data => exact .inr ⟨rfl, rfl⟩
  | get name => exact .inr ⟨rfl, rfl⟩

/-- Under a number that a call neither hands out nor closes, the descriptor
stays as it was, but for what the call writes through it. -/
theorem lookup_call (hfresh : m.open_.lookup m.nextFd = none) {fd : Int} {c : FileCall}
    (hc : c ≠ .close fd) (hfd : (m.call c).1.openedFd? ≠ some fd) :
    (m.call c).2.open_.lookup fd = (m.open_.lookup fd).map (Descriptor.collect fd [c]) := by
  cases c with
  | openFile name mode =>
    rw [Descriptor.map_collect_of_bytesTo rfl]
    by_cases hmiss : mode = OpenMode.read ∧ m.get? name = none
    · obtain ⟨rfl, hnone⟩ := hmiss
      simp [call, openFile_of_missing hnone]
    · simp only [call, openFile_of_found hmiss, FileAnswer.openedFd?, ne_eq, Option.some.injEq] at hfd ⊢
      rw [lookup_append_fresh _ _ hfresh, if_neg (Ne.symm hfd)]
  | write k data =>
    cases hl : m.open_.lookup k with
    | none =>
      -- nothing is written: the descriptor written to is not open
      have hnil : (FileCall.write k data).bytesTo fd = [] ∨ m.open_.lookup fd = none := by
        by_cases hk : k = fd
        · exact .inr (hk ▸ hl)
        · exact .inl (by simp [FileCall.bytesTo, hk])
      simp only [call, write_of_closed (descriptor_of_lookup_none hl)]
      rcases hnil with hnil | hnone
      · rw [Descriptor.map_collect_of_bytesTo hnil]
      · rw [hnone, Option.map_none]
    | some d =>
      by_cases hr : d.mode = OpenMode.read
      · simp only [call, write_of_reader (descriptor_of_lookup hl) hr]
        by_cases hk : k = fd
        · subst hk
          rw [hl, Option.map_some, Descriptor.collect, if_pos hr, List.append_nil]
        · rw [Descriptor.map_collect_of_bytesTo (by simp [FileCall.bytesTo, hk])]
      · simp only [call, write_of_writer (descriptor_of_lookup hl) hr]
        rw [lookup_map_at m.open_ k fd (fun e => { e with written := e.written ++ data })]
        by_cases hk : fd = k
        · subst hk
          simp [hl, Descriptor.collect, hr, writtenTo, FileCall.bytesTo]
        · rw [if_neg hk, Descriptor.collect_of_bytesTo (by simp [FileCall.bytesTo, Ne.symm hk])]
  | readAll k => rw [Descriptor.map_collect_of_bytesTo rfl]; rfl
  | close k =>
    have hk : fd ≠ k := fun hk => hc (hk ▸ rfl)
    rw [Descriptor.map_collect_of_bytesTo rfl]
    cases hl : m.open_.lookup k with
    | none => simp [call, close_of_closed (descriptor_of_lookup_none hl)]
    | some d => rw [open_call_close hl, lookup_filter_ne, if_neg hk]
  | put name data => rw [Descriptor.map_collect_of_bytesTo rfl]; rfl
  | get name => rw [Descriptor.map_collect_of_bytesTo rfl]; rfl

/-- After a close, nothing is open under its number. -/
theorem lookup_call_close (fd : Int) : (m.call (.close fd)).2.open_.lookup fd = none := by
  cases hl : m.open_.lookup fd with
  | none => simpa [call, close_of_closed (descriptor_of_lookup_none hl)] using hl
  | some d => rw [open_call_close hl, lookup_filter_ne, if_pos rfl]

/-- An open that hands out a number puts under it a descriptor of the file's
canonical path, holding the file's content at that moment when it appends; a
reader's file is there. -/
theorem lookup_call_open (hfresh : m.open_.lookup m.nextFd = none) {name : String} {mode : OpenMode}
    {fd : Int} (h : (m.call (.openFile name mode)).1 = .opened (.ok fd)) :
    (mode = OpenMode.read → (m.get? name).isSome) ∧
      (m.call (.openFile name mode)).2.open_.lookup fd =
        some ⟨Path.resolve "/" name, mode, if mode = OpenMode.append then (m.get? name).getD [] else []⟩ := by
  by_cases hmiss : mode = OpenMode.read ∧ m.get? name = none
  · obtain ⟨rfl, hnone⟩ := hmiss
    simp [call, openFile_of_missing hnone] at h
  · simp only [call, openFile_of_found hmiss, FileAnswer.opened.injEq, Except.ok.injEq] at h ⊢
    subst h
    refine ⟨fun hr => ?_, by rw [lookup_append_fresh _ _ hfresh, if_pos rfl]⟩
    cases hget : m.get? name with
    | none => exact absurd ⟨hr, hget⟩ hmiss
    | some _ => rfl

/-- Only a put and the close of a writer change the files. -/
theorem files_call {c : FileCall} (hc : ¬ m.Publishes c) : (m.call c).2.files = m.files := by
  cases c with
  | openFile name mode =>
    by_cases hmiss : mode = OpenMode.read ∧ m.get? name = none
    · obtain ⟨rfl, hnone⟩ := hmiss
      simp [call, openFile_of_missing hnone]
    · simp [call, openFile_of_found hmiss]
  | write fd data =>
    cases hd : m.descriptor fd with
    | error e => simp [call, write_of_closed hd]
    | ok d =>
      by_cases hr : d.mode = OpenMode.read
      · simp [call, write_of_reader hd hr]
      · simp [call, write_of_writer hd hr]
  | readAll fd => rfl
  | close fd =>
    cases hd : m.descriptor fd with
    | error e => simp [call, close_of_closed hd]
    | ok d =>
      -- a descriptor that publishes nothing is a reader
      by_cases hr : d.mode = OpenMode.read
      · simp [call, close_of_open hd, hr]
      · exact absurd ⟨d, hd, hr⟩ hc
  | put name data => exact absurd trivial hc
  | get name => rfl

theorem get?_call {c : FileCall} (hc : ¬ m.Publishes c) (name : String) :
    (m.call c).2.get? name = m.get? name := by
  simp only [get?, files_call hc]

/-- A file that is there stays there: the calls that change files only put them. -/
theorem isSome_get?_call (c : FileCall) {name : String} (h : (m.get? name).isSome) :
    ((m.call c).2.get? name).isSome := by
  have hput : ∀ (m' : Memory) (n : String) (data : List UInt8), m'.files = m.files →
      ((m'.put n data).get? name).isSome := by
    intro m' n data hfiles
    rw [get?_eq_fileAt, fileAt_put]
    split
    · rfl
    · rwa [show m'.fileAt _ = m.get? name by simp only [fileAt, get?, hfiles]]
  by_cases hc : m.Publishes c
  · cases c with
    | put n data => exact hput m n data rfl
    | close fd =>
      obtain ⟨d, hd, hr⟩ := hc
      simp only [call, close_of_open hd, ne_eq, hr, not_false_eq_true, if_true]
      exact hput _ _ _ rfl
    | _ => simp [Publishes] at hc
  · rwa [get?_call hc]

theorem isSome_get?_after (cs : List FileCall) {name : String} (h : (m.get? name).isSome) :
    ((m.after cs).get? name).isSome := by
  induction cs generalizing m with
  | nil => exact h
  | cons c cs ih => exact ih (isSome_get?_call c h)

/-- A read-only open of a missing file fails and leaves the file system as it was. -/
theorem call_openFile_missing {name : String} (h : m.get? name = none) :
    m.call (.openFile name OpenMode.read) =
      (.opened (.error (.wrap ("open " ++ Path.resolve "/" name) (.notExist "file does not exist"))), m) := by
  simp [call, openFile_of_missing h]

/-- Closing a writer stores what it collected under its name. -/
theorem get?_call_close {fd : Int} {d : Descriptor} (hd : m.descriptor fd = .ok d)
    (hr : d.mode ≠ OpenMode.read) : (m.call (.close fd)).2.get? d.name = some d.written := by
  simp only [call, close_of_open hd, ne_eq, hr, not_false_eq_true, if_true, get?_eq_fileAt, fileAt_put]

theorem rejects_of_lookup {fd : Int} (h : m.open_.lookup fd = none) : m.Rejects fd := by
  have hd := descriptor_of_lookup_none h
  exact fun _ => ⟨write_of_closed hd, readAll_of_closed hd, close_of_closed hd⟩

/-! ### Runs -/

theorem Fresh.lookup_next (h : m.Fresh) : m.open_.lookup m.nextFd = none := by
  cases hl : m.open_.lookup m.nextFd with
  | none => rfl
  | some d => exact absurd (h _ (by simp [hl])) (Int.lt_irrefl _)

theorem fresh_ofFiles (fs : List (String × List UInt8)) : (ofFiles fs).Fresh := by
  intro fd hfd
  simp [ofFiles] at hfd

/-- Freshness holds after every call: a descriptor is only put under the
number handed out, and that number is then passed. -/
theorem Fresh.call (h : m.Fresh) (c : FileCall) : (m.call c).2.Fresh := by
  intro fd hfd
  -- the number was just handed out, or was open before
  have hold : (m.call c).1.openedFd? = some fd ∨ fd < m.nextFd := by
    by_cases hc : (m.call c).1.openedFd? = some fd
    · exact .inl hc
    · by_cases hclose : c = .close fd
      · subst hclose
        simp [lookup_call_close] at hfd
      · rw [lookup_call h.lookup_next hclose hc] at hfd
        exact .inr (h fd (by simpa using hfd))
  rcases m.call_next c with ⟨hopen, hnext⟩ | ⟨hopen, hnext⟩ <;> rw [hnext] <;> rw [hopen] at hold
  · simp only [Option.some.injEq] at hold
    omega
  · simpa using hold

theorem Fresh.after (h : m.Fresh) (cs : List FileCall) : (m.after cs).Fresh := by
  induction cs generalizing m with
  | nil => exact h
  | cons c cs ih => exact ih (h.call c)

/-- Numbers are handed out one after another from the next number. -/
theorem openedFds_answers (cs : List FileCall) :
    ∃ n, openedFds (m.answers cs) = (List.range n).map fun i : Nat => m.nextFd + i := by
  induction cs generalizing m with
  | nil => exact ⟨0, rfl⟩
  | cons c cs ih =>
    obtain ⟨n, hn⟩ := ih (m := (m.call c).2)
    simp only [answers, openedFds, List.filterMap_cons] at hn ⊢
    rcases m.call_next c with ⟨hfd, hnext⟩ | ⟨hfd, hnext⟩
    · refine ⟨n + 1, ?_⟩
      rw [hfd, hn, hnext, List.range_succ_eq_map]
      simp only [List.map_cons, List.map_map, List.cons.injEq]
      refine ⟨by omega, List.map_congr_left fun i _ => ?_⟩
      simp only [Function.comp_apply]
      omega
    · exact ⟨n, by rw [hfd, hn, hnext]⟩

theorem le_of_mem_openedFds {cs : List FileCall} {fd : Int} (h : fd ∈ openedFds (m.answers cs)) :
    m.nextFd ≤ fd := by
  obtain ⟨n, hn⟩ := m.openedFds_answers cs
  rw [hn] at h
  obtain ⟨i, -, rfl⟩ := List.mem_map.mp h
  omega

/-- A number a run never hands out is handed out neither by its first call nor by the rest. -/
theorem not_mem_openedFds_cons {c : FileCall} {cs : List FileCall} {fd : Int}
    (hfd : fd ∉ openedFds (m.answers (c :: cs))) :
    (m.call c).1.openedFd? ≠ some fd ∧ fd ∉ openedFds ((m.call c).2.answers cs) := by
  simp only [answers, openedFds, List.filterMap_cons] at hfd
  refine ⟨fun hc => by simp [hc] at hfd, fun hmem => hfd ?_⟩
  split <;> simp_all [openedFds]

/-- Through calls that neither hand out its number nor close it, a descriptor
collects exactly the bytes written through it, if it is a writer. -/
theorem lookup_after (h : m.Fresh) {fd : Int} (cs : List FileCall) (hcs : .close fd ∉ cs)
    (hfd : fd ∉ openedFds (m.answers cs)) :
    (m.after cs).open_.lookup fd = (m.open_.lookup fd).map (Descriptor.collect fd cs) := by
  induction cs generalizing m with
  | nil => simp
  | cons c cs ih =>
    obtain ⟨hc, hrest⟩ := not_mem_openedFds_cons hfd
    rw [after_cons, ih (h.call c) (fun hmem => hcs (List.mem_cons_of_mem _ hmem)) hrest,
      lookup_call h.lookup_next (fun hc' => hcs (hc' ▸ List.mem_cons_self)) hc, Option.map_map,
      ← Descriptor.collect_cons]

theorem lookup_after_of_none (h : m.Fresh) {fd : Int} (hnone : m.open_.lookup fd = none)
    (cs : List FileCall) (hfd : fd ∉ openedFds (m.answers cs)) : (m.after cs).open_.lookup fd = none := by
  induction cs generalizing m with
  | nil => exact hnone
  | cons c cs ih =>
    obtain ⟨hc, hrest⟩ := not_mem_openedFds_cons hfd
    refine ih (h.call c) ?_ hrest
    by_cases hclose : c = .close fd
    · exact hclose ▸ lookup_call_close fd
    · rw [lookup_call h.lookup_next hclose hc, hnone, Option.map_none]

/-- A descriptor once closed refuses every call from then on. -/
theorem rejects_of_closed_at (h : m.Fresh) {fd : Int} (hclose : (m.call (.close fd)).1 = .closed (.ok ()))
    (cs : List FileCall) : (m.after (.close fd :: cs)).Rejects fd := by
  -- the close went through, so the number was open, below the next one
  have hlt : fd < m.nextFd := by
    cases hl : m.open_.lookup fd with
    | none => simp [call, close_of_closed (descriptor_of_lookup_none hl)] at hclose
    | some d => exact h fd (by rw [hl]; rfl)
  have hnone : (m.call (.close fd)).1.openedFd? = none := by
    simp only [call]
    split <;> rfl
  have hnext : (m.call (.close fd)).2.nextFd = m.nextFd := by
    rcases m.call_next (.close fd) with ⟨hfd, -⟩ | ⟨-, hnext⟩
    · simp [hnone] at hfd
    · exact hnext
  rw [after_cons]
  refine rejects_of_lookup (lookup_after_of_none (h.call _) (lookup_call_close fd) cs fun hmem => ?_)
  have := le_of_mem_openedFds hmem
  omega

variable {cs : List FileCall} {name : String} {mode : OpenMode} {fd : Int}

/-- An open descriptor keeps the canonical path and the mode it was opened
with, and collects exactly what is written through it, after the file's
content at open time when it appends. -/
theorem descriptor_after_open (h : m.Fresh)
    (hopen : (m.call (.openFile name mode)).1 = .opened (.ok fd)) (hcs : .close fd ∉ cs) :
    (mode = OpenMode.read → (m.get? name).isSome) ∧
      (m.after (.openFile name mode :: cs)).descriptor fd = .ok (Descriptor.collect fd cs
        ⟨Path.resolve "/" name, mode, if mode = OpenMode.append then (m.get? name).getD [] else []⟩) := by
  obtain ⟨hread, hfd⟩ := lookup_call_open h.lookup_next hopen
  refine ⟨hread, descriptor_of_lookup ?_⟩
  -- later numbers are past this one
  have hlt : fd < (m.call (.openFile name mode)).2.nextFd := (h.call _) fd (by rw [hfd]; rfl)
  rw [after_cons, lookup_after (h.call _) cs hcs fun hmem => ?_, hfd, Option.map_some]
  have := le_of_mem_openedFds hmem
  omega

/-- A reader reads the file as it is at the time of the read, and cannot write. -/
theorem reader_after_open (h : m.Fresh)
    (hopen : (m.call (.openFile name OpenMode.read)).1 = .opened (.ok fd)) (hcs : .close fd ∉ cs) :
    (∃ x, (m.after (.openFile name OpenMode.read :: cs)).get? name = some x ∧
        (m.after (.openFile name OpenMode.read :: cs)).readAll fd = .ok x) ∧
      ∀ data, (m.after (.openFile name OpenMode.read :: cs)).write fd data =
        .error (.wrap ("write " ++ Path.resolve "/" name) (.permission "permission denied")) := by
  obtain ⟨hfile, hd⟩ := descriptor_after_open h hopen hcs
  -- the file was there at open time, and files are never taken away
  obtain ⟨x, hx⟩ := Option.isSome_iff_exists.mp (isSome_get?_after (.openFile name OpenMode.read :: cs)
    (hfile rfl))
  refine ⟨⟨x, hx, readAll_of_reader hd rfl (by simpa [Descriptor.collect, get?_resolve] using hx)⟩,
    fun data => ?_⟩
  rw [write_of_reader hd rfl]
  rfl

/-- A writer cannot read, and closing it replaces its file with the bytes
written through it, after the file's content at open time when it appends. -/
theorem writer_after_open (h : m.Fresh) (hmode : mode ≠ OpenMode.read)
    (hopen : (m.call (.openFile name mode)).1 = .opened (.ok fd)) (hcs : .close fd ∉ cs) :
    (m.after (.openFile name mode :: cs)).readAll fd =
        .error (.wrap ("read " ++ Path.resolve "/" name) (.permission "permission denied")) ∧
      (m.after (.openFile name mode :: cs ++ [.close fd])).get? name =
        some ((if mode = OpenMode.append then (m.get? name).getD [] else []) ++ writtenTo fd cs) := by
  obtain ⟨-, hd⟩ := descriptor_after_open h hopen hcs
  refine ⟨by rw [readAll_of_writer hd hmode]; rfl, ?_⟩
  rw [after_append, after_cons, after_nil, ← get?_resolve]
  simpa [Descriptor.collect, hmode] using get?_call_close hd hmode

end Memory

/-- The in-memory file system is a store of files, over every run from every
set of files: it hands out descriptors as 3, 4, 5, …; a descriptor never
handed out, or closed, refuses every call as closed; a read-only open of a
missing file fails and allocates nothing; a reader reads its file as it is at
the time and cannot write; a writer cannot read, and its close replaces the
file with the bytes written through it, after the content at open time when it
appends; and only a put or the close of a writer changes a file. -/
theorem Memory.behaves_as_store (fs : List (String × List UInt8)) :
    (∀ cs, ∃ n, openedFds ((ofFiles fs).answers cs) = (List.range n).map fun i : Nat => 3 + (i : Int)) ∧
    (∀ cs fd, fd ∉ openedFds ((ofFiles fs).answers cs) → ((ofFiles fs).after cs).Rejects fd) ∧
    (∀ cs₁ cs₂ fd, (((ofFiles fs).after cs₁).call (.close fd)).1 = .closed (.ok ()) →
      ((ofFiles fs).after (cs₁ ++ .close fd :: cs₂)).Rejects fd) ∧
    (∀ cs name, ((ofFiles fs).after cs).get? name = none →
      ((ofFiles fs).after cs).call (.openFile name OpenMode.read) =
        (.opened (.error (.wrap ("open " ++ Path.resolve "/" name) (.notExist "file does not exist"))),
          (ofFiles fs).after cs)) ∧
    (∀ cs₁ cs₂ name fd, (((ofFiles fs).after cs₁).call (.openFile name OpenMode.read)).1 = .opened (.ok fd) →
      .close fd ∉ cs₂ →
      (∃ x, ((ofFiles fs).after (cs₁ ++ .openFile name OpenMode.read :: cs₂)).get? name = some x ∧
        ((ofFiles fs).after (cs₁ ++ .openFile name OpenMode.read :: cs₂)).readAll fd = .ok x) ∧
      ∀ data, ((ofFiles fs).after (cs₁ ++ .openFile name OpenMode.read :: cs₂)).write fd data =
        .error (.wrap ("write " ++ Path.resolve "/" name) (.permission "permission denied"))) ∧
    (∀ cs₁ cs₂ name mode fd, mode ≠ OpenMode.read →
      (((ofFiles fs).after cs₁).call (.openFile name mode)).1 = .opened (.ok fd) → .close fd ∉ cs₂ →
      ((ofFiles fs).after (cs₁ ++ .openFile name mode :: cs₂)).readAll fd =
          .error (.wrap ("read " ++ Path.resolve "/" name) (.permission "permission denied")) ∧
        ((ofFiles fs).after (cs₁ ++ .openFile name mode :: cs₂ ++ [.close fd])).get? name =
          some ((if mode = OpenMode.append then (((ofFiles fs).after cs₁).get? name).getD [] else []) ++
            writtenTo fd cs₂)) ∧
    (∀ cs c name, ¬ ((ofFiles fs).after cs).Publishes c →
      (((ofFiles fs).after cs).call c).2.get? name = ((ofFiles fs).after cs).get? name) :=
  ⟨fun cs => by simpa [Memory.ofFiles] using (Memory.ofFiles fs).openedFds_answers cs,
    fun cs _ hfd => Memory.rejects_of_lookup
      (Memory.lookup_after_of_none (Memory.fresh_ofFiles fs) (by simp [Memory.ofFiles]) cs hfd),
    fun cs₁ cs₂ _ hclose => by
      rw [Memory.after_append]
      exact Memory.rejects_of_closed_at ((Memory.fresh_ofFiles fs).after cs₁) hclose cs₂,
    fun _ _ => Memory.call_openFile_missing,
    fun cs₁ _ _ _ hopen hcs => by
      simpa only [Memory.after_append] using
        Memory.reader_after_open ((Memory.fresh_ofFiles fs).after cs₁) hopen hcs,
    fun cs₁ _ _ _ _ hmode hopen hcs => by
      simpa only [Memory.after_append] using
        Memory.writer_after_open ((Memory.fresh_ofFiles fs).after cs₁) hmode hopen hcs,
    fun _ _ _ hc => Memory.get?_call hc _⟩

/-- Appending through a descriptor keeps the file's content and adds the bytes
written. -/
theorem Memory.append_keeps_content :
    ((Memory.ofFiles [("/log", [1])]).call (.openFile "log" OpenMode.append)).1 = .opened (.ok 3) ∧
      ((Memory.ofFiles [("/log", [1])]).after [.openFile "log" OpenMode.append, .write 3 [2], .close 3]).get?
        "log" = some [1, 2] := by
  have hopen : ((Memory.ofFiles [("/log", [1])]).call (.openFile "log" OpenMode.append)).1 =
      .opened (.ok 3) := rfl
  refine ⟨hopen, ?_⟩
  have h := ((Memory.behaves_as_store [("/log", [1])]).2.2.2.2.2.1 [] [.write 3 [2]] "log"
    OpenMode.append 3 (by decide) hopen (by decide)).2
  exact h.trans (by decide +kernel)

end Userland
