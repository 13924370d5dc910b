import Userland.Files.Mount

/-! # Canonical paths

Resolving a name gives a canonical absolute path: `/`, or a slash followed by
names joined by single slashes, where a name is a component that is not empty,
`.` or `..` and holds no slash (`Path.Canonical`, `Path.canonical_iff`). So
cleaning it again changes nothing, resolving it again against any working
directory gives it back, and no run of `..` climbs above the root
(`Path.resolve_canonical`, `Path.resolve_resolve`).

Two consequences for the file systems: a directory file system serves every
name from its root followed by names only, so a name never reaches outside the
root lexically (`DirFs.hostPath_under_root`); and a memory file system reads,
stores and opens every name through its resolution from the root, so two names
that resolve alike are the same file (`Memory.get?_resolve` and its siblings).
The main statement is `Path.resolve_canonical_contained`.
-/

namespace Userland

namespace Path

/-- A component that names an entry: not empty, not `.` or `..`, and free of slashes. -/
def IsName (c : String) : Prop := c ≠ "" ∧ c ≠ "." ∧ c ≠ ".." ∧ '/' ∉ c.toList

/-- A canonical absolute path: `/`, or a path that starts with a slash and whose
components after it are neither empty nor `.` nor `..`; so it has no repeated
or trailing slash. -/
def Canonical (p : String) : Prop :=
  p = "/" ∨ (p.startsWith "/" = true ∧ ∀ c ∈ (components p).tail, c ≠ "" ∧ c ≠ "." ∧ c ≠ "..")

instance : DecidablePred Canonical := fun p =>
  inferInstanceAs (Decidable (p = "/" ∨ (p.startsWith "/" = true ∧ ∀ c ∈ (components p).tail, _)))

example : Canonical "/bin/cat.js" ∧ ¬ Canonical "/bin//cat" ∧ ¬ Canonical "/bin/" ∧
    ¬ Canonical "bin" ∧ ¬ Canonical "/a/../b" := by
  decide +kernel

/-! ## Splitting at slashes -/

/-- No piece of a split holds the element it was split at. -/
theorem not_mem_of_mem_splitOn {xs l : List Char} {a : Char} (h : l ∈ xs.splitOn a) : a ∉ l := by
  induction xs generalizing l with
  | nil => simp_all
  | cons x xs ih =>
    rw [List.splitOn_cons_eq_if_modifyHead] at h
    split at h
    · rcases List.mem_cons.mp h with rfl | h
      · simp
      · exact ih h
    · -- the first piece of the tail gets `x` in front; the others are pieces of the tail
      obtain ⟨hd, tl, htl⟩ := List.exists_cons_of_ne_nil (List.splitOn_ne_nil a xs)
      rw [htl, List.modifyHead_cons] at h
      rcases List.mem_cons.mp h with rfl | h
      · have hx : x ≠ a := by simpa using ‹¬(x == a) = true›
        intro hmem
        rcases List.mem_cons.mp hmem with rfl | hmem
        · exact hx rfl
        · exact ih (htl ▸ List.mem_cons_self) hmem
      · exact ih (htl ▸ List.mem_cons_of_mem _ h)

/-- A component holds no slash. -/
theorem slash_not_mem_of_mem_components {s c : String} (h : c ∈ components s) : '/' ∉ c.toList := by
  obtain ⟨l, hl, rfl⟩ := List.mem_map.mp h
  simpa using not_mem_of_mem_splitOn hl

/-- The components of a path that starts with a slash: an empty one, then the
pieces of the rest. -/
theorem components_slash_cons {s : String} {r : List Char} (h : s.toList = '/' :: r) :
    components s = "" :: (r.splitOn '/').map String.ofList := by
  simp [components, h, List.splitOn_cons_eq_if_modifyHead]

/-- A path starts with a slash exactly when its characters do. -/
theorem startsWith_slash_iff {s : String} : s.startsWith "/" = true ↔ ∃ r, s.toList = '/' :: r := by
  rw [String.startsWith_string_iff]
  constructor
  · rintro ⟨r, hr⟩
    exact ⟨r, by simpa using hr.symm⟩
  · rintro ⟨r, hr⟩
    exact ⟨r, by simp [hr]⟩

/-- The root starts with a slash. -/
theorem startsWith_root : ("/" : String).startsWith "/" = true :=
  startsWith_slash_iff.mpr ⟨[], by simp⟩

/-- A slash followed by anything starts with a slash. -/
theorem startsWith_slash_append (s : String) : ("/" ++ s).startsWith "/" = true :=
  startsWith_slash_iff.mpr ⟨s.toList, by simp⟩

/-- A slash followed by names joined by slashes splits back into those names. -/
theorem components_slash_intercalate {segs : List String} (hsegs : ∀ c ∈ segs, '/' ∉ c.toList)
    (hne : segs ≠ []) : components ("/" ++ "/".intercalate segs) = "" :: segs := by
  rw [components_slash_cons (r := ['/'].intercalate (segs.map String.toList)) (by simp)]
  rw [List.splitOn_intercalate '/' (by simpa using hsegs) (by simpa using hne)]
  simp

/-! ## Cleaning a rooted path -/

/-- A rooted push keeps a stack of names a stack of names. -/
theorem push_names {st : List String} {c : String} (hst : ∀ x ∈ st, IsName x)
    (hc : '/' ∉ c.toList) : ∀ x ∈ push true st c, IsName x := by
  unfold push
  split
  · exact hst
  · rename_i hskip
    simp only [Bool.or_eq_true, decide_eq_true_eq, not_or] at hskip
    split
    · -- `..` pops the newest name; a name is never `..`, so it is never kept
      rename_i hdots
      match st, hst with
      | [], _ => simp
      | top :: rest, hst =>
        have htop : top ≠ ".." := (hst top List.mem_cons_self).2.2.1
        simpa [htop] using fun x hx => hst x (List.mem_cons_of_mem _ hx)
    · rename_i hdots
      intro x hx
      rcases List.mem_cons.mp hx with rfl | hx
      · exact ⟨hskip.1, hskip.2, hdots, hc⟩
      · exact hst x hx

/-- Pushing slash-free components onto a stack of names keeps a stack of names. -/
theorem foldl_push_names {cs st : List String} (hst : ∀ x ∈ st, IsName x)
    (hcs : ∀ c ∈ cs, '/' ∉ c.toList) : ∀ x ∈ cs.foldl (push true) st, IsName x := by
  induction cs generalizing st with
  | nil => exact hst
  | cons c cs ih =>
    exact ih (push_names hst (hcs c List.mem_cons_self)) fun c' hc' => hcs c' (List.mem_cons_of_mem _ hc')

/-- Names are pushed as they come. -/
theorem foldl_push_of_names {r : Bool} {segs st : List String} (hsegs : ∀ c ∈ segs, IsName c) :
    segs.foldl (push r) st = segs.reverse ++ st := by
  induction segs generalizing st with
  | nil => rfl
  | cons c segs ih =>
    obtain ⟨hne, hdot, hdots, -⟩ := hsegs c List.mem_cons_self
    have hpush : push r st c = c :: st := by simp [push, hne, hdot, hdots]
    rw [List.foldl_cons, hpush, ih fun c' hc' => hsegs c' (List.mem_cons_of_mem _ hc')]
    simp

/-- A canonical path is a slash followed by names joined by single slashes. -/
theorem canonical_iff {p : String} :
    Canonical p ↔ ∃ segs, (∀ c ∈ segs, IsName c) ∧ p = "/" ++ "/".intercalate segs := by
  constructor
  · rintro (rfl | ⟨hslash, hsegs⟩)
    · exact ⟨[], by simp, rfl⟩
    · obtain ⟨r, hr⟩ := startsWith_slash_iff.mp hslash
      rw [components_slash_cons hr] at hsegs
      refine ⟨(r.splitOn '/').map String.ofList, fun c hc => ?_, ?_⟩
      · obtain ⟨hne, hdot, hdots⟩ := hsegs c hc
        obtain ⟨l, hl, rfl⟩ := List.mem_map.mp hc
        exact ⟨hne, hdot, hdots, by simpa using not_mem_of_mem_splitOn hl⟩
      · -- the pieces of the rest joined by slashes give the rest back
        apply String.toList_inj.mp
        simp [hr, List.intercalate_splitOn]
  · rintro ⟨segs, hsegs, rfl⟩
    cases segs with
    | nil => exact Or.inl rfl
    | cons c cs =>
      refine Or.inr ⟨startsWith_slash_append _, ?_⟩
      rw [components_slash_intercalate (fun c hc => (hsegs c hc).2.2.2) (List.cons_ne_nil c cs)]
      exact fun x hx => ⟨(hsegs x hx).1, (hsegs x hx).2.1, (hsegs x hx).2.2.1⟩

/-- Cleaning a path that starts with a slash gives a canonical path. -/
theorem canonical_clean {s : String} (h : s.startsWith "/" = true) : Canonical (clean s) := by
  refine canonical_iff.mpr ⟨((components s).foldl (push true) []).reverse, fun c hc => ?_,
    by simp [clean, h]⟩
  exact foldl_push_names (by simp) (fun c hc => slash_not_mem_of_mem_components hc) c
    (List.mem_reverse.mp hc)

/-- Cleaning leaves a canonical path as it is. -/
theorem clean_of_canonical {p : String} (h : Canonical p) : clean p = p := by
  obtain ⟨segs, hsegs, rfl⟩ := canonical_iff.mp h
  cases segs with
  | nil => decide +kernel
  | cons c cs =>
    have hslash := startsWith_slash_append ("/".intercalate (c :: cs))
    -- the leading empty component is skipped, and every name is pushed as it comes
    have hkept : (components ("/" ++ "/".intercalate (c :: cs))).foldl (push true) [] =
        (c :: cs).reverse := by
      rw [components_slash_intercalate (fun c hc => (hsegs c hc).2.2.2) (List.cons_ne_nil c cs),
        List.foldl_cons, show push true [] "" = [] by simp [push], foldl_push_of_names hsegs]
      simp
    simp only [clean, hslash, if_true, hkept, List.reverse_reverse]

/-! ## Resolving -/

/-- A canonical path is not empty. -/
theorem ne_empty_of_canonical {p : String} (h : Canonical p) : p ≠ "" := by
  rintro rfl
  revert h
  decide

/-- Resolving a canonical path, against any working directory, gives it back. -/
theorem resolve_of_canonical (c : String) {p : String} (h : Canonical p) : resolve c p = p := by
  have habs : isAbs p = true := by
    rcases h with rfl | ⟨hslash, -⟩
    · exact startsWith_root
    · exact hslash
  simp [resolve, ne_empty_of_canonical h, habs, clean_of_canonical h]

/-- A non-empty name resolved against the root, or against any working
directory that starts with a slash, is canonical. -/
theorem resolve_canonical {cwd name : String} (hcwd : cwd = "" ∨ cwd.startsWith "/" = true)
    (hname : name ≠ "") : Canonical (resolve cwd name) := by
  unfold resolve
  rw [if_neg hname]
  split
  · exact canonical_clean ‹isAbs name = true›
  · apply canonical_clean
    -- the joined path starts with the working directory's slash, or the root's
    have hbase : (if cwd = "" then "/" else cwd).startsWith "/" = true := by
      split
      · exact startsWith_root
      · exact hcwd.resolve_left ‹¬cwd = ""›
    obtain ⟨r, hr⟩ := startsWith_slash_iff.mp hbase
    exact startsWith_slash_iff.mpr ⟨r ++ '/' :: name.toList, by simp [hr]⟩

/-- Resolving what was resolved changes nothing, whatever the second working
directory; the empty name resolves to the empty path both times. -/
theorem resolve_resolve (c : String) {cwd : String} (name : String)
    (hcwd : cwd = "" ∨ cwd.startsWith "/" = true) : resolve c (resolve cwd name) = resolve cwd name := by
  by_cases hname : name = ""
  · simp [resolve, hname]
  · exact resolve_of_canonical c (resolve_canonical hcwd hname)

/-! ## Where the file systems look -/

/-- The host components of a canonical path are its names. -/
theorem pathOf_canonical {p : String} (h : Canonical p) :
    ∃ segs, (∀ c ∈ segs, IsName c) ∧ Host.pathOf p = segs := by
  obtain ⟨segs, hsegs, rfl⟩ := canonical_iff.mp h
  refine ⟨segs, hsegs, ?_⟩
  cases segs with
  | nil => decide +kernel
  | cons c cs =>
    rw [Host.pathOf, clean_of_canonical h,
      components_slash_intercalate (fun c hc => (hsegs c hc).2.2.2) (List.cons_ne_nil c cs)]
    -- the leading empty component goes, and names are neither empty nor `.`
    rw [List.filter_cons_of_neg (by simp), List.filter_eq_self.mpr]
    intro x hx
    simp [(hsegs x hx).1, (hsegs x hx).2.1]

end Path

open Userland.Path

/-- Every name a directory file system serves is its root followed by names
only: nothing it opens or creates lies outside its root, lexically. -/
theorem DirFs.hostPath_under_root (d : DirFs) (name : String) :
    ∃ rel, d.hostPath name = d.root ++ rel ∧ ∀ c ∈ rel, IsName c := by
  by_cases hname : name = ""
  · have hempty : Host.pathOf (resolve "/" "") = [] := by decide +kernel
    exact ⟨[], by simp [DirFs.hostPath, hname, hempty], by simp⟩
  · obtain ⟨segs, hsegs, hpath⟩ := pathOf_canonical (resolve_canonical (Or.inr startsWith_root) hname)
    exact ⟨segs, by rw [DirFs.hostPath, hpath], hsegs⟩

namespace Memory

variable (m : Memory) (name : String)

/-- A memory file system reads a name through its resolution from the root. -/
theorem get?_resolve : m.get? (resolve "/" name) = m.get? name := by
  simp only [get?, resolve_resolve "/" name (Or.inr startsWith_root)]

/-- A memory file system stores a name through its resolution from the root. -/
theorem put_resolve (data : List UInt8) : m.put (resolve "/" name) data = m.put name data := by
  simp only [put, resolve_resolve "/" name (Or.inr startsWith_root)]

/-- A memory file system opens a name through its resolution from the root. -/
theorem openFile_resolve (mode : OpenMode) : m.openFile (resolve "/" name) mode = m.openFile name mode := by
  simp only [openFile, get?, resolve_resolve "/" name (Or.inr startsWith_root)]

end Memory

/-- Resolving a non-empty name against the root or an absolute working
directory gives a canonical absolute path, which cleaning and resolving again
leave as it is; a directory file system serves every name from its root
followed by names only; and a memory file system keys every name by its
resolution from the root. -/
theorem Path.resolve_canonical_contained :
    (∀ cwd name : String, (cwd = "" ∨ cwd.startsWith "/" = true) → name ≠ "" →
      Canonical (resolve cwd name) ∧ clean (resolve cwd name) = resolve cwd name ∧
        ∀ c, resolve c (resolve cwd name) = resolve cwd name) ∧
    (∀ (d : DirFs) (name : String), ∃ rel, d.hostPath name = d.root ++ rel ∧ ∀ c ∈ rel, IsName c) ∧
    (∀ (m : Memory) (name : String), m.get? (resolve "/" name) = m.get? name ∧
      (∀ data, m.put (resolve "/" name) data = m.put name data) ∧
      ∀ mode, m.openFile (resolve "/" name) mode = m.openFile name mode) := by
  refine ⟨fun cwd name hcwd hname => ?_, DirFs.hostPath_under_root, fun m name => ?_⟩
  · have hcanon := resolve_canonical hcwd hname
    exact ⟨hcanon, clean_of_canonical hcanon, fun c => resolve_of_canonical c hcanon⟩
  · exact ⟨m.get?_resolve name, m.put_resolve name, m.openFile_resolve name⟩

/-- Climbing out of a working directory with more `..` than it is deep ends at
the root, and the result is canonical and stable. -/
theorem Path.resolve_climb_canonical :
    Canonical (resolve "/a/b" "../../../x/./y/") ∧
      clean (resolve "/a/b" "../../../x/./y/") = resolve "/a/b" "../../../x/./y/" ∧
      ∀ c, resolve c (resolve "/a/b" "../../../x/./y/") = resolve "/a/b" "../../../x/./y/" :=
  Path.resolve_canonical_contained.1 "/a/b" "../../../x/./y/" (Or.inr (by decide +kernel)) (by decide +kernel)

end Userland
