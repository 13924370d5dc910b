import Mathlib.Tactic.SplitIfs
import Userland.Json.Parse
import Userland.Json.Print

/-! # Reading back written JSON

The reader takes back what the writer writes, for the values the service
answers with. A string is written with a quote, a backslash, the control
characters and the two line separators escaped, and the reader undoes each
escape (`readString_escapeChar`), so a quoted text reads back as the text
whatever follows it (`readValue_quote`). An object whose member values read
back when a comma or a closing brace follows them (`ReadsBack`), as strings
and flags do, reads back whole from its text (`parse_render_obj`).
-/

namespace Userland

namespace Json

theorem hexVal_digit {k : Nat} (hk : k < 16) :
    hexVal ("0123456789abcdef".toList.getD k '0') = some k := by
  have hall : ∀ j : Fin 16, hexVal ("0123456789abcdef".toList.getD j.val '0') = some j.val := by decide
  exact hall ⟨k, hk⟩

theorem readHex4_hex4 {n : Nat} (hn : n < 0x10000) (rest : List Char) :
    readHex4 ((hex4 n).toList ++ rest) = .ok (n, rest) := by
  simp only [hex4, String.toList_ofList, List.cons_append, List.nil_append, readHex4]
  rw [hexVal_digit (Nat.mod_lt _ (by omega)), hexVal_digit (Nat.mod_lt _ (by omega)),
    hexVal_digit (Nat.mod_lt _ (by omega)), hexVal_digit (Nat.mod_lt _ (by omega))]
  simp only [Except.ok.injEq, Prod.mk.injEq, and_true]
  simp only [Nat.pow_eq, Nat.reducePow]
  omega

/-- A character's escaped form reads back as the character, whatever follows it. -/
theorem readString_escapeChar (acc : List Char) (c : Char) (more : List Char) :
    readString acc ((escapeChar c).toList ++ more) = readString (c :: acc) more := by
  unfold escapeChar
  split_ifs with h1 h2 h3 h4 h5 h6
  iterate 5 · subst_vars; simp [readString, List.lookup_cons]
  · -- a control character or a line separator, as four hexadecimal digits
    have hlt : c.toNat < 0x10000 := by simp at h6; omega
    have hns : isSurrogate c.toNat = false := by simp [isSurrogate]; simp at h6; omega
    rw [String.toList_append, List.append_assoc]
    simp [readString]
    split
    · rename_i err herr
      rw [readHex4_hex4 hlt] at herr
      cases herr
    · rename_i u r hu
      rw [readHex4_hex4 hlt] at hu
      cases hu
      simp [hns]
  · -- any other character stands for itself
    have hge : ¬ c.toNat < 0x20 := by simp at h6; omega
    simp [readString, hge]

/-- An escaped text reads back up to its closing quote. -/
theorem readString_escaped (acc cs rest : List Char) :
    readString acc ((cs.map escapeChar).flatMap String.toList ++ '"' :: rest) =
      .ok (String.ofList (acc.reverse ++ cs), rest) := by
  induction cs generalizing acc with
  | nil => simp [readString]
  | cons c cs ih =>
    rw [List.map_cons, List.flatMap_cons, List.append_assoc, readString_escapeChar, ih]
    simp

theorem toList_quote (s : String) :
    (quote s).toList = '"' :: (s.toList.map escapeChar).flatMap String.toList ++ ['"'] := by
  simp [quote]

/-- A string value reads back from its quoted text. -/
theorem readValue_quote (n : Nat) (s : String) (rest : List Char) :
    readValue (n + 1) ((quote s).toList ++ rest) = .ok (.str s, rest) := by
  rw [toList_quote, readValue]
  simp [skipBlanks, isBlank, readString_escaped]

/-- A value that reads back from its text, with any fuel, when a comma or a
closing brace follows it: a member value of a flat object. -/
def ReadsBack (v : Json) : Prop :=
  ∀ (n : Nat) (c : Char) (r : List Char), (c = ',' ∨ c = '}') →
    readValue (n + 1) ((render v).toList ++ c :: r) = .ok (v, c :: r)

theorem readsBack_str (s : String) : ReadsBack (.str s) := fun n c r _ => by
  simpa [render] using readValue_quote n s (c :: r)

theorem readsBack_bool (b : Bool) : ReadsBack (.bool b) := by
  intro n c r _
  cases b <;> simp [render, readValue, skipBlanks, isBlank, readLiteral, readLiteral.go]

theorem renderFields_single (k : String) (v : Json) :
    (renderFields [(k, v)]).toList = (quote k).toList ++ ':' :: (render v).toList := by
  simp [renderFields]

theorem renderFields_cons (k : String) (v : Json) {fs : List (String × Json)} (hfs : fs ≠ []) :
    (renderFields ((k, v) :: fs)).toList =
      (quote k).toList ++ ':' :: (render v).toList ++ ',' :: (renderFields fs).toList := by
  obtain ⟨f, fs, rfl⟩ := List.exists_cons_of_ne_nil hfs
  simp [renderFields]

/-- The members of an object are written from the opening quote of the first name. -/
theorem renderFields_head {fs : List (String × Json)} (hfs : fs ≠ []) :
    (renderFields fs).toList = '"' :: (renderFields fs).toList.tail := by
  obtain ⟨⟨k, v⟩, fs, rfl⟩ := List.exists_cons_of_ne_nil hfs
  cases fs with
  | nil => simp [renderFields_single, toList_quote]
  | cons _ _ => simp [renderFields_cons _ _ (List.cons_ne_nil _ _), toList_quote]

/-- The members of a flat object read back, after the opening quote of the
first name, up to the closing brace. -/
theorem readMembers_renderFields (fs : List (String × Json)) (hfs : ∀ p ∈ fs, ReadsBack p.2) :
    ∀ (n : Nat) (acc : List (String × Json)) (more : List Char), fs ≠ [] → fs.length ≤ n →
      readMembers (n + 1) acc ((renderFields fs).toList.tail ++ '}' :: more) =
        .ok (.obj (acc.reverse ++ fs), more) := by
  induction fs with
  | nil => intro _ _ _ h; exact absurd rfl h
  | cons f fs ih =>
    obtain ⟨k, v⟩ := f
    intro n acc more _ hlen
    obtain ⟨m, rfl⟩ : ∃ m, n = m + 1 := ⟨n - 1, by simp at hlen; omega⟩
    have hv : ReadsBack v := hfs (k, v) (by simp)
    cases fs with
    | nil =>
      -- the last member, then the closing brace
      rw [renderFields_single, toList_quote]
      simp [readMembers, List.append_assoc, readString_escaped, skipBlanks, isBlank,
        hv m '}' more (.inr rfl)]
    | cons f' fs =>
      -- a member, a comma, and the members after it
      rw [renderFields_cons _ _ (List.cons_ne_nil _ _), toList_quote, renderFields_head (List.cons_ne_nil f' fs)]
      rw [readMembers]
      simp only [List.cons_append, List.tail_cons, List.append_assoc, readString_escaped]
      simp [skipBlanks, isBlank, hv m ',' _ (.inl rfl)]
      rw [ih (fun p hp => hfs p (List.mem_cons_of_mem _ hp)) m ((k, v) :: acc) more (List.cons_ne_nil _ _)
        (by simp at hlen ⊢; omega)]
      simp

theorem length_renderFields (fs : List (String × Json)) : fs.length ≤ (renderFields fs).toList.length := by
  induction fs with
  | nil => simp
  | cons f fs ih =>
    obtain ⟨k, v⟩ := f
    cases fs with
    | nil => simp [renderFields_single, toList_quote]
    | cons f' fs =>
      rw [renderFields_cons _ _ (List.cons_ne_nil _ _)]
      simp only [List.length_cons, List.length_append] at ih ⊢
      omega

/-- A flat object reads back from its text: every member value is one that
reads back, so strings, flags and the like. -/
theorem parse_render_obj (fs : List (String × Json)) (hfs : ∀ p ∈ fs, ReadsBack p.2) :
    parse (render (.obj fs)) = .ok (.obj fs) := by
  have htext : (render (.obj fs)).toList = '{' :: (renderFields fs).toList ++ ['}'] := by
    simp [render]
  cases fs with
  | nil => rfl
  | cons f fs =>
    -- the reader's fuel, twice the text's length, covers a member at each level
    have hlen := length_renderFields (f :: fs)
    have hbound : (f :: fs).length + 3 ≤ 2 * (render (.obj (f :: fs))).toList.length + 2 := by
      rw [htext]
      simp only [List.length_cons, List.length_append, List.length_nil] at hlen ⊢
      omega
    obtain ⟨n, hn, hfuel⟩ : ∃ n, 2 * (render (.obj (f :: fs))).toList.length + 2 = n + 3 ∧ (f :: fs).length ≤ n :=
      ⟨2 * (render (.obj (f :: fs))).toList.length + 2 - 3, by omega, by omega⟩
    rw [parse, readPrefix, hn, htext, readValue]
    rw [renderFields_head (List.cons_ne_nil f fs)]
    simp [readObject, skipBlanks, isBlank, readMembers_renderFields (f :: fs) hfs n [] [] (List.cons_ne_nil _ _) hfuel]

end Json

end Userland
