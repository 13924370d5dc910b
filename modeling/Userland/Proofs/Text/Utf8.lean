import Userland.Text.Utf8

/-! # Reading back the bytes of a text

`Utf8.encode` writes a text as the UTF-8 bytes of its characters, and
`Utf8.decodeLossy` reads bytes back, turning every byte that does not begin a
well-formed sequence into U+FFFD. Every character is written in its shortest
form, never as a surrogate half and never above U+10FFFF, so its bytes are a
well-formed sequence that the reader takes whole (`decodeFront_encodeChar`):
reading back the bytes of any text gives the text (`decodeLossy_encode`).
-/

namespace Userland

namespace Utf8

/-- The loop that lists a byte array, from position `i` on. -/
theorem toList_loop (bs : ByteArray) (i : Nat) (r : List UInt8) :
    ByteArray.toList.loop bs i r = r.reverse ++ bs.data.toList.drop i := by
  fun_induction ByteArray.toList.loop bs i r with
  | case1 i r h ih =>
    have hi : i < bs.data.toList.length := by simpa using h
    rw [ih, List.drop_eq_getElem_cons hi]
    simp only [ByteArray.get!, List.reverse_cons, List.append_assoc, List.singleton_append, Array.getElem_toList]
    rw [getElem!_pos bs.data i (by simpa using h)]
  | case2 i r h =>
    rw [List.drop_eq_nil_of_le (by simpa using h), List.append_nil]

/-- A byte array lists its data. -/
theorem toList_eq (bs : ByteArray) : bs.toList = bs.data.toList := by
  simp [ByteArray.toList, toList_loop]

/-- The bytes of a text are those of its characters, one after another. -/
theorem encode_eq (s : String) : encode s = s.toList.flatMap String.utf8EncodeChar := by
  rw [encode, String.toUTF8_eq_toByteArray, ← String.utf8Encode_toList, List.utf8Encode, toList_eq,
    List.toList_data_toByteArray]

/-- Six bits under the marker `10` make a continuation byte. -/
theorem isCont_ofNat {x : Nat} (hx : x < 0x40) : isCont (UInt8.ofNat (x + 0x80)) = true := by
  have hall : ∀ y : Fin 0x40, isCont (UInt8.ofNat (y.val + 0x80)) = true := by decide
  exact hall ⟨x, hx⟩

theorem toNat_ofNat_of_lt {n : Nat} (h : n < 256) : (UInt8.ofNat n).toNat = n := by
  simp [Nat.mod_eq_of_lt h]

/-- The bytes of a character read back as that character, whatever follows them. -/
theorem decodeFront_encodeChar (c : Char) (rest : List UInt8) :
    decodeFront (String.utf8EncodeChar c ++ rest) = some (c, (String.utf8EncodeChar c).length) := by
  have hc : c.val.toNat < 0xd800 ∨ (0xdfff < c.val.toNat ∧ c.val.toNat < 0x110000) := c.valid
  have hof : Char.ofNat c.val.toNat = c := Char.ofNat_toNat c
  unfold String.utf8EncodeChar
  generalize c.val.toNat = v at hc hof ⊢
  subst hof
  have hcont : ∀ k, isCont (UInt8.ofNat (k % 64 + 128)) = true := fun k => isCont_ofNat (Nat.mod_lt k (by omega))
  by_cases h1 : v ≤ 0x7f
  · -- one byte
    simp only [h1, if_true, List.cons_append, List.nil_append, decodeFront, toNat_ofNat_of_lt (show v < 256 by omega),
      List.length_singleton]
    rw [if_pos (by omega)]
  by_cases h2 : v ≤ 0x7ff
  · -- a lead byte from 0xC2 and one continuation byte
    simp only [h1, h2, if_true, if_false, List.cons_append, List.nil_append, decodeFront,
      toNat_ofNat_of_lt (show v / 64 % 32 + 192 < 256 by omega), hcont,
      toNat_ofNat_of_lt (show v % 64 + 128 < 256 by omega)]
    rw [if_neg (by omega), if_neg (by omega), if_pos (by omega)]
    have hval : (v / 64 % 32 + 192) % 32 * 64 + (v % 64 + 128) % 64 = v := by omega
    rw [hval]
    rfl
  by_cases h3 : v ≤ 0xffff
  · -- a lead byte from 0xE0; after 0xE0 no overlong form, after 0xED no surrogate
    simp only [h1, h2, h3, if_true, if_false, List.cons_append, List.nil_append, decodeFront,
      toNat_ofNat_of_lt (show v / 4096 % 16 + 224 < 256 by omega),
      toNat_ofNat_of_lt (show v / 64 % 64 + 128 < 256 by omega), hcont,
      toNat_ofNat_of_lt (show v % 64 + 128 < 256 by omega)]
    rw [if_neg (by omega), if_neg (by omega), if_neg (by omega), if_pos (by omega)]
    rw [if_pos (by simp only [Bool.and_true, Bool.and_eq_true, decide_eq_true_eq]; constructor <;> split <;> omega)]
    have hval : (v / 4096 % 16 + 224) % 16 * 4096 + (v / 64 % 64 + 128) % 64 * 64 + (v % 64 + 128) % 64 = v := by
      omega
    rw [hval]
    rfl
  · -- a lead byte from 0xF0; after 0xF0 no overlong form, after 0xF4 nothing past U+10FFFF
    simp only [h1, h2, h3, if_false, List.cons_append, List.nil_append, decodeFront,
      toNat_ofNat_of_lt (show v / 262144 % 8 + 240 < 256 by omega),
      toNat_ofNat_of_lt (show v / 4096 % 64 + 128 < 256 by omega), hcont,
      toNat_ofNat_of_lt (show v / 64 % 64 + 128 < 256 by omega), toNat_ofNat_of_lt (show v % 64 + 128 < 256 by omega)]
    rw [if_neg (by omega), if_neg (by omega), if_neg (by omega), if_neg (by omega), if_pos (by omega)]
    rw [if_pos (by simp only [Bool.and_true, Bool.and_eq_true, decide_eq_true_eq]; constructor <;> split <;> omega)]
    have hval : (v / 262144 % 8 + 240) % 8 * 262144 + (v / 4096 % 64 + 128) % 64 * 4096 +
        (v / 64 % 64 + 128) % 64 * 64 + (v % 64 + 128) % 64 = v := by
      omega
    rw [hval]
    rfl

/-- Reading the bytes of characters reads back those characters. -/
theorem go_flatMap (cs : List Char) : ∀ (fuel : Nat) (acc : List Char),
    (cs.flatMap String.utf8EncodeChar).length ≤ fuel →
      decodeLossy.go fuel (cs.flatMap String.utf8EncodeChar) acc = acc.reverse ++ cs := by
  induction cs with
  | nil =>
    intro fuel acc _
    cases fuel <;> simp [decodeLossy.go]
  | cons c cs ih =>
    intro fuel acc hf
    obtain ⟨b, bs, hb⟩ := List.exists_cons_of_ne_nil (String.utf8EncodeChar_ne_nil (c := c))
    have hfront := decodeFront_encodeChar c (cs.flatMap String.utf8EncodeChar)
    rw [hb, List.cons_append] at hfront
    rw [List.flatMap_cons, hb, List.length_append, List.length_cons] at hf
    obtain ⟨fuel, rfl⟩ : ∃ f, fuel = f + 1 := ⟨fuel - 1, by omega⟩
    -- one character is read, and the rest from where its bytes end
    rw [List.flatMap_cons, hb, List.cons_append, decodeLossy.go, hfront]
    dsimp only
    rw [← List.cons_append, List.drop_left' rfl, ih fuel (c :: acc) (by omega)]
    simp

/-- Reading back the bytes of a text gives the text. -/
theorem decodeLossy_encode (s : String) : decodeLossy (encode s) = s := by
  rw [decodeLossy, encode_eq, go_flatMap s.toList _ [] (Nat.le_refl _)]
  simp

end Utf8

end Userland
