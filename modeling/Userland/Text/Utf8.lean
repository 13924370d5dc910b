namespace Userland

/-! # UTF-8

Text is stored as bytes in UTF-8. Reading bytes back as text is lossy: every
byte that does not begin a well-formed sequence becomes U+FFFD, and reading goes
on at the next byte. Well-formed means the shortest form, no surrogate halves,
and nothing above U+10FFFF.
-/

namespace Utf8

/-- The UTF-8 bytes of a text. -/
def encode (s : String) : List UInt8 := s.toUTF8.toList

/-- Whether a byte continues a sequence. -/
def isCont (b : UInt8) : Bool := b &&& 0xC0 == 0x80

/-- The character at the front of the bytes and how many bytes it takes, or
none when the front is not a well-formed sequence. -/
def decodeFront : List UInt8 → Option (Char × Nat)
  | [] => none
  | b0 :: rest =>
    let n0 := b0.toNat
    if n0 < 0x80 then some (Char.ofNat n0, 1)
    else if n0 < 0xC2 then none
    else if n0 < 0xE0 then
      match rest with
      | b1 :: _ => if isCont b1 then some (Char.ofNat ((n0 % 0x20) * 0x40 + b1.toNat % 0x40), 2) else none
      | _ => none
    else if n0 < 0xF0 then
      match rest with
      | b1 :: b2 :: _ =>
        let lo : Nat := if n0 = 0xE0 then 0xA0 else 0x80
        let hi : Nat := if n0 = 0xED then 0x9F else 0xBF
        if lo ≤ b1.toNat && b1.toNat ≤ hi && isCont b2 then
          some (Char.ofNat ((n0 % 0x10) * 0x1000 + (b1.toNat % 0x40) * 0x40 + b2.toNat % 0x40), 3)
        else none
      | _ => none
    else if n0 < 0xF5 then
      match rest with
      | b1 :: b2 :: b3 :: _ =>
        let lo : Nat := if n0 = 0xF0 then 0x90 else 0x80
        let hi : Nat := if n0 = 0xF4 then 0x8F else 0xBF
        if lo ≤ b1.toNat && b1.toNat ≤ hi && isCont b2 && isCont b3 then
          some (Char.ofNat ((n0 % 0x08) * 0x40000 + (b1.toNat % 0x40) * 0x1000 +
            (b2.toNat % 0x40) * 0x40 + b3.toNat % 0x40), 4)
        else none
      | _ => none
    else none

/-- Reads bytes as text, each ill-formed byte becoming U+FFFD. -/
def decodeLossy (bs : List UInt8) : String :=
  String.ofList (go bs.length bs [])
where
  go : Nat → List UInt8 → List Char → List Char
    | 0, _, acc => acc.reverse
    | _, [], acc => acc.reverse
    | fuel + 1, b :: rest, acc =>
      match decodeFront (b :: rest) with
      | some (c, n) => go fuel ((b :: rest).drop n) (c :: acc)
      | none => go fuel rest ('\uFFFD' :: acc)

end Utf8

end Userland
