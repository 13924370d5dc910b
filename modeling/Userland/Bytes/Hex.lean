namespace Userland

/-! # Hexadecimal text of bytes

Each byte is two lowercase hexadecimal digits, high half first. Reading accepts
either case and refuses an odd count or any other character.
-/

namespace Hex

/-- The digit of a value below 16. -/
def digit (n : Nat) : Char := "0123456789abcdef".toList.getD n '0'

/-- The two digits of a byte. -/
def ofByte (b : UInt8) : List Char := [digit (b.toNat / 16), digit (b.toNat % 16)]

/-- The hexadecimal text of bytes. -/
def encode (bs : List UInt8) : String := String.ofList (bs.flatMap ofByte)

/-- The value of a digit in either case. -/
def digitVal? (c : Char) : Option Nat :=
  if '0' ≤ c && c ≤ '9' then some (c.toNat - '0'.toNat)
  else if 'a' ≤ c && c ≤ 'f' then some (c.toNat - 'a'.toNat + 10)
  else if 'A' ≤ c && c ≤ 'F' then some (c.toNat - 'A'.toNat + 10)
  else none

/-- The bytes of a list of digit pairs. -/
def decodeChars : List Char → Option (List UInt8)
  | [] => some []
  | a :: b :: r => do
    let x ← digitVal? a
    let y ← digitVal? b
    let rest ← decodeChars r
    pure ((x * 16 + y).toUInt8 :: rest)
  | [_] => none

/-- The bytes of a hexadecimal text. -/
def decode (s : String) : Option (List UInt8) := decodeChars s.toList

end Hex

end Userland
