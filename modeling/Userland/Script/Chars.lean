import Userland.Text.IdentifierChars

namespace Userland

/-! # Classes of script characters

Line terminators, blanks, the characters of names, and digits, as script
text uses them.
-/

namespace Script

/-- Line terminators. -/
def isLineBreak (c : Char) : Bool :=
  c = '\n' || c = '\r' || c.toNat = 0x2028 || c.toNat = 0x2029

/-- Blanks other than line terminators. -/
def isBlank (c : Char) : Bool :=
  c = ' ' || c = '\t' || c.toNat = 0x0b || c.toNat = 0x0c || c.toNat = 0xa0 || c.toNat = 0xfeff ||
  c.toNat = 0x1680 || (0x2000 ≤ c.toNat && c.toNat ≤ 0x200a) || c.toNat = 0x202f ||
  c.toNat = 0x205f || c.toNat = 0x3000

/-- Blanks outside ASCII that the scanner passes over between tokens. -/
def isWideSpace (c : Char) : Bool :=
  c.toNat = 0x85 || c.toNat = 0xa0 || c.toNat = 0x1680 || (0x2000 ≤ c.toNat && c.toNat ≤ 0x200a) ||
  c.toNat = 0x202f || c.toNat = 0x205f || c.toNat = 0x3000

/-- Characters a name may start with; a backslash starts an escape. -/
def isNameStart (c : Char) : Bool :=
  c = '$' || c = '_' || c = '\\' || ('a' ≤ c && c ≤ 'z') || ('A' ≤ c && c ≤ 'Z') ||
  (c.toNat ≥ 0x80 && IdentifierChars.isStart c)

/-- Characters a name may go on with. -/
def isNamePart (c : Char) : Bool :=
  c = '$' || c = '_' || c = '\\' || ('a' ≤ c && c ≤ 'z') || ('A' ≤ c && c ≤ 'Z') ||
  ('0' ≤ c && c ≤ '9') || c.toNat = 0x200c || c.toNat = 0x200d ||
  (c.toNat ≥ 0x80 && IdentifierChars.isPart c)

/-- The value of a digit in bases up to 36, or 36 for anything else. -/
def digitValue (c : Char) : Nat :=
  if '0' ≤ c && c ≤ '9' then c.toNat - '0'.toNat
  else if 'a' ≤ c && c ≤ 'z' then c.toNat - 'a'.toNat + 10
  else if 'A' ≤ c && c ≤ 'Z' then c.toNat - 'A'.toNat + 10
  else 36

/-- The value of a hexadecimal digit. -/
def hexValue (c : Char) : Option Nat :=
  let v := digitValue c
  if v < 16 then some v else none

/-- The value of a run of digits in a base. -/
def digitsValue (base : Nat) (ds : List Char) : Nat :=
  ds.foldl (fun n c => n * base + digitValue c) 0

/-- The quote of template literals. -/
def backtick : Char := Char.ofNat 96

end Script

end Userland
