namespace Userland

/-! # Quoted text

The literal form in which error messages show a name: the text between double
quotes, a backslash before a quote or backslash, the usual letter escapes for
bell, backspace, form feed, newline, carriage return, tab and vertical tab, and
numeric escapes for every other character that is not printable (`\x` below
U+0080, `\u` below U+10000, `\U` above).

Printable means a letter, mark, number, punctuation or symbol, or the ASCII
space. Other spaces, separators, format characters and private-use characters
are not; unassigned code points are taken as printable.
-/

namespace Text

/-- Lowercase hexadecimal digits of `n`, exactly `width` of them. -/
def hexDigits (width n : Nat) : String :=
  String.ofList ((List.range width).reverse.map fun k =>
    "0123456789abcdef".toList.getD (n / Nat.pow 16 k % 16) '0')

/-- Code point ranges, inclusive, of the characters above U+00FF that are not printable. -/
def unprintableRanges : List (Nat × Nat) :=
  [(0x0600, 0x0605), (0x061C, 0x061C), (0x06DD, 0x06DD), (0x070F, 0x070F),
   (0x08E2, 0x08E2), (0x1680, 0x1680), (0x180E, 0x180E), (0x2000, 0x200F),
   (0x2028, 0x202F), (0x205F, 0x2064), (0x2066, 0x206F), (0x3000, 0x3000),
   (0xD800, 0xF8FF), (0xFEFF, 0xFEFF), (0xFFF9, 0xFFFB), (0x110BD, 0x110BD),
   (0x110CD, 0x110CD), (0x13430, 0x1343F), (0x1BCA0, 0x1BCA3), (0x1D173, 0x1D17A),
   (0xE0001, 0xE0001), (0xE0020, 0xE007F), (0xF0000, 0x10FFFF)]

/-- Whether a character stands as itself in quoted text. -/
def isPrintable (c : Char) : Bool :=
  let n := c.toNat
  if n < 0x100 then
    (0x20 ≤ n && n < 0x7F) || (0xA1 ≤ n && n ≠ 0xAD)
  else
    !(unprintableRanges.any fun (lo, hi) => lo ≤ n && n ≤ hi)

/-- The escaped form of one character inside double quotes. -/
def quoteChar (c : Char) : String :=
  if c = '"' then "\\\""
  else if c = '\\' then "\\\\"
  else if isPrintable c then c.toString
  else if c.toNat = 7 then "\\a"
  else if c.toNat = 8 then "\\b"
  else if c.toNat = 12 then "\\f"
  else if c = '\n' then "\\n"
  else if c = '\r' then "\\r"
  else if c = '\t' then "\\t"
  else if c.toNat = 11 then "\\v"
  else if c.toNat < 0x20 || c.toNat = 0x7F then "\\x" ++ hexDigits 2 c.toNat
  else if c.toNat < 0x10000 then "\\u" ++ hexDigits 4 c.toNat
  else "\\U" ++ hexDigits 8 c.toNat

/-- Text between double quotes, escaped character by character. -/
def quote (s : String) : String :=
  "\"" ++ String.join (s.toList.map quoteChar) ++ "\""

end Text

end Userland
