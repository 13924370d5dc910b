import Userland.Script.Str

namespace Userland

/-! # Letters: the order of texts for people

The order compares the Latin, Greek and Cyrillic letters by their lower
case, which is one letter here: the full mappings of texts are in `Casing`.

Texts compare for people in three passes: first by their letters with
accents and case set aside (blanks and punctuation before digits, digits
before letters), then by accents, then by case, lower before upper.
-/

namespace Script

namespace Letters

/-- The lower-case form of a character. -/
def lower (c : Char) : Char :=
  let n := c.toNat
  if 'A' ≤ c && c ≤ 'Z' then Char.ofNat (n + 32)
  else if n < 0xC0 then c
  else if (0xC0 ≤ n && n ≤ 0xDE && n ≠ 0xD7) then Char.ofNat (n + 32)
  else if n = 0x178 then Char.ofNat 0xFF
  else if 0x100 ≤ n && n ≤ 0x17F && n ≠ 0x130 && n ≠ 0x131 && n ≠ 0x138 && n ≠ 0x149 && n ≠ 0x17F then
    if (0x139 ≤ n && n ≤ 0x148) || (0x179 ≤ n && n ≤ 0x17E) then (if n % 2 = 1 then Char.ofNat (n + 1) else c)
    else if n % 2 = 0 then Char.ofNat (n + 1) else c
  else if n = 0x386 then Char.ofNat 0x3AC
  else if 0x388 ≤ n && n ≤ 0x38A then Char.ofNat (n + 37)
  else if n = 0x38C then Char.ofNat 0x3CC
  else if n = 0x38E || n = 0x38F then Char.ofNat (n + 63)
  else if 0x391 ≤ n && n ≤ 0x3AB && n ≠ 0x3A2 then Char.ofNat (n + 32)
  else if 0x410 ≤ n && n ≤ 0x42F then Char.ofNat (n + 32)
  else if 0x400 ≤ n && n ≤ 0x40F then Char.ofNat (n + 80)
  else c

/-- The base letter of an accented Latin letter, in lower case. -/
def baseLetter (c : Char) : List Char :=
  let n := (lower c).toNat
  if n < 0xE0 then [lower c]
  else if n ≤ 0xE5 then ['a']
  else if n = 0xE6 then ['a', 'e']
  else if n = 0xE7 then ['c']
  else if n ≤ 0xEB then ['e']
  else if n ≤ 0xEF then ['i']
  else if n = 0xF0 then ['d']
  else if n = 0xF1 then ['n']
  else if n ≤ 0xF6 || n = 0xF8 then ['o']
  else if n ≤ 0xFC && n ≥ 0xF9 then ['u']
  else if n = 0xFD || n = 0xFF then ['y']
  else if n = 0xFE then ['t', 'h']
  else if n = 0xDF then ['s', 's']
  else if 0x100 ≤ n && n < 0x180 then
    let table := "aaaaaaccccccccddddeeeeeeeeeegggggggghhhhiiiiiiiiiiiijjkkkllllllllllnnnnnnnnnoooooooorrrrrrssssssssttttttuuuuuuuuuuuuwwyyyzzzzzzs"
    match table.toList[n - 0x100]? with
    | some b => [b]
    | none => [Char.ofNat n]
  else [Char.ofNat n]

/-- Whether a character is an accented form of its base letter. -/
def isAccented (c : Char) : Bool :=
  let n := (lower c).toNat
  (0xE0 ≤ n && n ≤ 0xFF && n ≠ 0xE6 && n ≠ 0xF7 && n ≠ 0xDF) || (0x100 ≤ n && n < 0x180)

/-- The order of the punctuation and symbols of ASCII, before digits. -/
def punctuationOrder : List Char :=
  "_-,;:!?.'\"()[]@*/\\&#%^+<=>|~$".toList ++ [Char.ofNat 0x7B, Char.ofNat 0x7D, Char.ofNat 96]

/-- The first-pass weight of a character. -/
def primary (c : Char) : List Nat :=
  let n := c.toNat
  if c == ' ' || c == '\t' || c == '\n' || c == '\r' || n < 0x20 then [0, n]
  else if c.isDigit then [3, n]
  else if c.isAlpha || (0xC0 ≤ n && n < 0x250 && n ≠ 0xD7 && n ≠ 0xF7) then
    [4] ++ (baseLetter c).map Char.toNat
  else if 0x370 ≤ n && n < 0x400 then [5, (lower c).toNat]
  else if 0x400 ≤ n && n < 0x530 then [6, (lower c).toNat]
  else
    match punctuationOrder.idxOf? c with
    | some i => [1, i]
    | none => if n < 0x100 then [2, n] else [7, n]

/-- Compares two lists of weights in order, a list before its extensions. -/
def compareLists : List Nat → List Nat → Ordering
  | [], [] => .eq
  | [], _ :: _ => .lt
  | _ :: _, [] => .gt
  | a :: as, b :: bs =>
    match compare a b with
    | .eq => compareLists as bs
    | o => o

/-- Compares texts for people: -1, 0 or 1. -/
def collate (a b : String) : Int :=
  let key (f : Char → List Nat) (s : String) : List Nat := s.toList.flatMap fun c => f c ++ [0]
  let p := compareLists (key primary a) (key primary b)
  let acc := compareLists (a.toList.map fun c => if isAccented c then 1 else 0)
    (b.toList.map fun c => if isAccented c then 1 else 0)
  let cs := compareLists (a.toList.map fun c => if lower c != c then 1 else 0)
    (b.toList.map fun c => if lower c != c then 1 else 0)
  match p.then (acc.then cs) with
  | .lt => -1
  | .eq => 0
  | .gt => 1

end Letters

end Script

end Userland
