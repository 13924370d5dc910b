import Userland.Text.Utf8

namespace Userland

/-! # Words and columns

Words are the maximal runs of characters that are not white space, where white
space is the ASCII blanks (tab, line feed, vertical tab, form feed, carriage
return, space), the next-line character U+0085, the no-break space U+00A0 and
the other space separators of Unicode. Bytes that are not well-formed text
count as characters that are not space.

Columns lay out lines of cells: every cell but the last of its line is padded
with spaces to the width of its column, which is the widest cell of the column
plus the padding. Widths count characters.
-/

namespace Text

/-- Whether a character is white space. -/
def isSpace (c : Char) : Bool :=
  let n := c.toNat
  (9 ≤ n && n ≤ 13) || n = 32 || n = 0x85 || n = 0xA0 || n = 0x1680 ||
    (0x2000 ≤ n && n ≤ 0x200A) || n = 0x2028 || n = 0x2029 || n = 0x202F || n = 0x205F ||
    n = 0x3000

/-- The number of words in a text. -/
def wordCount (cs : List Char) : Nat :=
  (cs.foldl (fun (n, inWord) c =>
    if isSpace c then (n, false) else if inWord then (n, true) else (n + 1, true)) (0, false)).1

/-- The number of words in bytes read as text. -/
def wordCountBytes (bs : List UInt8) : Nat := wordCount (Utf8.decodeLossy bs).toList

/-- The number of line feeds in bytes. -/
def lineCount (bs : List UInt8) : Nat := bs.count 10

/-- The width of column `j`: its widest cell plus the padding. -/
def columnWidth (padding : Nat) (rows : List (List String)) (j : Nat) : Nat :=
  (rows.filterMap fun r => if j + 1 < r.length then r[j]? else none).foldl
    (fun w c => max w (c.length + padding)) 0

/-- Lays out rows of cells, one line each. -/
def columns (padding : Nat) (rows : List (List String)) : String :=
  String.join (rows.map fun r =>
    let cells := r.zipIdx.map fun (c, j) =>
      if j + 1 < r.length then
        c ++ String.ofList (List.replicate (columnWidth padding rows j - c.length) ' ')
      else c
    String.join cells ++ "\n")

end Text

end Userland
