import Userland.Text.IdentifierChars

namespace Userland

/-! # Upper and lower case of texts

The full case mappings of Unicode, as texts are put in upper or lower case
without regard to a language.

* Most characters map to one other character a fixed distance away; the
  tables hold runs of them, every character or every other one of a range.
* A few map to several: `ß` upper-cases to `SS` and the ligature `ﬁ` to
  `FI`, and `İ` lower-cases to `i` with a combining dot above.
* A capital sigma inside a word lower-cases to `σ`, and to the final form `ς`
  when it ends the word: when it comes after a cased letter and before none.
  Marks, apostrophes and the other characters case ignores are skipped on
  both sides, up to `maxIgnorable` of them after it.
-/

namespace Casing

/-- A run of characters each mapped `delta` further on: every `step`-th
character from `lo` to `hi`. -/
structure Shift where
  lo : Nat
  hi : Nat
  delta : Int
  step : Nat

/-- Sorted, disjoint runs written as numbers in fours: the gap before a run
(counted from `start`, then from the character after the run before it), its
span, its `delta` and its `step`. -/
def Shift.ofGaps : Nat → List Int → List Shift
  | start, gap :: span :: delta :: step :: rest =>
    let lo := start + gap.toNat
    ⟨lo, lo + span.toNat, delta, step.toNat⟩ :: Shift.ofGaps (lo + span.toNat + 1) rest
  | _, _ => []

/-- The runs of the lower-case mapping, sorted and disjoint. -/
def lowerShifts : Array Shift := (Shift.ofGaps 0 [
  65, 25, 32, 1, 101, 22, 32, 1, 1, 6, 32, 1, 33, 46, 1, 2, 3, 4, 1, 2, 2, 14, 1, 2, 2, 44, 1, 2, 1,
  0, -121, 1, 0, 4, 1, 2, 3, 0, 210, 1, 0, 2, 1, 2, 1, 0, 206, 1, 0, 0, 1, 1, 1, 1, 205, 1, 0, 0, 1,
  1, 2, 0, 79, 1, 0, 0, 202, 1, 0, 0, 203, 1, 0, 0, 1, 1, 1, 0, 205, 1, 0, 0, 207, 1, 1, 0, 211, 1,
  0, 0, 209, 1, 0, 0, 1, 1, 3, 0, 211, 1, 0, 0, 213, 1, 1, 0, 214, 1, 0, 4, 1, 2, 1, 0, 218, 1, 0,
  0, 1, 1, 1, 0, 218, 1, 2, 0, 1, 1, 1, 0, 218, 1, 0, 0, 1, 1, 1, 1, 217, 1, 0, 2, 1, 2, 1, 0, 219,
  1, 0, 0, 1, 1, 3, 0, 1, 1, 7, 0, 2, 1, 0, 0, 1, 1, 1, 0, 2, 1, 0, 0, 1, 1, 1, 0, 2, 1, 0, 16, 1,
  2, 2, 16, 1, 2, 2, 0, 2, 1, 0, 2, 1, 2, 1, 0, -97, 1, 0, 0, -56, 1, 0, 38, 1, 2, 1, 0, -130, 1, 1,
  16, 1, 2, 7, 0, 10795, 1, 0, 0, 1, 1, 1, 0, -163, 1, 0, 0, 10792, 1, 2, 0, 1, 1, 1, 0, -195, 1, 0,
  0, 69, 1, 0, 0, 71, 1, 0, 8, 1, 2, 289, 2, 1, 2, 3, 0, 1, 1, 8, 0, 116, 1, 6, 0, 38, 1, 1, 2, 37,
  1, 1, 0, 64, 1, 1, 1, 63, 1, 1, 16, 32, 1, 1, 8, 32, 1, 35, 0, 8, 1, 8, 22, 1, 2, 5, 0, -60, 1, 2,
  0, 1, 1, 1, 0, -7, 1, 0, 0, 1, 1, 2, 2, -130, 1, 0, 15, 80, 1, 0, 31, 32, 1, 48, 32, 1, 2, 9, 52,
  1, 2, 1, 0, 15, 1, 0, 12, 1, 2, 2, 94, 1, 2, 2, 37, 48, 1, 2889, 37, 7264, 1, 1, 0, 7264, 1, 5, 0,
  7264, 1, 722, 79, 38864, 1, 0, 5, 8, 1, 2202, 42, -3008, 1, 2, 2, -3008, 1, 320, 148, 1, 2, 9, 0,
  -7615, 1, 1, 94, 1, 2, 9, 7, -8, 1, 8, 5, -8, 1, 10, 7, -8, 1, 8, 7, -8, 1, 8, 5, -8, 1, 11, 6,
  -8, 2, 8, 7, -8, 1, 24, 7, -8, 1, 8, 7, -8, 1, 8, 7, -8, 1, 8, 1, -8, 1, 0, 1, -74, 1, 0, 0, -9,
  1, 11, 3, -86, 1, 0, 0, -9, 1, 11, 1, -8, 1, 0, 1, -100, 1, 12, 1, -8, 1, 0, 1, -112, 1, 0, 0, -7,
  1, 11, 1, -128, 1, 0, 1, -126, 1, 0, 0, -9, 1, 297, 0, -7517, 1, 3, 0, -8383, 1, 0, 0, -8262, 1,
  6, 0, 28, 1, 45, 15, 16, 1, 19, 0, 1, 1, 818, 25, 26, 1, 1840, 47, 48, 1, 48, 0, 1, 1, 1, 0,
  -10743, 1, 0, 0, -3814, 1, 0, 0, -10727, 1, 2, 4, 1, 2, 1, 0, -10780, 1, 0, 0, -10749, 1, 0, 0,
  -10783, 1, 0, 0, -10782, 1, 1, 0, 1, 1, 2, 0, 1, 1, 8, 1, -10815, 1, 0, 98, 1, 2, 8, 2, 1, 2, 4,
  0, 1, 1, 31053, 44, 1, 2, 19, 26, 1, 2, 135, 12, 1, 2, 3, 60, 1, 2, 10, 2, 1, 2, 1, 0, -35332, 1,
  0, 8, 1, 2, 4, 0, 1, 1, 1, 0, -42280, 1, 2, 2, 1, 2, 3, 18, 1, 2, 1, 0, -42308, 1, 0, 0, -42319,
  1, 0, 0, -42315, 1, 0, 0, -42305, 1, 0, 0, -42308, 1, 1, 0, -42258, 1, 0, 0, -42282, 1, 0, 0,
  -42261, 1, 0, 0, 928, 1, 0, 14, 1, 2, 1, 0, -48, 1, 0, 0, -42307, 1, 0, 0, -35384, 1, 0, 2, 1, 2,
  6, 0, 1, 1, 5, 2, 1, 2, 28, 0, 1, 1, 22315, 25, 32, 1, 1221, 39, 40, 1, 136, 35, 40, 1, 156, 10,
  39, 1, 1, 14, 39, 1, 1, 6, 39, 1, 1, 1, 39, 1, 1770, 50, 64, 1, 3053, 31, 32, 1, 21888, 31, 32, 1,
  31392, 33, 34, 1
]).toArray

/-- The runs of the upper-case mapping, sorted and disjoint. -/
def upperShifts : Array Shift := (Shift.ofGaps 0 [
  97, 25, -32, 1, 58, 0, 743, 1, 42, 22, -32, 1, 1, 6, -32, 1, 0, 0, 121, 1, 1, 46, -1, 2, 1, 0,
  -232, 1, 1, 4, -1, 2, 2, 14, -1, 2, 2, 44, -1, 2, 2, 4, -1, 2, 0, 0, -300, 1, 0, 0, 195, 1, 2, 2,
  -1, 2, 2, 0, -1, 1, 3, 0, -1, 1, 5, 0, -1, 1, 2, 0, 97, 1, 3, 0, -1, 1, 0, 0, 163, 1, 3, 0, 130,
  1, 2, 4, -1, 2, 2, 0, -1, 1, 4, 0, -1, 1, 2, 0, -1, 1, 3, 2, -1, 2, 2, 0, -1, 1, 3, 0, -1, 1, 1,
  0, 56, 1, 5, 0, -1, 1, 0, 0, -2, 1, 1, 0, -1, 1, 0, 0, -2, 1, 1, 0, -1, 1, 0, 0, -2, 1, 1, 14, -1,
  2, 0, 0, -79, 1, 1, 16, -1, 2, 2, 0, -1, 1, 0, 0, -2, 1, 1, 0, -1, 1, 3, 38, -1, 2, 3, 16, -1, 2,
  8, 0, -1, 1, 2, 1, 10815, 1, 1, 0, -1, 1, 4, 8, -1, 2, 0, 0, 10783, 1, 0, 0, 10780, 1, 0, 0,
  10782, 1, 0, 0, -210, 1, 0, 0, -206, 1, 1, 1, -205, 1, 1, 0, -202, 1, 1, 0, -203, 1, 0, 0, 42319,
  1, 3, 0, -205, 1, 0, 0, 42315, 1, 1, 0, -207, 1, 1, 0, 42280, 1, 0, 0, 42308, 1, 1, 0, -209, 1, 0,
  0, -211, 1, 0, 0, 42308, 1, 0, 0, 10743, 1, 0, 0, 42305, 1, 2, 0, -211, 1, 1, 0, 10749, 1, 0, 0,
  -213, 1, 2, 0, -214, 1, 7, 0, 10727, 1, 2, 0, -218, 1, 1, 0, 42307, 1, 0, 0, -218, 1, 3, 0, 42282,
  1, 0, 0, -218, 1, 0, 0, -69, 1, 0, 1, -217, 1, 0, 0, -71, 1, 5, 0, -219, 1, 10, 0, 42261, 1, 0, 0,
  42258, 1, 166, 0, 84, 1, 43, 2, -1, 2, 3, 0, -1, 1, 3, 2, 130, 1, 46, 0, -38, 1, 0, 2, -37, 1, 1,
  16, -32, 1, 0, 0, -31, 1, 0, 8, -32, 1, 0, 0, -64, 1, 0, 1, -63, 1, 1, 0, -62, 1, 0, 0, -57, 1, 3,
  0, -47, 1, 0, 0, -54, 1, 0, 0, -8, 1, 1, 22, -1, 2, 0, 0, -86, 1, 0, 0, -80, 1, 0, 0, 7, 1, 0, 0,
  -116, 1, 1, 0, -96, 1, 2, 0, -1, 1, 2, 0, -1, 1, 52, 31, -32, 1, 0, 15, -80, 1, 1, 32, -1, 2, 9,
  52, -1, 2, 2, 12, -1, 2, 0, 0, -15, 1, 1, 94, -1, 2, 49, 37, -48, 1, 2889, 42, 3008, 1, 2, 2,
  3008, 1, 760, 5, -8, 1, 2178, 0, -6254, 1, 0, 0, -6253, 1, 0, 0, -6244, 1, 0, 1, -6242, 1, 0, 0,
  -6243, 1, 0, 0, -6236, 1, 0, 0, -6181, 1, 0, 0, 35266, 1, 240, 0, 35332, 1, 3, 0, 3814, 1, 16, 0,
  35384, 1, 114, 148, -1, 2, 5, 0, -59, 1, 5, 94, -1, 2, 0, 7, 8, 1, 8, 5, 8, 1, 10, 7, 8, 1, 8, 7,
  8, 1, 8, 5, 8, 1, 11, 6, 8, 2, 8, 7, 8, 1, 8, 1, 74, 1, 0, 3, 86, 1, 0, 1, 100, 1, 0, 1, 128, 1,
  0, 1, 112, 1, 0, 1, 126, 1, 50, 1, 8, 1, 12, 0, -7205, 1, 17, 1, 8, 1, 14, 1, 8, 1, 3, 0, 7, 1,
  360, 0, -28, 1, 33, 15, -16, 1, 4, 0, -1, 1, 843, 25, -26, 1, 1862, 47, -48, 1, 1, 0, -1, 1, 3, 0,
  -10795, 1, 0, 0, -10792, 1, 1, 4, -1, 2, 6, 0, -1, 1, 2, 0, -1, 1, 10, 98, -1, 2, 8, 2, -1, 2, 4,
  0, -1, 1, 12, 37, -7264, 1, 1, 0, -7264, 1, 5, 0, -7264, 1, 30995, 44, -1, 2, 19, 26, -1, 2, 135,
  12, -1, 2, 3, 60, -1, 2, 10, 2, -1, 2, 2, 8, -1, 2, 4, 0, -1, 1, 4, 2, -1, 2, 0, 0, 48, 1, 2, 18,
  -1, 2, 11, 14, -1, 2, 4, 2, -1, 2, 6, 0, -1, 1, 5, 2, -1, 2, 28, 0, -1, 1, 860, 0, -928, 1, 28,
  79, -38864, 1, 21377, 25, -32, 1, 1229, 39, -40, 1, 136, 35, -40, 1, 155, 10, -39, 1, 1, 14, -39,
  1, 1, 6, -39, 1, 1, 1, -39, 1, 1795, 50, -64, 1, 3021, 31, -32, 1, 21888, 31, -32, 1, 31394, 33,
  -34, 1
]).toArray

/-- The characters whose lower case is several characters. -/
def lowerExpansions : List (Nat × List Nat) := [
  (0x130, [0x69, 0x307])
]

/-- The characters whose upper case is several characters. The Greek letters
with a subscript iota from `0x1F80` to `0x1FAF` come in six rows of eight, two
rows to each of the capitals from `0x1F08`, `0x1F28` and `0x1F68` on, each
followed by a capital iota. -/
def upperExpansions : List (Nat × List Nat) := [
  (0xDF, [0x53, 0x53]), (0x149, [0x2BC, 0x4E]), (0x1F0, [0x4A, 0x30C]),
  (0x390, [0x399, 0x308, 0x301]), (0x3B0, [0x3A5, 0x308, 0x301]), (0x587, [0x535, 0x552]),
  (0x1E96, [0x48, 0x331]), (0x1E97, [0x54, 0x308]), (0x1E98, [0x57, 0x30A]),
  (0x1E99, [0x59, 0x30A]), (0x1E9A, [0x41, 0x2BE]), (0x1F50, [0x3A5, 0x313]),
  (0x1F52, [0x3A5, 0x313, 0x300]), (0x1F54, [0x3A5, 0x313, 0x301]),
  (0x1F56, [0x3A5, 0x313, 0x342])
] ++ (List.range 48).map (fun i => (0x1F80 + i, [[0x1F08, 0x1F28, 0x1F68].getD (i / 16) 0 + i % 8, 0x399])) ++ [
  (0x1FB2, [0x1FBA, 0x399]), (0x1FB3, [0x391, 0x399]), (0x1FB4, [0x386, 0x399]),
  (0x1FB6, [0x391, 0x342]), (0x1FB7, [0x391, 0x342, 0x399]), (0x1FBC, [0x391, 0x399]),
  (0x1FC2, [0x1FCA, 0x399]), (0x1FC3, [0x397, 0x399]), (0x1FC4, [0x389, 0x399]),
  (0x1FC6, [0x397, 0x342]), (0x1FC7, [0x397, 0x342, 0x399]), (0x1FCC, [0x397, 0x399]),
  (0x1FD2, [0x399, 0x308, 0x300]), (0x1FD3, [0x399, 0x308, 0x301]), (0x1FD6, [0x399, 0x342]),
  (0x1FD7, [0x399, 0x308, 0x342]), (0x1FE2, [0x3A5, 0x308, 0x300]),
  (0x1FE3, [0x3A5, 0x308, 0x301]), (0x1FE4, [0x3A1, 0x313]), (0x1FE6, [0x3A5, 0x342]),
  (0x1FE7, [0x3A5, 0x308, 0x342]), (0x1FF2, [0x1FFA, 0x399]), (0x1FF3, [0x3A9, 0x399]),
  (0x1FF4, [0x38F, 0x399]), (0x1FF6, [0x3A9, 0x342]), (0x1FF7, [0x3A9, 0x342, 0x399]),
  (0x1FFC, [0x3A9, 0x399]), (0xFB00, [0x46, 0x46]), (0xFB01, [0x46, 0x49]), (0xFB02, [0x46, 0x4C]),
  (0xFB03, [0x46, 0x46, 0x49]), (0xFB04, [0x46, 0x46, 0x4C]), (0xFB05, [0x53, 0x54]),
  (0xFB06, [0x53, 0x54]), (0xFB13, [0x544, 0x546]), (0xFB14, [0x544, 0x535]),
  (0xFB15, [0x544, 0x53B]), (0xFB16, [0x54E, 0x546]), (0xFB17, [0x544, 0x53D])
]

/-- The ranges of the cased characters: those with the lower-case or the
upper-case property, and the title-case letters. -/
def casedRanges : Array (Nat × Nat) := (IdentifierChars.ofGaps 0 [
  65, 25, 6, 25, 47, 0, 10, 0, 4, 0, 5, 22, 1, 30, 1, 194, 1, 3, 4, 207, 1, 35, 7, 1, 30, 4, 96, 0,
  42, 3, 2, 1, 2, 3, 1, 0, 6, 0, 1, 2, 1, 0, 1, 19, 1, 82, 1, 138, 8, 165, 1, 37, 9, 40, 2839, 37,
  1, 0, 5, 0, 2, 42, 2, 2, 672, 85, 2, 5, 2178, 8, 7, 42, 2, 2, 64, 191, 64, 277, 2, 5, 2, 37, 2, 5,
  2, 7, 1, 0, 1, 0, 1, 0, 1, 30, 2, 52, 1, 6, 1, 0, 3, 2, 1, 6, 3, 3, 2, 5, 4, 12, 5, 2, 1, 6, 116,
  0, 13, 0, 16, 12, 101, 0, 4, 0, 2, 9, 1, 0, 3, 4, 6, 0, 1, 0, 1, 0, 1, 3, 1, 5, 4, 0, 2, 3, 5, 4,
  4, 0, 17, 31, 3, 1, 817, 51, 1814, 228, 6, 3, 3, 1, 12, 37, 1, 0, 5, 0, 30994, 45, 18, 29, 132,
  101, 3, 3, 1, 58, 5, 1, 1, 0, 1, 4, 27, 1, 1, 2, 821, 42, 1, 12, 7, 79, 20288, 6, 12, 4, 1033, 25,
  6, 25, 1189, 79, 96, 35, 4, 35, 116, 10, 1, 14, 1, 6, 1, 1, 1, 10, 1, 14, 1, 6, 1, 1, 451, 0, 2,
  2, 1, 41, 1, 8, 1221, 50, 13, 50, 2989, 63, 21856, 63, 25984, 84, 1, 70, 1, 1, 2, 0, 2, 1, 2, 3,
  1, 11, 1, 0, 1, 6, 1, 64, 1, 3, 2, 7, 1, 6, 1, 27, 1, 3, 1, 4, 1, 0, 3, 6, 1, 339, 2, 24, 1, 24,
  1, 30, 1, 24, 1, 30, 1, 24, 1, 30, 1, 24, 1, 30, 1, 24, 1, 7, 1844, 9, 1, 19, 2529, 67, 2028, 25,
  6, 25, 6, 25
]).toArray

/-- The ranges of the characters case ignores: marks, format characters,
modifiers, and the apostrophes, points and colons that may stand inside a word. -/
def ignorableRanges : Array (Nat × Nat) := (IdentifierChars.ofGaps 0 [
  39, 0, 6, 0, 11, 0, 35, 0, 1, 0, 71, 0, 4, 0, 1, 0, 4, 0, 2, 1, 503, 191, 4, 1, 4, 0, 9, 1, 1, 0,
  251, 6, 207, 0, 5, 0, 49, 44, 1, 0, 1, 1, 1, 1, 1, 0, 44, 0, 11, 5, 10, 10, 1, 0, 35, 0, 10, 20,
  16, 0, 101, 7, 1, 9, 1, 3, 33, 0, 1, 0, 30, 26, 91, 10, 58, 10, 4, 0, 2, 0, 24, 23, 43, 2, 44, 0,
  7, 1, 6, 7, 41, 57, 55, 0, 1, 0, 4, 7, 4, 0, 3, 6, 10, 1, 13, 0, 15, 0, 58, 0, 4, 3, 8, 0, 20, 1,
  26, 0, 2, 1, 57, 0, 4, 1, 4, 1, 2, 2, 3, 0, 30, 1, 3, 0, 11, 1, 57, 0, 4, 4, 1, 1, 4, 0, 20, 1,
  22, 5, 1, 0, 58, 0, 2, 0, 1, 3, 8, 0, 7, 1, 11, 1, 30, 0, 61, 0, 12, 0, 50, 0, 3, 0, 55, 0, 1, 2,
  5, 2, 1, 3, 7, 1, 11, 1, 29, 0, 58, 0, 2, 0, 6, 0, 5, 1, 20, 1, 28, 1, 57, 1, 4, 3, 8, 0, 20, 1,
  29, 0, 72, 0, 7, 2, 1, 0, 90, 0, 2, 6, 11, 8, 98, 0, 2, 8, 9, 0, 1, 5, 74, 1, 27, 0, 1, 0, 1, 0,
  55, 13, 1, 4, 1, 1, 5, 10, 1, 35, 9, 0, 102, 3, 1, 5, 1, 1, 2, 1, 25, 1, 4, 2, 16, 3, 13, 0, 2, 1,
  6, 0, 15, 0, 94, 0, 608, 2, 946, 2, 29, 1, 30, 1, 30, 1, 64, 1, 1, 6, 8, 0, 2, 10, 3, 0, 5, 0, 45,
  4, 51, 0, 65, 1, 34, 0, 118, 2, 4, 1, 9, 0, 6, 2, 219, 1, 2, 0, 58, 0, 1, 6, 1, 0, 1, 0, 2, 7, 6,
  9, 2, 0, 39, 0, 8, 30, 49, 3, 48, 0, 1, 4, 1, 0, 5, 0, 40, 8, 12, 1, 32, 3, 2, 1, 1, 2, 56, 0, 1,
  1, 3, 0, 1, 2, 58, 7, 2, 1, 64, 5, 82, 2, 1, 12, 1, 6, 4, 0, 6, 0, 3, 1, 50, 62, 13, 0, 34, 100,
  445, 0, 1, 2, 11, 2, 13, 2, 13, 2, 13, 1, 12, 4, 8, 1, 10, 0, 2, 0, 2, 4, 49, 4, 1, 9, 1, 0, 13,
  0, 16, 12, 51, 32, 2955, 1, 113, 2, 125, 0, 15, 0, 96, 31, 47, 0, 469, 0, 36, 3, 3, 4, 5, 0, 93,
  5, 93, 2, 28438, 0, 1250, 5, 270, 0, 98, 3, 1, 9, 1, 0, 28, 3, 80, 1, 14, 33, 78, 0, 23, 2, 103,
  2, 3, 1, 8, 0, 3, 0, 4, 0, 25, 1, 5, 0, 151, 1, 26, 17, 13, 0, 38, 7, 25, 10, 46, 2, 48, 0, 2, 3,
  2, 1, 17, 0, 21, 1, 66, 5, 2, 1, 2, 1, 12, 0, 8, 0, 35, 0, 11, 0, 51, 0, 1, 2, 2, 1, 5, 1, 1, 0,
  27, 0, 14, 1, 5, 1, 1, 0, 100, 4, 9, 2, 121, 0, 2, 0, 4, 0, 20272, 0, 147, 16, 573, 15, 3, 0, 12,
  15, 34, 0, 2, 0, 169, 0, 7, 0, 6, 0, 11, 0, 35, 0, 1, 0, 47, 0, 45, 1, 67, 0, 21, 2, 513, 0, 226,
  0, 149, 4, 1029, 5, 1, 41, 1, 8, 582, 2, 1, 1, 5, 3, 40, 2, 4, 0, 165, 1, 573, 3, 387, 1, 153, 10,
  49, 3, 123, 0, 54, 14, 41, 0, 2, 1, 10, 2, 49, 3, 2, 1, 2, 0, 4, 0, 10, 0, 50, 2, 36, 4, 1, 7, 62,
  0, 12, 1, 52, 8, 10, 3, 2, 0, 95, 2, 2, 0, 1, 1, 6, 0, 160, 0, 3, 7, 21, 1, 57, 1, 3, 0, 37, 6, 3,
  4, 195, 7, 2, 2, 1, 0, 23, 0, 84, 5, 1, 0, 4, 1, 1, 1, 238, 3, 6, 1, 1, 1, 27, 1, 85, 7, 2, 0, 1,
  1, 106, 0, 1, 0, 2, 5, 1, 0, 101, 2, 2, 3, 1, 4, 259, 8, 1, 1, 256, 1, 1, 0, 4, 0, 144, 3, 2, 1,
  4, 0, 32, 9, 40, 5, 2, 3, 8, 0, 9, 5, 2, 2, 46, 12, 1, 1, 406, 6, 1, 5, 1, 0, 82, 21, 2, 6, 1, 1,
  1, 1, 122, 5, 3, 0, 1, 1, 1, 6, 1, 0, 72, 1, 3, 0, 1, 0, 347, 1, 5435, 8, 14007, 4, 59, 6, 9, 3,
  1035, 0, 63, 16, 64, 1, 1, 1, 16395, 3, 1, 6, 1, 1, 3230, 1, 1, 3, 4700, 45, 2, 22, 544, 2, 9, 15,
  2, 6, 30, 3, 148, 2, 1979, 54, 4, 49, 8, 0, 14, 0, 22, 4, 1, 14, 1360, 6, 1, 16, 2, 6, 1, 1, 1, 4,
  261, 13, 368, 0, 61, 3, 1504, 6, 109, 7, 2735, 4, 789505, 0, 30, 95, 128, 239
]).toArray

/-- The character a sorted array of runs maps a character to, looking in the
runs from `lo` up to `hi` (exclusive), in at most `fuel` halvings; the
character itself when no run holds it. -/
def shiftIn (rs : Array Shift) (c : Nat) : Nat → Nat → Nat → Nat
  | 0, _, _ => c
  | fuel + 1, lo, hi =>
    if lo ≥ hi then c
    else
      let mid := (lo + hi) / 2
      match rs[mid]? with
      | none => c
      | some r =>
        if c < r.lo then shiftIn rs c fuel lo mid
        else if c > r.hi then shiftIn rs c fuel (mid + 1) hi
        else if (c - r.lo) % r.step == 0 then ((c : Int) + r.delta).toNat
        else c

/-- The lower case of a character: one or more characters. -/
def lowerOf (c : Nat) : List Nat :=
  if c < 0x80 then [if 0x41 ≤ c && c ≤ 0x5A then c + 32 else c]
  else
    match lowerExpansions.lookup c with
    | some cs => cs
    | none => [shiftIn lowerShifts c 32 0 lowerShifts.size]

/-- The upper case of a character: one or more characters. -/
def upperOf (c : Nat) : List Nat :=
  if c < 0x80 then [if 0x61 ≤ c && c ≤ 0x7A then c - 32 else c]
  else
    match upperExpansions.lookup c with
    | some cs => cs
    | none => [shiftIn upperShifts c 32 0 upperShifts.size]

/-- Whether a character is cased. -/
def isCased (c : Nat) : Bool := IdentifierChars.inRanges casedRanges c 32 0 casedRanges.size

/-- Whether case ignores a character. -/
def isIgnorable (c : Nat) : Bool := IdentifierChars.inRanges ignorableRanges c 32 0 ignorableRanges.size

/-- The capital sigma. -/
def capitalSigma : Nat := 0x3A3

/-- The most characters case ignores that are looked past after a sigma. -/
def maxIgnorable : Nat := 30

/-- Whether the characters after a sigma go on with a cased letter, at most
`n` characters case ignores being skipped first: then the sigma is not final. -/
def continuesWord : Nat → List Nat → Bool
  | 0, _ => false
  | _, [] => false
  | n + 1, c :: rest => if isIgnorable c then continuesWord n rest else isCased c

/-- Lower-cases characters, `between` when no word has started: a word
starts at a cased letter and ends at a character neither cased nor ignored
by case. A capital sigma in a word is final unless the word goes on. -/
def lowerFrom : Nat → Bool → List Nat → List Nat
  | 0, _, _ => []
  | _, _, [] => []
  | n + 1, between, c :: rest =>
    if between then
      if isCased c then lowerOf c ++ lowerFrom n false rest
      else c :: lowerFrom n true rest
    else if !isCased c && !isIgnorable c then c :: lowerFrom n true rest
    else if c != capitalSigma then lowerOf c ++ lowerFrom n false rest
    else (if continuesWord (maxIgnorable + 1) rest then 0x3C3 else 0x3C2) :: lowerFrom n false rest

/-- A text in lower case. -/
def lowerText (s : String) : String :=
  let cs := s.toList.map Char.toNat
  String.ofList ((lowerFrom cs.length true cs).map Char.ofNat)

/-- A text in upper case. -/
def upperText (s : String) : String :=
  String.ofList ((s.toList.flatMap fun c => upperOf c.toNat).map Char.ofNat)

end Casing

end Userland
