namespace Userland

/-! # Characters of names

Which characters outside ASCII may start a name and which may go on with one:
the letters and letter numbers (and the few other characters the standard adds
to the start set), and for going on also the combining marks, the decimal
digits and the connector punctuation. Each set is a sorted array of inclusive
ranges of code points, searched by halves; the tables write each range as the
gap before it and its span (`ofGaps`).
-/

namespace IdentifierChars

/-- Sorted, disjoint ranges written as numbers in pairs: the gap before a range
(counted from `start`, then from the code point after the range before it) and
its span (its last code point less its first). -/
def ofGaps : Nat → List Nat → List (Nat × Nat)
  | start, gap :: span :: rest => (start + gap, start + gap + span) :: ofGaps (start + gap + span + 1) rest
  | _, _ => []

/-- The ranges of code points at or above U+0080 that may start a name. -/
def startRanges : Array (Nat × Nat) := (ofGaps 0 [
  170, 0, 10, 0, 4, 0, 5, 22, 1, 30, 1, 457, 4, 11, 14, 4, 7, 0, 1, 0, 129, 4, 1, 1, 2, 3, 1, 0, 6,
  0, 1, 2, 1, 0, 1, 19, 1, 82, 1, 138, 8, 165, 1, 37, 2, 0, 6, 40, 71, 26, 4, 3, 45, 42, 35, 1, 1,
  98, 1, 0, 15, 1, 7, 1, 10, 2, 2, 0, 16, 0, 1, 29, 29, 88, 11, 0, 24, 32, 9, 1, 4, 0, 5, 21, 4, 0,
  9, 0, 3, 0, 23, 24, 7, 10, 5, 23, 1, 5, 17, 41, 58, 53, 3, 0, 18, 0, 7, 9, 15, 15, 4, 7, 2, 1, 2,
  21, 1, 6, 1, 0, 3, 3, 3, 0, 16, 0, 13, 1, 1, 2, 14, 1, 10, 0, 8, 5, 4, 1, 2, 21, 1, 6, 1, 1, 1, 1,
  1, 1, 31, 3, 1, 0, 19, 2, 16, 8, 1, 2, 1, 21, 1, 6, 1, 1, 1, 4, 3, 0, 18, 0, 15, 1, 23, 0, 11, 7,
  2, 1, 2, 21, 1, 6, 1, 1, 1, 4, 3, 0, 30, 1, 1, 2, 15, 0, 17, 0, 1, 5, 3, 2, 1, 3, 3, 1, 1, 0, 1,
  1, 3, 1, 3, 2, 3, 11, 22, 0, 52, 7, 1, 2, 1, 22, 1, 15, 3, 0, 26, 2, 2, 0, 2, 1, 30, 0, 4, 7, 1,
  2, 1, 22, 1, 9, 1, 4, 3, 0, 31, 1, 1, 1, 15, 1, 17, 8, 1, 2, 1, 40, 2, 0, 16, 0, 5, 2, 8, 2, 24,
  5, 5, 17, 3, 23, 1, 8, 1, 0, 2, 6, 58, 47, 1, 1, 12, 6, 58, 1, 1, 0, 1, 4, 1, 23, 1, 0, 1, 9, 1,
  1, 9, 0, 2, 4, 1, 0, 21, 3, 32, 0, 63, 7, 1, 35, 27, 4, 115, 42, 20, 0, 16, 5, 4, 3, 3, 0, 3, 1,
  7, 2, 4, 12, 12, 0, 17, 37, 1, 0, 5, 0, 2, 42, 1, 332, 1, 3, 2, 6, 1, 0, 1, 3, 2, 40, 1, 3, 2, 32,
  1, 3, 2, 6, 1, 0, 1, 3, 2, 14, 1, 56, 1, 3, 2, 66, 37, 15, 16, 85, 2, 5, 3, 619, 2, 16, 1, 25, 5,
  74, 3, 10, 7, 17, 13, 18, 14, 17, 14, 12, 1, 2, 15, 51, 35, 0, 4, 0, 67, 88, 7, 40, 1, 0, 5, 69,
  10, 30, 49, 29, 2, 4, 11, 43, 4, 25, 54, 22, 9, 52, 82, 0, 93, 46, 17, 7, 54, 29, 13, 1, 10, 43,
  26, 35, 41, 2, 10, 35, 2, 8, 7, 42, 2, 2, 41, 3, 1, 5, 1, 1, 3, 0, 5, 191, 64, 277, 2, 5, 2, 37,
  2, 5, 2, 7, 1, 0, 1, 0, 1, 0, 1, 30, 2, 52, 1, 6, 1, 0, 3, 2, 1, 6, 3, 3, 2, 5, 4, 12, 5, 2, 1, 6,
  116, 0, 13, 0, 16, 12, 101, 0, 4, 0, 2, 9, 1, 0, 2, 5, 6, 0, 1, 0, 1, 0, 1, 15, 2, 3, 5, 4, 4, 0,
  17, 40, 2679, 228, 6, 3, 3, 1, 12, 37, 1, 0, 5, 0, 2, 55, 7, 0, 16, 22, 9, 6, 1, 6, 1, 6, 1, 6, 1,
  6, 1, 6, 1, 6, 1, 6, 80, 0, 469, 2, 25, 8, 7, 4, 2, 4, 4, 85, 4, 4, 1, 89, 1, 3, 5, 42, 1, 93, 17,
  31, 48, 15, 512, 6591, 64, 22156, 67, 45, 2, 268, 3, 15, 10, 1, 20, 46, 16, 30, 2, 79, 39, 8, 2,
  102, 2, 63, 5, 1, 1, 0, 1, 4, 24, 15, 1, 2, 1, 3, 1, 22, 29, 51, 14, 49, 62, 5, 3, 0, 1, 1, 11,
  27, 10, 22, 25, 28, 7, 46, 28, 0, 16, 4, 1, 9, 10, 4, 1, 40, 23, 2, 1, 7, 20, 22, 3, 0, 3, 49, 1,
  0, 3, 1, 2, 4, 2, 0, 1, 0, 24, 2, 2, 10, 7, 2, 12, 5, 2, 5, 2, 5, 9, 6, 1, 6, 1, 42, 1, 13, 6,
  114, 29, 11171, 12, 22, 4, 48, 8452, 365, 2, 105, 38, 6, 12, 4, 5, 0, 1, 9, 1, 12, 1, 4, 1, 0, 1,
  1, 1, 1, 1, 107, 33, 362, 18, 63, 2, 53, 40, 11, 116, 4, 1, 134, 36, 25, 6, 25, 11, 88, 3, 5, 2,
  5, 2, 5, 2, 2, 35, 11, 1, 25, 1, 18, 1, 1, 1, 14, 2, 13, 34, 122, 69, 52, 267, 28, 3, 48, 47, 31,
  13, 29, 5, 37, 10, 29, 2, 35, 4, 7, 1, 4, 42, 157, 18, 35, 4, 35, 4, 39, 8, 51, 12, 10, 1, 14, 1,
  6, 1, 1, 1, 10, 1, 14, 1, 6, 1, 1, 67, 310, 9, 21, 10, 7, 24, 5, 1, 41, 1, 8, 69, 5, 2, 0, 1, 43,
  1, 1, 3, 0, 2, 22, 10, 22, 9, 30, 65, 18, 1, 1, 10, 21, 10, 25, 70, 55, 6, 1, 64, 0, 15, 3, 1, 2,
  1, 28, 42, 28, 3, 28, 35, 7, 1, 27, 27, 53, 10, 21, 10, 18, 13, 17, 110, 72, 55, 50, 13, 50, 13,
  35, 348, 41, 6, 1, 78, 28, 10, 0, 8, 21, 42, 17, 46, 20, 27, 22, 12, 52, 57, 1, 2, 0, 13, 44, 32,
  24, 26, 35, 29, 0, 2, 0, 8, 34, 3, 0, 12, 47, 14, 3, 21, 0, 1, 0, 35, 17, 1, 24, 84, 6, 1, 0, 1,
  3, 1, 14, 1, 9, 7, 46, 38, 7, 2, 1, 2, 21, 1, 6, 1, 1, 1, 4, 3, 0, 18, 0, 12, 4, 158, 52, 18, 3,
  20, 2, 30, 47, 20, 1, 1, 0, 184, 46, 41, 3, 36, 47, 20, 0, 59, 42, 13, 0, 71, 26, 37, 6, 185, 43,
  116, 63, 31, 7, 2, 0, 2, 7, 1, 1, 1, 23, 15, 0, 1, 0, 94, 7, 2, 38, 16, 0, 1, 0, 28, 0, 10, 39, 7,
  0, 21, 0, 11, 45, 19, 0, 18, 72, 263, 8, 1, 36, 17, 0, 49, 29, 112, 6, 1, 1, 1, 37, 21, 0, 25, 5,
  1, 1, 1, 31, 14, 0, 327, 18, 189, 0, 79, 921, 102, 110, 17, 195, 2636, 96, 15, 1070, 4049, 582,
  8633, 568, 7, 30, 17, 78, 17, 29, 18, 47, 16, 3, 31, 20, 5, 18, 688, 63, 128, 74, 5, 0, 66, 12,
  64, 1, 1, 0, 28, 6135, 8, 1237, 42, 8, 8935, 3, 1, 6, 1, 1, 1, 290, 45, 2, 17, 3, 8, 395, 2308,
  106, 5, 12, 3, 8, 7, 9, 5990, 84, 1, 70, 1, 1, 2, 0, 2, 1, 2, 3, 1, 11, 1, 0, 1, 6, 1, 64, 1, 3,
  2, 7, 1, 6, 1, 27, 1, 3, 1, 4, 1, 0, 3, 6, 1, 339, 2, 24, 1, 24, 1, 30, 1, 24, 1, 30, 1, 24, 1,
  30, 1, 24, 1, 30, 1, 24, 1, 7, 1844, 30, 481, 44, 10, 6, 16, 0, 321, 29, 18, 43, 1268, 6, 1, 3, 1,
  1, 1, 14, 1, 196, 59, 67, 7, 0, 1204, 3, 1, 26, 1, 1, 1, 0, 2, 0, 1, 9, 1, 3, 1, 0, 1, 0, 6, 0, 4,
  0, 1, 0, 1, 0, 1, 2, 1, 1, 1, 0, 2, 0, 1, 0, 1, 0, 1, 0, 1, 0, 1, 1, 1, 0, 2, 3, 1, 6, 1, 3, 1, 3,
  1, 0, 1, 9, 1, 16, 5, 2, 1, 4, 1, 16, 4420, 42719, 32, 4152, 7, 221, 2, 5761, 14, 7472, 3103, 541,
  1506, 4938
]).toArray

/-- The ranges of code points at or above U+0080 that may go on with a name. -/
def partRanges : Array (Nat × Nat) := (ofGaps 0 [
  170, 0, 10, 0, 1, 0, 2, 0, 5, 22, 1, 30, 1, 457, 4, 11, 14, 4, 7, 0, 1, 0, 17, 116, 1, 1, 2, 3, 1,
  0, 6, 4, 1, 0, 1, 19, 1, 82, 1, 138, 1, 4, 2, 165, 1, 37, 2, 0, 6, 40, 8, 44, 1, 0, 1, 1, 1, 1, 1,
  0, 8, 26, 4, 3, 29, 10, 5, 73, 4, 101, 1, 7, 2, 9, 1, 18, 2, 0, 16, 58, 2, 100, 14, 53, 4, 0, 2,
  0, 2, 45, 18, 27, 4, 10, 5, 23, 1, 5, 9, 73, 1, 128, 2, 9, 1, 18, 1, 7, 2, 1, 2, 21, 1, 6, 1, 0,
  3, 3, 2, 8, 2, 1, 2, 3, 8, 0, 4, 1, 1, 4, 2, 11, 10, 0, 1, 0, 2, 2, 1, 5, 4, 1, 2, 21, 1, 6, 1, 1,
  1, 1, 1, 1, 2, 0, 1, 4, 4, 1, 2, 2, 3, 0, 7, 3, 1, 0, 7, 15, 11, 2, 1, 8, 1, 2, 1, 21, 1, 6, 1, 1,
  1, 4, 2, 9, 1, 2, 1, 2, 2, 0, 15, 3, 2, 9, 9, 6, 1, 2, 1, 7, 2, 1, 2, 21, 1, 6, 1, 1, 1, 4, 2, 8,
  2, 1, 2, 2, 7, 2, 4, 1, 1, 4, 2, 9, 1, 0, 16, 1, 1, 5, 3, 2, 1, 3, 3, 1, 1, 0, 1, 1, 3, 1, 3, 2,
  3, 11, 4, 4, 3, 2, 1, 3, 2, 0, 6, 0, 14, 9, 16, 12, 1, 2, 1, 22, 1, 15, 2, 8, 1, 2, 1, 3, 7, 1, 1,
  2, 2, 0, 2, 3, 2, 9, 16, 3, 1, 7, 1, 2, 1, 22, 1, 9, 1, 4, 2, 8, 1, 2, 1, 3, 7, 1, 6, 1, 1, 3, 2,
  9, 1, 1, 13, 12, 1, 2, 1, 50, 1, 2, 1, 4, 5, 3, 7, 4, 2, 9, 10, 5, 1, 2, 1, 17, 3, 23, 1, 8, 1, 0,
  2, 6, 3, 0, 4, 5, 1, 0, 1, 7, 6, 9, 2, 1, 13, 57, 5, 14, 1, 9, 39, 1, 1, 0, 1, 4, 1, 23, 1, 0, 1,
  22, 2, 4, 1, 0, 1, 5, 2, 9, 2, 3, 32, 0, 23, 1, 6, 9, 11, 0, 1, 0, 1, 0, 4, 9, 1, 35, 4, 19, 1,
  17, 1, 35, 9, 0, 57, 73, 6, 77, 2, 37, 1, 0, 5, 0, 2, 42, 1, 332, 1, 3, 2, 6, 1, 0, 1, 3, 2, 40,
  1, 3, 2, 32, 1, 3, 2, 6, 1, 0, 1, 3, 2, 14, 1, 56, 1, 3, 2, 66, 2, 2, 9, 8, 14, 15, 16, 85, 2, 5,
  3, 619, 2, 16, 1, 25, 5, 74, 3, 10, 7, 21, 9, 21, 11, 19, 12, 12, 1, 2, 1, 1, 12, 83, 3, 0, 4, 1,
  2, 9, 33, 2, 1, 10, 6, 88, 7, 42, 5, 69, 10, 30, 1, 11, 4, 11, 10, 39, 2, 4, 11, 43, 4, 25, 6, 10,
  37, 27, 4, 62, 1, 28, 2, 10, 6, 9, 13, 0, 8, 13, 1, 15, 49, 76, 3, 9, 17, 8, 12, 115, 12, 55, 8,
  9, 3, 48, 2, 8, 7, 42, 2, 2, 16, 2, 1, 38, 5, 533, 2, 5, 2, 37, 2, 5, 2, 7, 1, 0, 1, 0, 1, 0, 1,
  30, 2, 52, 1, 6, 1, 0, 3, 2, 1, 6, 3, 3, 2, 5, 4, 12, 5, 2, 1, 6, 66, 1, 19, 0, 28, 0, 13, 0, 16,
  12, 51, 12, 4, 0, 3, 11, 17, 0, 4, 0, 2, 9, 1, 0, 2, 5, 6, 0, 1, 0, 1, 0, 1, 15, 2, 3, 5, 4, 4, 0,
  17, 40, 2679, 228, 6, 8, 12, 37, 1, 0, 5, 0, 2, 55, 7, 0, 15, 23, 9, 6, 1, 6, 1, 6, 1, 6, 1, 6, 1,
  6, 1, 6, 1, 6, 1, 31, 47, 0, 469, 2, 25, 14, 1, 4, 2, 4, 4, 85, 2, 6, 1, 89, 1, 3, 5, 42, 1, 93,
  17, 31, 48, 15, 512, 6591, 64, 22156, 67, 45, 2, 268, 3, 27, 20, 47, 4, 9, 1, 114, 37, 8, 2, 102,
  2, 63, 5, 1, 1, 0, 1, 4, 24, 53, 4, 0, 19, 51, 12, 69, 10, 9, 6, 23, 3, 0, 1, 48, 2, 35, 12, 28,
  3, 64, 14, 10, 6, 30, 1, 54, 9, 13, 2, 9, 6, 22, 3, 72, 24, 2, 2, 15, 2, 4, 10, 5, 2, 5, 2, 5, 9,
  6, 1, 6, 1, 42, 1, 13, 6, 122, 1, 1, 2, 9, 6, 11171, 12, 22, 4, 48, 8452, 365, 2, 105, 38, 6, 12,
  4, 5, 11, 1, 12, 1, 4, 1, 0, 1, 1, 1, 1, 1, 107, 33, 362, 18, 63, 2, 53, 40, 11, 4, 15, 16, 15, 3,
  1, 24, 2, 32, 4, 1, 134, 19, 9, 7, 25, 4, 0, 1, 25, 11, 88, 3, 5, 2, 5, 2, 5, 2, 2, 35, 11, 1, 25,
  1, 18, 1, 1, 1, 14, 2, 13, 34, 122, 69, 52, 136, 0, 130, 28, 3, 48, 15, 0, 31, 31, 13, 29, 5, 42,
  5, 29, 2, 35, 4, 7, 1, 4, 42, 157, 2, 9, 6, 35, 4, 35, 4, 39, 8, 51, 12, 10, 1, 14, 1, 6, 1, 1, 1,
  10, 1, 14, 1, 6, 1, 1, 67, 310, 9, 21, 10, 7, 24, 5, 1, 41, 1, 8, 69, 5, 2, 0, 1, 43, 1, 1, 3, 0,
  2, 22, 10, 22, 9, 30, 65, 18, 1, 1, 10, 21, 10, 25, 70, 55, 6, 1, 64, 3, 1, 1, 5, 7, 1, 2, 1, 28,
  2, 2, 4, 0, 32, 28, 3, 28, 35, 7, 1, 29, 25, 53, 10, 21, 10, 18, 13, 17, 110, 72, 55, 50, 13, 50,
  13, 39, 8, 9, 326, 41, 1, 1, 3, 1, 78, 28, 10, 0, 8, 32, 31, 21, 42, 20, 27, 22, 9, 70, 31, 15, 9,
  59, 7, 0, 13, 24, 7, 9, 6, 52, 1, 9, 4, 3, 8, 35, 2, 0, 9, 68, 4, 3, 1, 12, 1, 0, 35, 17, 1, 36,
  6, 0, 65, 6, 1, 0, 1, 3, 1, 14, 1, 9, 7, 58, 5, 9, 6, 3, 1, 7, 2, 1, 2, 21, 1, 6, 1, 1, 1, 4, 1,
  9, 2, 1, 2, 2, 2, 0, 6, 0, 5, 6, 2, 6, 3, 4, 139, 74, 5, 9, 4, 3, 30, 69, 1, 0, 8, 9, 166, 53, 2,
  8, 23, 5, 34, 64, 3, 0, 11, 9, 38, 56, 7, 9, 54, 26, 2, 14, 4, 9, 6, 6, 185, 58, 101, 73, 21, 7,
  2, 0, 2, 7, 1, 1, 1, 29, 1, 1, 2, 8, 12, 9, 70, 7, 2, 45, 2, 7, 1, 1, 27, 62, 8, 0, 8, 73, 3, 0,
  18, 72, 263, 8, 1, 44, 1, 8, 15, 9, 24, 29, 2, 21, 1, 13, 73, 6, 1, 1, 1, 43, 3, 0, 1, 1, 1, 8, 8,
  9, 6, 5, 1, 1, 1, 36, 1, 1, 1, 5, 7, 9, 310, 22, 185, 0, 79, 921, 102, 110, 17, 195, 2636, 96, 15,
  1070, 4049, 582, 8633, 568, 7, 30, 1, 9, 6, 78, 1, 9, 6, 29, 2, 4, 11, 54, 9, 3, 12, 9, 9, 20, 5,
  18, 688, 63, 128, 74, 4, 56, 7, 16, 64, 1, 1, 1, 11, 1, 14, 6135, 8, 1237, 42, 8, 8935, 3, 1, 6,
  1, 1, 1, 290, 45, 2, 17, 3, 8, 395, 2308, 106, 5, 12, 3, 8, 7, 9, 3, 1, 4705, 45, 2, 22, 542, 4,
  3, 5, 8, 7, 2, 6, 30, 3, 148, 2, 443, 84, 1, 70, 1, 1, 2, 0, 2, 1, 2, 3, 1, 11, 1, 0, 1, 6, 1, 64,
  1, 3, 2, 7, 1, 6, 1, 27, 1, 3, 1, 4, 1, 0, 3, 6, 1, 339, 2, 24, 1, 24, 1, 30, 1, 24, 1, 30, 1, 24,
  1, 30, 1, 24, 1, 30, 1, 24, 1, 7, 2, 49, 512, 54, 4, 49, 8, 0, 14, 0, 22, 4, 1, 14, 1104, 30, 225,
  6, 1, 16, 2, 6, 1, 1, 1, 4, 213, 44, 3, 13, 2, 9, 4, 0, 321, 30, 17, 57, 1254, 6, 1, 3, 1, 1, 1,
  14, 1, 196, 11, 6, 41, 75, 4, 9, 1190, 3, 1, 26, 1, 1, 1, 0, 2, 0, 1, 9, 1, 3, 1, 0, 1, 0, 6, 0,
  4, 0, 1, 0, 1, 0, 1, 2, 1, 1, 1, 0, 2, 0, 1, 0, 1, 0, 1, 0, 1, 0, 1, 1, 1, 0, 2, 3, 1, 6, 1, 3, 1,
  3, 1, 0, 1, 9, 1, 16, 5, 2, 1, 4, 1, 16, 3380, 9, 1030, 42719, 32, 4152, 7, 221, 2, 5761, 14,
  7472, 3103, 541, 1506, 4938, 716213, 239
]).toArray

/-- Whether a code point lies in one of sorted, disjoint ranges, looking in
the ranges from `lo` up to `hi` (exclusive), in at most `fuel` halvings. -/
def inRanges (rs : Array (Nat × Nat)) (n : Nat) : Nat → Nat → Nat → Bool
  | 0, _, _ => false
  | fuel + 1, lo, hi =>
    if lo ≥ hi then false
    else
      let mid := (lo + hi) / 2
      match rs[mid]? with
      | none => false
      | some (a, b) =>
        if n < a then inRanges rs n fuel lo mid
        else if n > b then inRanges rs n fuel (mid + 1) hi
        else true

/-- Whether a character outside ASCII may start a name. -/
def isStart (c : Char) : Bool := inRanges startRanges c.toNat 32 0 startRanges.size

/-- Whether a character outside ASCII may go on with a name. -/
def isPart (c : Char) : Bool := inRanges partRanges c.toNat 32 0 partRanges.size

end IdentifierChars

end Userland
