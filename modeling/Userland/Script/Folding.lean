namespace Userland

/-! # Case folding

Which characters a case-insensitive pattern treats as one. Two characters
fold together when they share a case orbit: the set of characters that simple
case folding maps to one character. For most letters the orbit is the letter
and its partner of the other case; a few orbits are larger (`k`, `K` and the
Kelvin sign; `s`, `S` and the long s; the three sigmas; Greek letters with
symbol variants), and a few letters are alone (the dotted capital `İ` and the
dotless `ı`, whose case partners belong to other orbits).

The tables cover the cased scripts of the Basic Multilingual Plane that texts
use (Latin, Greek, Coptic, Cyrillic, Armenian, Georgian, Cherokee, Glagolitic,
the letterlike and enclosed letters and the full-width forms) and the cased
scripts of the supplementary planes.

Lower case alone (`lowerOf`) is the other notion of sameness: two characters
are the same when their lower cases are.
-/

namespace Script

namespace Folding

/-- A run of capitals with their lower cases `delta` further on: every `step`-th
character from `lo` to `hi`. -/
structure Run where
  lo : Nat
  hi : Nat
  delta : Int
  step : Nat

/-- The runs of capitals and their lower cases. -/
def runs : List Run := [
  ⟨0x41, 0x5A, 32, 1⟩, ⟨0xC0, 0xD6, 32, 1⟩, ⟨0xD8, 0xDE, 32, 1⟩,
  ⟨0x100, 0x12E, 1, 2⟩, ⟨0x132, 0x136, 1, 2⟩, ⟨0x139, 0x147, 1, 2⟩, ⟨0x14A, 0x176, 1, 2⟩,
  ⟨0x179, 0x17D, 1, 2⟩, ⟨0x182, 0x184, 1, 2⟩, ⟨0x189, 0x18A, 205, 1⟩, ⟨0x1A0, 0x1A4, 1, 2⟩,
  ⟨0x1B1, 0x1B2, 217, 1⟩, ⟨0x1CD, 0x1DB, 1, 2⟩, ⟨0x1DE, 0x1EE, 1, 2⟩, ⟨0x1F8, 0x21E, 1, 2⟩,
  ⟨0x222, 0x232, 1, 2⟩, ⟨0x246, 0x24E, 1, 2⟩,
  ⟨0x370, 0x372, 1, 2⟩, ⟨0x388, 0x38A, 37, 1⟩, ⟨0x38E, 0x38F, 63, 1⟩, ⟨0x391, 0x3A1, 32, 1⟩,
  ⟨0x3A3, 0x3AB, 32, 1⟩, ⟨0x3D8, 0x3EE, 1, 2⟩, ⟨0x3FD, 0x3FF, -130, 1⟩,
  ⟨0x400, 0x40F, 80, 1⟩, ⟨0x410, 0x42F, 32, 1⟩, ⟨0x460, 0x480, 1, 2⟩, ⟨0x48A, 0x4BE, 1, 2⟩,
  ⟨0x4C1, 0x4CD, 1, 2⟩, ⟨0x4D0, 0x52E, 1, 2⟩, ⟨0x531, 0x556, 48, 1⟩,
  ⟨0x10A0, 0x10C5, 7264, 1⟩, ⟨0x13A0, 0x13EF, 38864, 1⟩, ⟨0x13F0, 0x13F5, 8, 1⟩,
  ⟨0x1C90, 0x1CBA, -3008, 1⟩, ⟨0x1CBD, 0x1CBF, -3008, 1⟩,
  ⟨0x1E00, 0x1E94, 1, 2⟩, ⟨0x1EA0, 0x1EFE, 1, 2⟩,
  ⟨0x1F08, 0x1F0F, -8, 1⟩, ⟨0x1F18, 0x1F1D, -8, 1⟩, ⟨0x1F28, 0x1F2F, -8, 1⟩,
  ⟨0x1F38, 0x1F3F, -8, 1⟩, ⟨0x1F48, 0x1F4D, -8, 1⟩, ⟨0x1F59, 0x1F5F, -8, 2⟩,
  ⟨0x1F68, 0x1F6F, -8, 1⟩, ⟨0x1F88, 0x1F8F, -8, 1⟩, ⟨0x1F98, 0x1F9F, -8, 1⟩,
  ⟨0x1FA8, 0x1FAF, -8, 1⟩, ⟨0x1FB8, 0x1FB9, -8, 1⟩, ⟨0x1FBA, 0x1FBB, -74, 1⟩,
  ⟨0x1FBC, 0x1FBC, -9, 1⟩, ⟨0x1FC8, 0x1FCB, -86, 1⟩, ⟨0x1FCC, 0x1FCC, -9, 1⟩,
  ⟨0x1FD8, 0x1FD9, -8, 1⟩, ⟨0x1FDA, 0x1FDB, -100, 1⟩, ⟨0x1FE8, 0x1FE9, -8, 1⟩,
  ⟨0x1FEA, 0x1FEB, -112, 1⟩, ⟨0x1FEC, 0x1FEC, -7, 1⟩, ⟨0x1FF8, 0x1FF9, -128, 1⟩,
  ⟨0x1FFA, 0x1FFB, -126, 1⟩, ⟨0x1FFC, 0x1FFC, -9, 1⟩,
  ⟨0x2160, 0x216F, 16, 1⟩, ⟨0x24B6, 0x24CF, 26, 1⟩, ⟨0x2C00, 0x2C2F, 48, 1⟩,
  ⟨0x2C67, 0x2C6B, 1, 2⟩, ⟨0x2C80, 0x2CE2, 1, 2⟩, ⟨0x2CEB, 0x2CED, 1, 2⟩,
  ⟨0xA640, 0xA66C, 1, 2⟩, ⟨0xA680, 0xA69A, 1, 2⟩, ⟨0xA722, 0xA72E, 1, 2⟩,
  ⟨0xA732, 0xA76E, 1, 2⟩, ⟨0xA779, 0xA77B, 1, 2⟩, ⟨0xA77E, 0xA786, 1, 2⟩,
  ⟨0xA790, 0xA792, 1, 2⟩, ⟨0xA796, 0xA7A8, 1, 2⟩, ⟨0xA7B4, 0xA7C2, 1, 2⟩,
  ⟨0xA7C7, 0xA7C9, 1, 2⟩, ⟨0xA7D6, 0xA7D8, 1, 2⟩,
  ⟨0xFF21, 0xFF3A, 32, 1⟩, ⟨0x10400, 0x10427, 40, 1⟩, ⟨0x104B0, 0x104D3, 40, 1⟩,
  ⟨0x10570, 0x1057A, 39, 1⟩, ⟨0x1057C, 0x1058A, 39, 1⟩, ⟨0x1058C, 0x10592, 39, 1⟩,
  ⟨0x10594, 0x10595, 39, 1⟩, ⟨0x10C80, 0x10CB2, 64, 1⟩, ⟨0x118A0, 0x118BF, 32, 1⟩,
  ⟨0x16E40, 0x16E5F, 32, 1⟩, ⟨0x1E900, 0x1E921, 34, 1⟩]

/-- Single capitals and their lower cases, outside the runs. -/
def pairs : List (Nat × Nat) := [
  (0x178, 0xFF), (0x181, 0x253), (0x186, 0x254), (0x187, 0x188), (0x18B, 0x18C),
  (0x18E, 0x1DD), (0x18F, 0x259), (0x190, 0x25B), (0x191, 0x192), (0x193, 0x260),
  (0x194, 0x263), (0x196, 0x269), (0x197, 0x268), (0x198, 0x199), (0x19C, 0x26F),
  (0x19D, 0x272), (0x19F, 0x275), (0x1A6, 0x280), (0x1A7, 0x1A8), (0x1A9, 0x283),
  (0x1AC, 0x1AD), (0x1AE, 0x288), (0x1AF, 0x1B0), (0x1B3, 0x1B4), (0x1B5, 0x1B6),
  (0x1B7, 0x292), (0x1B8, 0x1B9), (0x1BC, 0x1BD), (0x1C4, 0x1C6), (0x1C7, 0x1C9),
  (0x1CA, 0x1CC), (0x1F1, 0x1F3), (0x1F4, 0x1F5), (0x1F6, 0x195), (0x1F7, 0x1BF),
  (0x220, 0x19E), (0x23A, 0x2C65), (0x23B, 0x23C), (0x23D, 0x19A), (0x23E, 0x2C66),
  (0x241, 0x242), (0x243, 0x180), (0x244, 0x289), (0x245, 0x28C),
  (0x376, 0x377), (0x37F, 0x3F3), (0x386, 0x3AC), (0x38C, 0x3CC), (0x3CF, 0x3D7),
  (0x3F7, 0x3F8), (0x3F9, 0x3F2), (0x3FA, 0x3FB), (0x4C0, 0x4CF),
  (0x10C7, 0x2D27), (0x10CD, 0x2D2D), (0x2132, 0x214E), (0x2183, 0x2184),
  (0x2C60, 0x2C61), (0x2C62, 0x26B), (0x2C63, 0x1D7D), (0x2C64, 0x27D), (0x2C6D, 0x251),
  (0x2C6E, 0x271), (0x2C6F, 0x250), (0x2C70, 0x252), (0x2C72, 0x2C73), (0x2C75, 0x2C76),
  (0x2C7E, 0x23F), (0x2C7F, 0x240), (0x2CF2, 0x2CF3), (0xA77D, 0x1D79), (0xA78B, 0xA78C),
  (0xA78D, 0x265), (0xA7AA, 0x266), (0xA7AB, 0x25C), (0xA7AC, 0x261), (0xA7AD, 0x26C),
  (0xA7AE, 0x26A), (0xA7B0, 0x29E), (0xA7B1, 0x287), (0xA7B2, 0x29D), (0xA7B3, 0xAB53),
  (0xA7C4, 0xA794), (0xA7C5, 0x282), (0xA7C6, 0x1D8E), (0xA7D0, 0xA7D1), (0xA7F5, 0xA7F6)]

/-- Characters whose lower case is a letter with another capital: title-case
digraphs and symbols that lower-case to an ordinary letter. -/
def lowerOnly : List (Nat × Nat) := [
  (0x130, 0x69), (0x1C5, 0x1C6), (0x1C8, 0x1C9), (0x1CB, 0x1CC), (0x1F2, 0x1F3),
  (0x3F4, 0x3B8), (0x1E9E, 0xDF), (0x2126, 0x3C9), (0x212A, 0x6B), (0x212B, 0xE5)]

/-- The case orbits that are not a letter and its partner. -/
def orbits : List (List Nat) := [
  [0x4B, 0x6B, 0x212A], [0x53, 0x73, 0x17F], [0xC5, 0xE5, 0x212B], [0xB5, 0x39C, 0x3BC],
  [0xDF, 0x1E9E], [0x130], [0x131],
  [0x1C4, 0x1C5, 0x1C6], [0x1C7, 0x1C8, 0x1C9], [0x1CA, 0x1CB, 0x1CC], [0x1F1, 0x1F2, 0x1F3],
  [0x392, 0x3B2, 0x3D0], [0x395, 0x3B5, 0x3F5], [0x398, 0x3B8, 0x3D1, 0x3F4],
  [0x345, 0x399, 0x3B9, 0x1FBE], [0x39A, 0x3BA, 0x3F0], [0x3A0, 0x3C0, 0x3D6],
  [0x3A1, 0x3C1, 0x3F1], [0x3A3, 0x3C2, 0x3C3], [0x3A6, 0x3C6, 0x3D5], [0x3A9, 0x3C9, 0x2126],
  [0x412, 0x432, 0x1C80], [0x414, 0x434, 0x1C81], [0x41E, 0x43E, 0x1C82], [0x421, 0x441, 0x1C83],
  [0x422, 0x442, 0x1C84, 0x1C85], [0x42A, 0x44A, 0x1C86], [0x462, 0x463, 0x1C87],
  [0xA64A, 0xA64B, 0x1C88], [0x1E60, 0x1E61, 0x1E9B]]

/-- Whether a run holds a capital. -/
def Run.holds (r : Run) (c : Nat) : Bool :=
  r.lo ≤ c && c ≤ r.hi && (c - r.lo) % r.step == 0

/-- A character moved by a run's offset. -/
def Run.move (r : Run) (c : Nat) : Nat := (c + r.delta).toNat

/-- The lower case of a character: itself when it is not a capital. -/
def lowerOf (c : Nat) : Nat :=
  if c < 0x80 then (if 0x41 ≤ c && c ≤ 0x5A then c + 32 else c)
  else
    match lowerOnly.lookup c with
    | some l => l
    | none =>
      match pairs.lookup c with
      | some l => l
      | none =>
        match runs.find? (·.holds c) with
        | some r => r.move c
        | none => c

/-- The capital whose lower case a character is: itself when there is none. -/
def upperOf (c : Nat) : Nat :=
  if c < 0x80 then (if 0x61 ≤ c && c ≤ 0x7A then c - 32 else c)
  else
    match pairs.find? (·.2 == c) with
    | some (u, _) => u
    | none =>
      match runs.find? (fun r => (c : Int) - r.delta ≥ 0 && r.holds ((c : Int) - r.delta).toNat) with
      | some r => ((c : Int) - r.delta).toNat
      | none => c

/-- The case orbit of a character: every character that folds with it, itself included. -/
def orbit (c : Nat) : List Nat :=
  match orbits.find? (·.contains c) with
  | some o => o
  | none =>
    let l := lowerOf c
    let u := upperOf c
    [c] ++ (if l != c then [l] else []) ++ (if u != c && u != l then [u] else [])

/-- Whether two characters share a case orbit. -/
def sameFold (a b : Nat) : Bool :=
  a == b ||
    (if a < 0x80 && b < 0x80 then lowerOf a == lowerOf b else (orbit a).contains b)

/-- Whether two characters have the same lower case. -/
def sameLower (a b : Nat) : Bool :=
  a == b || lowerOf a == lowerOf b

end Folding

end Script

end Userland
