namespace Userland

/-! # UTF-16 code units

Scripts measure and cut text in UTF-16 code units: a character above U+FFFF
is two units, a high and a low surrogate. These functions give that view of a
text and build text back from units, joining surrogate pairs; a surrogate
left alone becomes U+FFFD.
-/

namespace Units

/-- The UTF-16 units of a character. -/
def ofChar (c : Char) : List Nat :=
  let n := c.toNat
  if n < 0x10000 then [n]
  else
    let v := n - 0x10000
    [0xD800 + v / 0x400, 0xDC00 + v % 0x400]

/-- The UTF-16 units of a text. -/
def ofString (s : String) : Array Nat :=
  s.toList.foldl (fun acc c => acc ++ (ofChar c).toArray) #[]

/-- The number of UTF-16 units of a text. -/
def length (s : String) : Nat :=
  s.toList.foldl (fun n c => n + (if c.toNat < 0x10000 then 1 else 2)) 0

/-- Text from UTF-16 units. -/
def toString (us : List Nat) : String :=
  String.ofList (go us)
where
  go : List Nat → List Char
    | [] => []
    | hi :: lo :: rest =>
      if 0xD800 ≤ hi && hi < 0xDC00 && 0xDC00 ≤ lo && lo < 0xE000 then
        Char.ofNat (0x10000 + (hi - 0xD800) * 0x400 + (lo - 0xDC00)) :: go rest
      else one hi :: go (lo :: rest)
    | [u] => [one u]
  /-- A single unit as a character. -/
  one (u : Nat) : Char := if 0xD800 ≤ u && u < 0xE000 then Char.ofNat 0xFFFD else Char.ofNat u

/-- The units of a text from `i` up to `j`. -/
def slice (s : String) (i j : Nat) : String :=
  toString ((ofString s).extract i j).toList

/-- Compares lists of units in dictionary order. -/
def compareList : List Nat → List Nat → Ordering
  | [], [] => .eq
  | [], _ :: _ => .lt
  | _ :: _, [] => .gt
  | a :: as, b :: bs => if a < b then .lt else if b < a then .gt else compareList as bs

/-- Compares texts unit by unit. -/
def compare (a b : String) : Ordering :=
  compareList (ofString a).toList (ofString b).toList

end Units

end Userland
