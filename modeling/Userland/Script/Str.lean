namespace Userland

/-! # Script strings

A script's string is a sequence of UTF-16 code units. It is kept as a Lean
`String` whose characters are the code points the units spell: a pair of a
high and a low surrogate is the one character above U+FFFF it encodes, and a
surrogate that is not half of such a pair (a lone surrogate) is stored as a
character of the last private-use block, `U+10F800 + (u - 0xD800)`, which has
room for exactly the 2048 surrogates.

The form is canonical when no stored high surrogate stands right before a
stored low one: those two units are a pair and must be the character they
spell. Every operation here keeps the form canonical, so that two strings
are equal exactly when their units are; `append` mends the one place where
joining two canonical strings can break the rule, their junction.

Positions and lengths count units, as scripts do. Where text leaves the
script (output, file contents, the supervisor), a lone surrogate becomes
U+FFFD.
-/

namespace Script

/-- A script string: UTF-16 units kept as code points, lone surrogates stored
in the last private-use block. -/
structure Str where
  text : String
  deriving BEq, Hashable, Inhabited, Repr

namespace Str

/-- Where stored lone surrogates start. -/
def loneBase : Nat := 0x10F800

/-- Whether a stored character is a lone surrogate. -/
def isLone (c : Char) : Bool := c.toNat ≥ loneBase

/-- Whether a stored character is a lone high surrogate. -/
def isLoneHigh (c : Char) : Bool := loneBase ≤ c.toNat && c.toNat < loneBase + 0x400

/-- Whether a stored character is a lone low surrogate. -/
def isLoneLow (c : Char) : Bool := c.toNat ≥ loneBase + 0x400

/-- The stored form of a lone surrogate unit. -/
def loneChar (u : Nat) : Char := Char.ofNat (loneBase + (u - 0xD800))

/-- Whether a unit is a high surrogate. -/
def isHigh (u : Nat) : Bool := 0xD800 ≤ u && u < 0xDC00

/-- Whether a unit is a low surrogate. -/
def isLow (u : Nat) : Bool := 0xDC00 ≤ u && u < 0xE000

/-- The code point of a surrogate pair. -/
def pairPoint (hi lo : Nat) : Nat := 0x10000 + (hi - 0xD800) * 0x400 + (lo - 0xDC00)

/-- The units of a stored character. -/
def unitsOf (c : Char) : List Nat :=
  let n := c.toNat
  if n ≥ loneBase then [0xD800 + (n - loneBase)]
  else if n < 0x10000 then [n]
  else
    let v := n - 0x10000
    [0xD800 + v / 0x400, 0xDC00 + v % 0x400]

/-- The number of units of a stored character. -/
def unitCount (c : Char) : Nat := if c.toNat ≥ 0x10000 && c.toNat < loneBase then 2 else 1

/-- The stored character of one unit standing alone. -/
def charOfUnit (u : Nat) : Char :=
  if 0xD800 ≤ u && u < 0xE000 then loneChar u else Char.ofNat u

/-- The stored characters of units: pairs joined, lone surrogates kept. -/
def charsOfUnits : List Nat → List Char
  | [] => []
  | [u] => [charOfUnit u]
  | a :: b :: rest =>
    if isHigh a && isLow b then Char.ofNat (pairPoint a b) :: charsOfUnits rest
    else charOfUnit a :: charsOfUnits (b :: rest)

/-- The string of a list of units. -/
def ofUnitList (us : List Nat) : Str := ⟨String.ofList (charsOfUnits us)⟩

/-- The string of an array of units. -/
def ofUnits (us : Array Nat) : Str := ofUnitList us.toList

/-- The units of a string. -/
def units (s : Str) : Array Nat :=
  s.text.foldl (fun acc c => (unitsOf c).foldl Array.push acc) #[]

/-- The number of units of a string. -/
def length (s : Str) : Nat := s.text.foldl (fun n c => n + unitCount c) 0

/-- A text without lone surrogates as a string. -/
def ofString (s : String) : Str := ⟨s⟩

instance : Coe String Str := ⟨ofString⟩

/-- The empty string. -/
def empty : Str := ⟨""⟩

/-- Whether a string is empty. -/
def isEmpty (s : Str) : Bool := s.text.isEmpty

/-- Two strings one after the other; a lone high surrogate at the end of the
first and a lone low one at the start of the second become one character. -/
def append (a b : Str) : Str :=
  match a.text.back?, b.text.front? with
  | some h, some l =>
    if isLoneHigh h && isLoneLow l then
      let c := Char.ofNat (pairPoint (0xD800 + (h.toNat - loneBase)) (0xD800 + (l.toNat - loneBase)))
      ⟨(a.text.dropEnd 1).toString ++ String.singleton c ++ (b.text.drop 1).toString⟩
    else ⟨a.text ++ b.text⟩
  | _, _ => ⟨a.text ++ b.text⟩

instance : Append Str := ⟨append⟩

/-- The strings joined in order. -/
def concat (parts : List Str) : Str := parts.foldl append empty

/-- The strings joined with a separator between each two. -/
def join (sep : Str) : List Str → Str
  | [] => empty
  | p :: rest => rest.foldl (fun acc q => acc ++ sep ++ q) p

/-- The text that leaves the script: every lone surrogate becomes U+FFFD. -/
def lossy (s : Str) : String := s.text.map fun c => if isLone c then '�' else c

/-- The units from `i` up to `j`. -/
def slice (s : Str) (i j : Nat) : Str := ofUnits ((units s).extract i j)

/-- The unit at a place. -/
def unitAt? (s : Str) (i : Nat) : Option Nat := (units s)[i]?

/-- Whether `needle` occurs in `hay` at `i`. -/
def unitsAt (hay needle : Array Nat) (i : Nat) : Bool :=
  i + needle.size ≤ hay.size && (List.range needle.size).all fun k => hay[i + k]? == needle[k]?

/-- The first place at or after `start` where `pat` occurs, in units. -/
def indexOf (s pat : Str) (start : Nat) : Option Nat :=
  let hay := units s
  let needle := units pat
  if start + needle.size > hay.size then none
  else (List.range (hay.size - needle.size + 1 - start)).findSome? fun k =>
    if unitsAt hay needle (start + k) then some (start + k) else none

/-- The last place at or before `start` where `pat` occurs, in units. -/
def lastIndexOf (s pat : Str) (start : Nat) : Option Nat :=
  let hay := units s
  let needle := units pat
  if needle.size > hay.size then none
  else
    let top := min start (hay.size - needle.size)
    (List.range (top + 1)).reverse.findSome? fun i => if unitsAt hay needle i then some i else none

/-- Whether `pat` occurs in a string. -/
def contains (s pat : Str) : Bool := (indexOf s pat 0).isSome

/-- Order of strings: by code points, a lone surrogate counting as U+FFFD. -/
def compare (a b : Str) : Ordering := Ord.compare a.lossy b.lossy

end Str

end Script

end Userland
