import Userland.Pipe.Ring

namespace Userland

/-! # Replies and their frames

A reply travels through a signal's ring as one frame: a kind byte, then for a
text reply the length as an unsigned base-128 number and the text's bytes, and
for any other kind the number in zig-zag form (0, -1, 1, -2, … become
0, 1, 2, 3, …) as an unsigned base-128 number.

Base-128 numbers put seven bits in each byte, lowest group first, with the top
bit set on every byte but the last. A reader takes at most ten bytes, and the
tenth may carry only one more bit.

A reader that meets a kind byte it does not know takes only that byte and
returns nothing.
-/

/-- A reply: a number under some kind byte, or a text. -/
inductive Reply where
  /-- A text reply (kind `s`). -/
  | text (bytes : List UInt8)
  /-- A number under a kind byte other than `s`: `n` for plain numbers, `e` for error codes. -/
  | tagged (kind : UInt8) (num : Int)
  deriving DecidableEq, Repr, Inhabited

namespace Reply

/-- The kind byte of plain numbers. -/
def kindNumber : UInt8 := 110
/-- The kind byte of error codes. -/
def kindErrno : UInt8 := 101
/-- The kind byte of texts. -/
def kindText : UInt8 := 115

/-- A plain number reply. -/
def number (n : Int) : Reply := .tagged kindNumber n
/-- An error code reply. -/
def errno (code : Int) : Reply := .tagged kindErrno code

/-- The reply a kind byte, number and text describe: the text for kind `s`, else the number. -/
def ofParts (kind : UInt8) (num : Int) (str : List UInt8) : Reply :=
  if kind = kindText then .text str else .tagged kind num

/-- The kind byte. -/
def kind : Reply → UInt8
  | .text _ => kindText
  | .tagged k _ => k

/-- The number carried, zero for a text. -/
def num : Reply → Int
  | .text _ => 0
  | .tagged _ n => n

/-- Whether the reply is an error code. -/
def isErr (r : Reply) : Bool := r.kind = kindErrno

end Reply

namespace Frame

/-- The base-128 bytes of a number, lowest seven bits first. -/
def uvarint (n : Nat) : List UInt8 :=
  if n < 128 then [n.toUInt8]
  else (n % 128 + 128).toUInt8 :: uvarint (n / 128)
termination_by n
decreasing_by omega

/-- The zig-zag form of a signed number: non-negative `n` is `2n`, negative `n` is `-2n-1`. -/
def zigzag (n : Int) : Nat :=
  if n ≥ 0 then 2 * n.toNat else 2 * (-n).toNat - 1

/-- The signed number of a zig-zag form. -/
def unzigzag (u : Nat) : Int :=
  if u % 2 = 0 then (u / 2 : Nat) else -((u / 2 : Nat) : Int) - 1

/-- The frame of a reply. -/
def encode : Reply → List UInt8
  | .text bs => Reply.kindText :: uvarint bs.length ++ bs
  | .tagged k n => k :: uvarint (zigzag n)

/-- Takes one byte from the ring, if one is there. -/
def takeByte (r : Ring) : Option (UInt8 × Ring) :=
  match r.readAvailable 1 with
  | ⟨[b], r', _⟩ => some (b, r')
  | _ => none

/-- Reads a base-128 number of at most ten bytes, given the bytes `i` read so far
and the value `x` they make. Fails when the ring runs dry or the number overflows
64 bits; the bytes read stay taken. -/
def readUvarint (r : Ring) (i x : Nat) : Option Nat × Ring :=
  if _h : i < 10 then
    match takeByte r with
    | none => (none, r)
    | some (b, r') =>
      if b < 128 then
        if i = 9 && b > 1 then (none, r') else (some (x + b.toNat * Nat.pow 128 i), r')
      else readUvarint r' (i + 1) (x + (b.toNat - 128) * Nat.pow 128 i)
  else (none, r)
termination_by 10 - i

/-- Reads the oldest frame. A frame of unknown kind, or one cut short, gives
nothing; what was read stays taken. -/
def decode (r : Ring) : Option Reply × Ring :=
  match takeByte r with
  | none => (none, r)
  | some (k, r') =>
    if k = Reply.kindNumber || k = Reply.kindErrno then
      match readUvarint r' 0 0 with
      | (some u, r'') => (some (.tagged k (unzigzag u)), r'')
      | (none, r'') => (none, r'')
    else if k = Reply.kindText then
      match readUvarint r' 0 0 with
      | (some size, r'') =>
        if size = 0 then (some (.text []), r'')
        else
          let g := r''.readAvailable size
          if g.data.length = size then (some (.text g.data), g.ring) else (none, g.ring)
      | (none, r'') => (none, r'')
    else (none, r')

end Frame

end Userland
