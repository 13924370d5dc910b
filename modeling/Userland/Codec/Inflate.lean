namespace Userland

/-! # Inflating DEFLATE streams

A DEFLATE stream is a run of blocks, the last one marked. A block is stored
(a byte count and that many bytes), or compressed with fixed or with
transmitted Huffman codes into literals, lengths and distances back into what
was already produced.

Bits are read from the least significant end of each byte, Huffman codes one
bit at a time from their most significant bit. A code table is accepted when it
is complete, when it has no codes at all, or when it is a single code of one
bit.

Running out of input is an unexpected end; anything else malformed is corrupt
input, reported with the number of input bytes taken so far.
-/

namespace Codec

/-- Why decoding failed. -/
inductive DecodeError where
  /-- The input ended in the middle. -/
  | truncated
  /-- The input is malformed, noticed after taking this many bytes. -/
  | corrupt (offset : Nat)
  /-- The input ended where more was expected, before anything began. -/
  | ended
  /-- Any other failure, with its text. -/
  | message (text : String)
  deriving DecidableEq, Repr, Inhabited

/-- The text of a decoding error. -/
def DecodeError.text : DecodeError → String
  | .truncated => "unexpected EOF"
  | .corrupt n => "flate: corrupt input before offset " ++ toString n
  | .ended => "EOF"
  | .message t => t

/-- A position in bytes, counted in bits. -/
structure BitReader where
  data : ByteArray
  pos : Nat

namespace BitReader

/-- How many input bytes have been taken. -/
def taken (r : BitReader) : Nat := (r.pos + 7) / 8

/-- The next bit. -/
def bit (r : BitReader) : Except DecodeError (Nat × BitReader) :=
  if r.pos < 8 * r.data.size then
    let b := (r.data.data.getD (r.pos / 8) 0).toNat
    .ok ((b >>> (r.pos % 8)) % 2, { r with pos := r.pos + 1 })
  else .error .truncated

/-- The next `n` bits as a number, the first bit lowest. -/
def bits (r : BitReader) (n : Nat) : Except DecodeError (Nat × BitReader) :=
  if r.pos + n ≤ 8 * r.data.size then
    let v := (List.range n).foldl (fun acc i =>
      let p := r.pos + i
      let b := (r.data.data.getD (p / 8) 0).toNat
      acc + ((b >>> (p % 8)) % 2) * Nat.pow 2 i) 0
    .ok (v, { r with pos := r.pos + n })
  else .error .truncated

/-- Skips to the next byte boundary. -/
def align (r : BitReader) : BitReader := { r with pos := r.taken * 8 }

/-- The whole bytes from the current byte boundary. -/
def byteAt (r : BitReader) (i : Nat) : Nat := (r.data.data.getD i 0).toNat

end BitReader

/-- A canonical Huffman code: how many codes each length from 1 to 15 has,
and the symbols in code order. -/
structure Huffman where
  counts : Array Nat
  symbols : Array Nat
  longest : Nat

namespace Huffman

/-- The code for some code lengths (zero for an unused symbol), when acceptable. -/
def build (lengths : List Nat) : Option Huffman :=
  let counts := (List.range 16).toArray.map fun l => if l = 0 then 0 else (lengths.filter (· == l)).length
  let longest := (lengths.foldl max 0)
  let symbols := ((List.range 16).flatMap fun l =>
    if l = 0 then [] else (lengths.zipIdx.filter (·.1 == l)).map (·.2)).toArray
  -- the number of codes the lengths would need at the longest length
  let used := (List.range (longest + 1)).foldl (fun acc l => acc + counts.getD l 0 * Nat.pow 2 (longest - l)) 0
  let total := lengths.filter (· != 0) |>.length
  if longest = 0 then some ⟨counts, symbols, 0⟩
  else if used = Nat.pow 2 longest || (total = 1 && longest = 1) then some ⟨counts, symbols, longest⟩
  else none

/-- Decodes one symbol. -/
def decode (h : Huffman) (r : BitReader) : Except DecodeError (Nat × BitReader) :=
  let rec go : Nat → Nat → Nat → Nat → Nat → BitReader → Except DecodeError (Nat × BitReader)
    | 0, _, _, _, _, r => .error (.corrupt r.taken)
    | fuel + 1, len, code, first, index, r => do
      if len > h.longest then throw (.corrupt r.taken)
      let (b, r) ← r.bit
      let code := code + b
      let count := h.counts.getD len 0
      if code < first + count then return (h.symbols.getD (index + (code - first)) 0, r)
      else go fuel (len + 1) (code * 2) ((first + count) * 2) (index + count) r
  go 16 1 0 0 0 r

end Huffman

/-- The base lengths of length symbols 257 to 285. -/
def lengthBase : Array Nat :=
  #[3, 4, 5, 6, 7, 8, 9, 10, 11, 13, 15, 17, 19, 23, 27, 31, 35, 43, 51, 59, 67, 83, 99, 115, 131,
    163, 195, 227, 258]

/-- The extra bits of length symbols 257 to 285. -/
def lengthExtra : Array Nat :=
  #[0, 0, 0, 0, 0, 0, 0, 0, 1, 1, 1, 1, 2, 2, 2, 2, 3, 3, 3, 3, 4, 4, 4, 4, 5, 5, 5, 5, 0]

/-- The base distances of distance symbols 0 to 29. -/
def distanceBase : Array Nat :=
  #[1, 2, 3, 4, 5, 7, 9, 13, 17, 25, 33, 49, 65, 97, 129, 193, 257, 385, 513, 769, 1025, 1537, 2049,
    3073, 4097, 6145, 8193, 12289, 16385, 24577]

/-- The extra bits of distance symbols 0 to 29. -/
def distanceExtra : Array Nat :=
  #[0, 0, 0, 0, 1, 1, 2, 2, 3, 3, 4, 4, 5, 5, 6, 6, 7, 7, 8, 8, 9, 9, 10, 10, 11, 11, 12, 12, 13, 13]

/-- The fixed literal and length code. -/
def fixedLiterals : Huffman :=
  (Huffman.build ((List.range 288).map fun s =>
    if s < 144 then 8 else if s < 256 then 9 else if s < 280 then 7 else 8)).getD ⟨#[], #[], 0⟩

/-- The fixed distance code: five bits for each of 32 symbols. -/
def fixedDistances : Huffman := (Huffman.build (List.replicate 32 5)).getD ⟨#[], #[], 0⟩

/-- Copies `len` bytes from `dist` back, one at a time so that copies may overlap. -/
def copyBack (out : ByteArray) (dist len : Nat) : ByteArray :=
  (List.range len).foldl (fun o _ => o.push (o.data.getD (o.size - dist) 0)) out

/-- Decodes the symbols of a compressed block until its end. -/
def decodeBlock (lit dist : Huffman) : Nat → BitReader → ByteArray → Except DecodeError (BitReader × ByteArray)
  | 0, r, _ => .error (.corrupt r.taken)
  | fuel + 1, r, out => do
    let (sym, r) ← lit.decode r
    if sym < 256 then decodeBlock lit dist fuel r (out.push sym.toUInt8)
    else if sym = 256 then return (r, out)
    else if sym < 286 then
      let i := sym - 257
      let (extra, r) ← r.bits (lengthExtra.getD i 0)
      let len := lengthBase.getD i 0 + extra
      let (dsym, r) ← dist.decode r
      if dsym ≥ 30 then throw (.corrupt r.taken)
      let (dextra, r) ← r.bits (distanceExtra.getD dsym 0)
      let d := distanceBase.getD dsym 0 + dextra
      if d > out.size then throw (.corrupt r.taken)
      decodeBlock lit dist fuel r (copyBack out d len)
    else throw (.corrupt r.taken)

/-- The order code length code lengths are sent in. -/
def codeLengthOrder : List Nat := [16, 17, 18, 0, 8, 7, 9, 6, 10, 5, 11, 4, 12, 3, 13, 2, 14, 1, 15]

/-- Reads `n` code lengths with the code length code. -/
def readLengths (h : Huffman) (n : Nat) : Nat → BitReader → Array Nat → Except DecodeError (BitReader × Array Nat)
  | 0, r, acc => .ok (r, acc)
  | fuel + 1, r, acc => do
    if acc.size ≥ n then return (r, acc)
    let (sym, r) ← h.decode r
    if sym < 16 then readLengths h n fuel r (acc.push sym)
    else
      let (rep, r, value) ← match sym with
        | 16 => do
          if acc.isEmpty then throw (DecodeError.corrupt r.taken)
          let (x, r) ← r.bits 2
          pure (3 + x, r, acc.back?.getD 0)
        | 17 => do
          let (x, r) ← r.bits 3
          pure (3 + x, r, 0)
        | _ => do
          let (x, r) ← r.bits 7
          pure (11 + x, r, 0)
      if acc.size + rep > n then throw (.corrupt r.taken)
      readLengths h n fuel r (acc ++ Array.replicate rep value)

/-- Reads the codes of a block with transmitted codes. -/
def readCodes (r : BitReader) : Except DecodeError (Huffman × Huffman × BitReader) := do
  let (header, r) ← r.bits 14
  let nlit := header % 32 + 257
  let ndist := (header / 32) % 32 + 1
  let nclen := header / 1024 + 4
  if nlit > 286 then throw (.corrupt r.taken)
  if ndist > 30 then throw (.corrupt r.taken)
  let (clens, r) ← (List.range nclen).foldlM (fun (acc : List (Nat × Nat) × BitReader) i => do
    let (v, r) ← acc.2.bits 3
    pure (acc.1 ++ [(codeLengthOrder.getD i 0, v)], r)) ([], r)
  let lengths := (List.range 19).map fun s => ((clens.find? (·.1 == s)).map (·.2)).getD 0
  let some h1 := Huffman.build lengths | throw (.corrupt r.taken)
  let (r, all) ← readLengths h1 (nlit + ndist) (nlit + ndist + 1) r #[]
  let all := all.toList
  match Huffman.build (all.take nlit), Huffman.build (all.drop nlit) with
  | some lit, some dist => return (lit, dist, r)
  | _, _ => throw (.corrupt r.taken)

/-- Inflates the stream starting at a byte offset: what it holds and the
offset of the first byte after it. -/
def inflate (data : ByteArray) (start : Nat) : Except DecodeError (ByteArray × Nat) :=
  let rec blocks : Nat → BitReader → ByteArray → Except DecodeError (ByteArray × Nat)
    | 0, r, _ => .error (.corrupt r.taken)
    | fuel + 1, r, out => do
      let (final, r) ← r.bit
      let (kind, r) ← r.bits 2
      let (r, out) ← match kind with
        | 0 => do
          let r := r.align
          let p := r.pos / 8
          if p + 4 > data.size then throw DecodeError.truncated
          let len := r.byteAt p + 256 * r.byteAt (p + 1)
          let nlen := r.byteAt (p + 2) + 256 * r.byteAt (p + 3)
          if nlen != 65535 - len then throw (DecodeError.corrupt (p + 4))
          if p + 4 + len > data.size then throw DecodeError.truncated
          pure ({ r with pos := (p + 4 + len) * 8 }, out ++ data.extract (p + 4) (p + 4 + len))
        | 1 => decodeBlock fixedLiterals fixedDistances (8 * data.size + 1) r out
        | 2 => do
          let (lit, dist, r) ← readCodes r
          decodeBlock lit dist (8 * data.size + 1) r out
        | _ => throw (DecodeError.corrupt r.taken)
      if final = 1 then return (out, r.taken) else blocks fuel r out
  blocks (8 * data.size + 1) ⟨data, 8 * start⟩ ByteArray.empty

end Codec

end Userland
