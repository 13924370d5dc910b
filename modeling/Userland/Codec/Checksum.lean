namespace Userland

/-! # Checksums

CRC-32 in its IEEE form (reflected, polynomial `0xEDB88320`, starting from and
finishing with all bits inverted), as gzip members carry it, and the 64-bit
xxHash with seed 0, whose low 32 bits zstd frames carry.
-/

namespace Codec

/-- One byte folded into a CRC-32 register, bit by bit. -/
def crcByte (crc : UInt32) (b : UInt8) : UInt32 :=
  (List.range 8).foldl (fun c _ => if c &&& 1 == 1 then (c >>> 1) ^^^ 0xEDB88320 else c >>> 1)
    (crc ^^^ b.toUInt32)

/-- The table of every byte's CRC-32 step. -/
def crcTable : Array UInt32 := (Array.range 256).map fun i => crcByte 0 i.toUInt8

/-- A CRC-32 carried on over more bytes. -/
def crc32Update (crc : UInt32) (bs : ByteArray) : UInt32 :=
  let c := bs.foldl (fun c b => (crcTable.getD ((c ^^^ b.toUInt32) &&& 0xFF).toNat 0) ^^^ (c >>> 8))
    (crc ^^^ 0xFFFFFFFF)
  c ^^^ 0xFFFFFFFF

/-- The CRC-32 of bytes. -/
def crc32 (bs : ByteArray) : UInt32 := crc32Update 0 bs

/-- The primes of xxHash-64. -/
def prime1 : UInt64 := 11400714785074694791
/-- The second prime of xxHash-64. -/
def prime2 : UInt64 := 14029467366897019727
/-- The third prime of xxHash-64. -/
def prime3 : UInt64 := 1609587929392839161
/-- The fourth prime of xxHash-64. -/
def prime4 : UInt64 := 9650029242287828579
/-- The fifth prime of xxHash-64. -/
def prime5 : UInt64 := 2870177450012600261

/-- Rotates a word left. -/
def rotl (x : UInt64) (r : UInt64) : UInt64 := (x <<< r) ||| (x >>> (64 - r))

/-- The little-endian word of `n` bytes at an offset. -/
def littleEndian (bs : ByteArray) (at_ n : Nat) : UInt64 :=
  (List.range n).foldr (fun i acc => (acc <<< 8) ||| (bs.data.getD (at_ + i) 0).toUInt64) 0

/-- One lane step of xxHash-64. -/
def xxRound (acc input : UInt64) : UInt64 := rotl (acc + input * prime2) 31 * prime1

/-- Folds a lane into the hash. -/
def xxMerge (acc v : UInt64) : UInt64 := (acc ^^^ xxRound 0 v) * prime1 + prime4

/-- The 64-bit xxHash of bytes, with seed 0. -/
def xxHash64 (bs : ByteArray) : UInt64 :=
  let len := bs.size
  let stripes := len / 32
  let (h, offset) :=
    if len ≥ 32 then
      let init : UInt64 × UInt64 × UInt64 × UInt64 := (prime1 + prime2, prime2, 0, 0 - prime1)
      let (v1, v2, v3, v4) := (List.range stripes).foldl (fun (v1, v2, v3, v4) s =>
        let p := s * 32
        (xxRound v1 (littleEndian bs p 8), xxRound v2 (littleEndian bs (p + 8) 8),
         xxRound v3 (littleEndian bs (p + 16) 8), xxRound v4 (littleEndian bs (p + 24) 8))) init
      let h := rotl v1 1 + rotl v2 7 + rotl v3 12 + rotl v4 18
      let h := xxMerge (xxMerge (xxMerge (xxMerge h v1) v2) v3) v4
      (h, stripes * 32)
    else (prime5, 0)
  let h := h + len.toUInt64
  let rest := len - offset
  let words := rest / 8
  let h := (List.range words).foldl (fun h i =>
    rotl (h ^^^ xxRound 0 (littleEndian bs (offset + 8 * i) 8)) 27 * prime1 + prime4) h
  let offset := offset + 8 * words
  let (h, offset) :=
    if len - offset ≥ 4 then
      (rotl (h ^^^ littleEndian bs offset 4 * prime1) 23 * prime2 + prime3, offset + 4)
    else (h, offset)
  let h := (List.range (len - offset)).foldl (fun h i =>
    rotl (h ^^^ (bs.data.getD (offset + i) 0).toUInt64 * prime5) 11 * prime1) h
  let h := (h ^^^ (h >>> 33)) * prime2
  let h := (h ^^^ (h >>> 29)) * prime3
  h ^^^ (h >>> 32)

end Codec

end Userland
