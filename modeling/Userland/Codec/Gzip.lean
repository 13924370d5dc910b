import Userland.Codec.Inflate
import Userland.Codec.Checksum

namespace Userland

/-! # Gzip

A gzip file is one or more members. A member is a ten-byte header (magic
`1f 8b`, method 8, flags, time, extra flags, system), optional fields the
flags announce (extra data, a name, a comment, a header checksum), a DEFLATE
stream, and a trailer with the CRC-32 and the length modulo 2³² of what the
stream holds.

A file with no bytes at all has no member, which is the end of input; after
a member, the end of the bytes is the end of the file. Ending inside a header,
stream or trailer is an unexpected end. A header with the wrong magic or a bad
header checksum is an invalid header, and a trailer that does not match is an
invalid checksum.
-/

namespace Codec

/-- The text of a bad header. -/
def invalidHeader : DecodeError := .message "gzip: invalid header"

/-- The text of a trailer that does not match. -/
def invalidChecksum : DecodeError := .message "gzip: invalid checksum"

/-- The position after a zero-terminated field at `p`, at most 511 bytes long. -/
def skipString (data : ByteArray) (p : Nat) : Except DecodeError Nat :=
  let rec go : Nat → Nat → Except DecodeError Nat
    | 0, _ => .error invalidHeader
    | fuel + 1, i =>
      if p + i ≥ data.size then .error .truncated
      else if data.data.getD (p + i) 0 == 0 then .ok (p + i + 1)
      else go fuel (i + 1)
  go 512 0

/-- Reads a member header at `p`: the position of its stream. -/
def readHeader (data : ByteArray) (p : Nat) : Except DecodeError Nat := do
  if p + 10 > data.size then throw .truncated
  let byte (i : Nat) : Nat := (data.data.getD i 0).toNat
  if byte p != 0x1f || byte (p + 1) != 0x8b || byte (p + 2) != 8 then throw invalidHeader
  let flags := byte (p + 3)
  let q := p + 10
  let q ← if flags &&& 4 != 0 then do
      if q + 2 > data.size then throw DecodeError.truncated
      let n := byte q + 256 * byte (q + 1)
      if q + 2 + n > data.size then throw DecodeError.truncated
      pure (q + 2 + n)
    else pure q
  let q ← if flags &&& 8 != 0 then skipString data q else pure q
  let q ← if flags &&& 16 != 0 then skipString data q else pure q
  if flags &&& 2 != 0 then
    if q + 2 > data.size then throw .truncated
    let want := byte q + 256 * byte (q + 1)
    if want != (crc32 (data.extract p q)).toNat % 65536 then throw invalidHeader
    return q + 2
  else return q

/-- The little-endian 32-bit number at `p`. -/
def word32 (data : ByteArray) (p : Nat) : Nat :=
  (List.range 4).foldr (fun i acc => acc * 256 + (data.data.getD (p + i) 0).toNat) 0

/-- Decompresses the members from `start` on. -/
def gunzip (data : ByteArray) (start : Nat) : Except DecodeError ByteArray :=
  let rec members : Nat → Nat → ByteArray → Except DecodeError ByteArray
    | 0, _, out => .ok out
    | fuel + 1, p, out => do
      let q ← readHeader data p
      let (body, r) ← inflate data q
      if r + 8 > data.size then throw .truncated
      if word32 data r != (crc32 body).toNat || word32 data (r + 4) != body.size % 2 ^ 32 then
        throw invalidChecksum
      let out := out ++ body
      if r + 8 ≥ data.size then return out else members fuel (r + 8) out
  if start ≥ data.size then .error .ended
  else members (data.size + 1) start ByteArray.empty

end Codec

end Userland
