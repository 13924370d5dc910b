import Userland.Codec.Inflate
import Userland.Codec.Checksum

namespace Userland

/-! # Zstandard frames

A zstd file is a run of frames. A frame is the magic `28 b5 2f fd`, a header
(descriptor byte, window size unless the frame is a single segment,
dictionary id and content size of the sizes the descriptor names), blocks,
and a checksum when the descriptor asks for one: the low 32 bits of the
frame's xxHash-64. Skippable frames (magic `5? 2a 4d 18` and a length) are
passed over.

Blocks here are raw (bytes as they are) or run-length (one byte repeated);
a block has a three-byte header with its last-block bit, type and size.

Reading follows the stream decoder's way with short input: the end of input
where a frame or a header field begins ends the stream quietly, while input
that ends part way through a field is an unexpected end.
-/

namespace Codec

/-- The largest block. -/
def maxBlockSize : Nat := 128 * 1024

/-- The largest window accepted. -/
def maxWindow : Nat := Nat.pow 2 29

/-- What reading a small field found: the bytes, nothing at all, or part of them. -/
inductive Field where
  | bytes (bs : List Nat)
  | nothing
  deriving Inhabited

/-- Reads `n` bytes at `p`: nothing when none are left, an unexpected end when only some are. -/
def smallField (data : ByteArray) (p n : Nat) : Except DecodeError Field :=
  if p ≥ data.size then .ok .nothing
  else if p + n > data.size then .error .truncated
  else .ok (.bytes ((List.range n).map fun i => (data.data.getD (p + i) 0).toNat))

/-- The little-endian value of bytes. -/
def littleValue (bs : List Nat) : Nat := bs.foldr (fun b acc => acc * 256 + b) 0

/-- Decodes the blocks of a frame at `p`: the frame's bytes, where they end,
and whether the input ended quietly first. -/
def frameBlocks (data : ByteArray) (window : Nat) : Nat → Nat → ByteArray → Except DecodeError (ByteArray × Nat × Bool)
  | 0, p, out => .ok (out, p, true)
  | fuel + 1, p, out => do
    match ← smallField data p 3 with
    | .nothing => return (out, p, true)
    | .bytes hdr =>
      let h := littleValue hdr
      let last := h % 2 == 1
      let kind := (h / 2) % 4
      let size := h / 8
      let p := p + 3
      if kind == 3 then throw (.message "invalid input: reserved block type encountered")
      if kind == 2 then throw (.message "invalid input: compressed block")
      if size > maxBlockSize || size > window then throw (.message "window size exceeded")
      let (out, p) ← if kind == 0 then do
          if p + size > data.size then throw DecodeError.truncated
          pure (out ++ data.extract p (p + size), p + size)
        else do
          if p + 1 > data.size then throw DecodeError.truncated
          let b := data.data.getD p 0
          pure ((List.range size).foldl (fun o _ => o.push b) out, p + 1)
      if last then return (out, p, false) else frameBlocks data window fuel p out

/-- Decodes the frames from `p` on, appending to `out`. -/
def frames (data : ByteArray) : Nat → Nat → ByteArray → Except DecodeError ByteArray
  | 0, _, out => .ok out
  | fuel + 1, p, out => do
    match ← smallField data p 1 with
    | .nothing => return out
    | .bytes first =>
      match ← smallField data (p + 1) 3 with
      | .nothing => return out
      | .bytes rest =>
        let sig := first ++ rest
        if rest == [0x2a, 0x4d, 0x18] && (first.headD 0) / 16 == 5 then
          match ← smallField data (p + 4) 4 with
          | .nothing => return out
          | .bytes len =>
            let n := littleValue len
            if p + 8 + n > data.size then throw .truncated
            frames data fuel (p + 8 + n) out
        else if sig != [0x28, 0xb5, 0x2f, 0xfd] then throw (.message "invalid input: magic number mismatch")
        else
          let q := p + 4
          if q ≥ data.size then throw .truncated
          let fhd := (data.data.getD q 0).toNat
          let q := q + 1
          let single := fhd &&& 32 != 0
          if fhd &&& 8 != 0 then throw (.message "reserved bit set on frame header")
          let (window, q) ← if single then pure (0, q) else do
              if q ≥ data.size then throw DecodeError.truncated
              let wd := (data.data.getD q 0).toNat
              let base := Nat.pow 2 (10 + wd / 8)
              pure (base + (base / 8) * (wd % 8), q + 1)
          let dictSize := match fhd % 4 with
            | 3 => 4
            | s => s
          let dict ← if dictSize == 0 then pure (some 0) else do
              match ← smallField data q dictSize with
              | .nothing => pure none
              | .bytes bs => pure (some (littleValue bs))
          match dict with
          | none => return out
          | some dictId =>
          let q := q + dictSize
          let fcsSize := match fhd / 64 with
            | 0 => if single then 1 else 0
            | v => Nat.pow 2 v
          let fcs ← if fcsSize == 0 then pure (some none) else do
              match ← smallField data q fcsSize with
              | .nothing => pure none
              | .bytes bs => pure (some (some (littleValue bs + if fcsSize == 2 then 256 else 0)))
          match fcs with
          | none => return out
          | some size =>
          let q := q + fcsSize
          let checksum := fhd &&& 4 != 0
          if window > maxWindow then throw (.message "window size exceeded")
          let window := if window == 0 && single then max (size.getD 0) 1024 else window
          if window < 1024 then throw (.message "invalid input: window size was too small")
          if dictId != 0 then throw (.message "unknown dictionary")
          let (body, q, quiet) ← frameBlocks data window (data.size + 1) q ByteArray.empty
          let out := out ++ body
          if quiet then return out
          match size with
          | some n => if n != body.size then throw (.message "frame size does not match size on stream")
          | none => pure ()
          if checksum then
            match ← smallField data q 4 with
            | .nothing => return out
            | .bytes bs =>
              if littleValue bs != (xxHash64 body).toNat % Nat.pow 2 32 then throw (.message "CRC check failed")
              frames data fuel (q + 4) out
          else frames data fuel q out

/-- Decompresses the frames from `start` on. -/
def unzstd (data : ByteArray) (start : Nat) : Except DecodeError ByteArray :=
  frames data (data.size + 1) start ByteArray.empty

end Codec

end Userland
