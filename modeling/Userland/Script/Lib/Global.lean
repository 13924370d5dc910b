import Userland.Script.Object

namespace Userland

/-! # Errors and the global functions

An error constructor makes an object of its kind's prototype, keeping its
first argument as `message` as it is and its options' `cause`. An error
prints as its name and message joined by a colon, or whichever of them is
not empty.

The global functions read numbers (`parseInt`, `parseFloat`), test them, and
escape text for URIs: `encodeURI` and its kin write each character outside
their set as the percent-escaped bytes of its UTF-8 form, failing on a lone
surrogate; the decoders read such escapes back, failing on any that do not
form a character.
-/

namespace Script

namespace Global

open Eval

/-- Makes an error of a kind from a constructor's arguments. -/
def construct (cb : Callbacks) (k : ErrorKind) (args : List Value) (newTarget : Option Value) : Eval Value := do
  let fallback ← errorProto k
  let proto ← match newTarget with
    | some (.obj r) =>
      match ← get cb r (keyOf "prototype") with
      | .obj p => pure p
      | _ => pure fallback
    | _ => pure fallback
  let r ← alloc (Obj.ofKind .error (some proto))
  let msg := arg args 0
  if !msg.isUndefined then
    let text ← toStr cb msg
    modifyObj r fun o => { o with props := o.props.insert (keyOf "message") (Property.hidden (.str text)) }
  match arg args 1 with
  | .obj opts =>
    if ← has cb opts (keyOf "cause") then
      let c ← get cb opts (keyOf "cause")
      modifyObj r fun o => { o with props := o.props.insert (keyOf "cause") (Property.hidden c) }
  | _ => pure ()
  return .obj r

/-- `Error.prototype.toString`. -/
def errorText (cb : Callbacks) (this : Value) : Eval Value := do
  match this with
  | .obj r =>
    let name ← match ← get cb r (keyOf "name") with
      | .undefined => pure (Str.ofString "Error")
      | v => toStr cb v
    let msg ← match ← get cb r (keyOf "message") with
      | .undefined => pure Str.empty
      | v => toStr cb v
    if name.isEmpty then return .str msg
    if msg.isEmpty then return .str name
    return .str (name ++ Str.ofString ": " ++ msg)
  | _ => throwType ("Value is not an object: " ++ (← toText cb this))

/-! ## URIs -/

/-- The characters every URI function leaves as they are. -/
def isUnreserved (c : Nat) : Bool :=
  (0x41 ≤ c && c ≤ 0x5A) || (0x61 ≤ c && c ≤ 0x7A) || (0x30 ≤ c && c ≤ 0x39) ||
    "-_.!~*'()".toList.any (·.toNat == c)

/-- The characters that have a meaning in a URI, which `encodeURI` and `decodeURI` keep. -/
def isReserved (c : Nat) : Bool := ";/?:@&=+$,#".toList.any (·.toNat == c)

/-- The upper-case hexadecimal digits. -/
def hexDigit (n : Nat) : Char := "0123456789ABCDEF".toList.getD n '0'

/-- A byte as a percent escape. -/
def percent (b : Nat) : List Nat := ['%'.toNat, (hexDigit (b / 16)).toNat, (hexDigit (b % 16)).toNat]

/-- The UTF-8 bytes of a code point. -/
def utf8Bytes (c : Nat) : List Nat :=
  if c < 0x80 then [c]
  else if c < 0x800 then [0xC0 + c / 64, 0x80 + c % 64]
  else if c < 0x10000 then [0xE0 + c / 4096, 0x80 + (c / 64) % 64, 0x80 + c % 64]
  else [0xF0 + c / 262144, 0x80 + (c / 4096) % 64, 0x80 + (c / 64) % 64, 0x80 + c % 64]

/-- Escapes text for a URI, keeping the unreserved characters and, unless for
a component, the reserved ones. -/
def encode (component : Bool) (s : Str) : Eval Str := do
  let us := s.units
  let mut out : Array Nat := #[]
  let mut i := 0
  for _ in [0:us.size] do
    if i ≥ us.size then break
    let u := us[i]!
    if u < 0x80 && (isUnreserved u || (!component && isReserved u)) then
      out := out.push u
      i := i + 1
    else if Str.isLow u then throwKind .uriError "Malformed URI"
    else if Str.isHigh u then
      match us[i + 1]? with
      | some lo =>
        if Str.isLow lo then
          out := out ++ ((utf8Bytes (Str.pairPoint u lo)).flatMap percent).toArray
          i := i + 2
        else throwKind .uriError "Malformed URI"
      | none => throwKind .uriError "Malformed URI"
    else
      out := out ++ ((utf8Bytes u).flatMap percent).toArray
      i := i + 1
  return Str.ofUnits out

/-- The value of two hexadecimal digits. -/
def hexPair (a b : Nat) : Option Nat := do
  let x ← hexValue (Char.ofNat a)
  let y ← hexValue (Char.ofNat b)
  return x * 16 + y

/-- The byte of a percent escape at a place of units. -/
def escapedByte (us : Array Nat) (i : Nat) : Option Nat :=
  if us[i]? == some '%'.toNat then
    match us[i + 1]?, us[i + 2]? with
    | some a, some b => hexPair a b
    | _, _ => none
  else none

/-- How many bytes a UTF-8 sequence starting with a byte has, and the bits it gives. -/
def leadBits (b : Nat) : Option (Nat × Nat) :=
  if b < 0x80 then some (1, b)
  else if b &&& 0xE0 == 0xC0 then some (2, b &&& 0x1F)
  else if b &&& 0xF0 == 0xE0 then some (3, b &&& 0x0F)
  else if b &&& 0xF8 == 0xF0 then some (4, b &&& 0x07)
  else none

/-- Reads percent escapes back, keeping the escapes of characters in the kept set. -/
def decode (component : Bool) (s : Str) : Eval Str := do
  let us := s.units
  let mut out : Array Nat := #[]
  let mut i := 0
  for _ in [0:us.size] do
    if i ≥ us.size then break
    let u := us[i]!
    if u != '%'.toNat then
      out := out.push u
      i := i + 1
      continue
    let some b := escapedByte us i | throwKind .uriError "Malformed URI"
    if b < 0x80 then
      if !component && isReserved b then out := out ++ (us.extract i (i + 3))
      else out := out.push b
      i := i + 3
      continue
    let some (n, bits) := leadBits b | throwKind .uriError "Malformed URI"
    if n < 2 then throwKind .uriError "Malformed URI"
    let mut c := bits
    for k in [1:n] do
      match escapedByte us (i + 3 * k) with
      | some x =>
        if x &&& 0xC0 != 0x80 then throwKind .uriError "Malformed URI"
        c := c * 64 + (x &&& 0x3F)
      | none => throwKind .uriError "Malformed URI"
    let least := if n == 2 then 0x80 else if n == 3 then 0x800 else 0x10000
    if c < least || c > 0x10FFFF || (0xD800 ≤ c && c < 0xE000) then throwKind .uriError "Malformed URI"
    if c ≥ 0x10000 then
      out := out.push (0xD800 + (c - 0x10000) / 0x400)
      out := out.push (0xDC00 + (c - 0x10000) % 0x400)
    else out := out.push c
    i := i + 3 * n
  return Str.ofUnits out

/-- The characters `escape` leaves as they are. -/
def escapeKeeps (c : Nat) : Bool :=
  (0x41 ≤ c && c ≤ 0x5A) || (0x61 ≤ c && c ≤ 0x7A) || (0x30 ≤ c && c ≤ 0x39) ||
    "@*_+-./".toList.any (·.toNat == c)

/-- `escape`: `%XX` for units below 256, `%uXXXX` for the others. -/
def escape (s : Str) : Str :=
  Str.ofUnits (s.units.foldl (fun out u =>
    if escapeKeeps u then out.push u
    else if u < 256 then out ++ (percent u).toArray
    else out ++ #['%'.toNat, 'u'.toNat, (hexDigit (u / 4096)).toNat, (hexDigit ((u / 256) % 16)).toNat,
      (hexDigit ((u / 16) % 16)).toNat, (hexDigit (u % 16)).toNat]) #[])

/-- `unescape`: reads `%XX` and `%uXXXX` back, leaving anything else. -/
def unescape (s : Str) : Str := Id.run do
  let us := s.units
  let mut out : Array Nat := #[]
  let mut i := 0
  for _ in [0:us.size] do
    if i ≥ us.size then break
    let u := us[i]!
    if u == '%'.toNat then
      if us[i + 1]? == some 'u'.toNat then
        match us[i + 2]?, us[i + 3]?, us[i + 4]?, us[i + 5]? with
        | some a, some b, some c, some d =>
          match hexPair a b, hexPair c d with
          | some x, some y =>
            out := out.push (x * 256 + y)
            i := i + 6
            continue
          | _, _ => pure ()
        | _, _, _, _ => pure ()
      else
        match escapedByte us i with
        | some x =>
          out := out.push x
          i := i + 3
          continue
        | none => pure ()
    out := out.push u
    i := i + 1
  return Str.ofUnits out

/-- Runs a global function. -/
def run (cb : Callbacks) (f : GlobalFn) (args : List Value) : Eval Value := do
  match f with
  | .parseInt =>
    let s ← toStr cb (arg args 0)
    let radix ← toInt32 cb (arg args 1)
    return .num (Number.parseInt s.lossy radix)
  | .parseFloat => return .num (Number.parseFloat (← toStr cb (arg args 0)).lossy)
  | .isNaN => return .bool (← toNumber cb (arg args 0)).isNaN
  | .isFinite =>
    let x ← toNumber cb (arg args 0)
    return .bool (!x.isNaN && !x.isInf)
  | .encodeURI => return .str (← encode false (← toStr cb (arg args 0)))
  | .encodeURIComponent => return .str (← encode true (← toStr cb (arg args 0)))
  | .decodeURI => return .str (← decode false (← toStr cb (arg args 0)))
  | .decodeURIComponent => return .str (← decode true (← toStr cb (arg args 0)))
  | .escape => return .str (escape (← toStr cb (arg args 0)))
  | .unescape => return .str (unescape (← toStr cb (arg args 0)))
  | .eval => return arg args 0
  | .throwTypeError =>
    throwType "'caller', 'callee', and 'arguments' properties may not be accessed on strict mode functions or the arguments objects for calls to them"
  | .missing name => throwType (name ++ " is not supported")

end Global

end Script

end Userland
