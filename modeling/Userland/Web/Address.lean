namespace Userland

/-! # Network addresses

Internet addresses as sixteen bytes, IPv4 ones mapped into the IPv6 space,
read from their usual text and written back in canonical form: dotted quads
for IPv4 addresses, and for the others lowercase hexadecimal groups with the
longest run of two or more zero groups (the first of equal runs) written
`::`.

IPv4 text is exactly four decimal fields from 0 to 255 without leading
zeros. IPv6 text is up to eight groups of one to four hex digits, one `::`
standing for at least one zero group, and possibly a dotted quad in place of
the last two groups. A zone (`%eth0`) is read but makes the text no plain
address.

A host and port pair is split at its last colon; a host holding colons must
be in brackets.
-/

namespace Web

/-- An address: sixteen bytes, IPv4 addresses as `::ffff:a.b.c.d`. -/
structure Ip where
  bytes : List Nat
  deriving DecidableEq, Repr, Inhabited

/-- The value of a decimal digit. -/
def decimalDigit? (c : Char) : Option Nat :=
  if c.isDigit then some (c.toNat - '0'.toNat) else none

/-- The value of a hexadecimal digit in either case. -/
def hexDigit? (c : Char) : Option Nat :=
  if c.isDigit then some (c.toNat - '0'.toNat)
  else if 'a' ≤ c && c ≤ 'f' then some (c.toNat - 'a'.toNat + 10)
  else if 'A' ≤ c && c ≤ 'F' then some (c.toNat - 'A'.toNat + 10)
  else none

/-- One field of a dotted quad: digits, no leading zero, at most 255. -/
def quadField? (cs : List Char) : Option Nat := do
  if cs.isEmpty then none
  if cs.length > 1 && cs.head? == some '0' then none
  let v ← cs.foldlM (fun acc c => do
    let d ← decimalDigit? c
    let v := acc * 10 + d
    if v > 255 then none else some v) 0
  return v

/-- The four bytes of a dotted quad. -/
def quad? (cs : List Char) : Option (List Nat) := do
  let fields := cs.splitOn '.'
  if fields.length != 4 then none
  fields.mapM quadField?

/-- A group of one to four hex digits. -/
def hexGroup? (cs : List Char) : Option Nat := do
  if cs.isEmpty || cs.length > 4 then none
  cs.foldlM (fun acc c => do return acc * 16 + (← hexDigit? c)) 0

/-- The bytes of colon-separated groups, the last possibly a dotted quad. -/
def groupBytes? (groups : List (List Char)) (quadAllowed : Bool) : Option (List Nat) :=
  match groups.reverse with
  | [] => some []
  | last :: before => do
    let tail ← if quadAllowed && last.contains '.' then quad? last
      else (hexGroup? last).map fun g => [g / 256, g % 256]
    let front ← before.reverse.mapM fun g => (hexGroup? g).map fun v => [v / 256, v % 256]
    return front.flatten ++ tail

/-- The sixteen bytes of IPv6 text without a zone. -/
def ipv6? (cs : List Char) : Option (List Nat) :=
  let text := String.ofList cs
  match text.splitOn "::" with
  | [whole] => do
    let bs ← groupBytes? ((whole.splitOn ":").map String.toList) true
    if bs.length == 16 then some bs else none
  | [front, back] => do
    let fs ← if front.isEmpty then some [] else groupBytes? ((front.splitOn ":").map String.toList) false
    let bs ← if back.isEmpty then some [] else groupBytes? ((back.splitOn ":").map String.toList) true
    if fs.length + bs.length ≥ 16 then none
    else some (fs ++ List.replicate (16 - fs.length - bs.length) 0 ++ bs)
  | _ => none

/-- Reads an address, the kind decided by the first dot, colon or percent
sign in the text; an address with a zone is not one. -/
def Ip.parse? (s : String) : Option Ip :=
  match s.toList.find? fun c => c = '.' || c = ':' || c = '%' with
  | some '.' => (quad? s.toList).map fun q => ⟨List.replicate 10 0 ++ [255, 255] ++ q⟩
  | some ':' => if s.toList.contains '%' then none else (ipv6? s.toList).map Ip.mk
  | _ => none

/-- Whether an address is an IPv4 one. -/
def Ip.isFour (ip : Ip) : Bool :=
  ip.bytes.take 12 == List.replicate 10 0 ++ [255, 255]

/-- A number in lowercase hexadecimal without leading zeros. -/
def hexText (n : Nat) : String :=
  String.ofList (Nat.toDigits 16 n)

/-- The longest run of two or more zero groups, first of equal runs, as its
start and end. -/
def zeroRun (groups : List Nat) : Option (Nat × Nat) :=
  let n := groups.length
  (List.range n).foldl (fun best i =>
    let len := ((groups.drop i).takeWhile (· == 0)).length
    let bestLen := match best with
      | some (a, b) => b - a
      | none => 1
    if len ≥ 2 && len > bestLen then some (i, i + len) else best) none

/-- The canonical text of an address. -/
def Ip.toText (ip : Ip) : String :=
  if ip.isFour then ".".intercalate ((ip.bytes.drop 12).map toString)
  else
    let groups := (List.range 8).map fun i => ip.bytes.getD (2 * i) 0 * 256 + ip.bytes.getD (2 * i + 1) 0
    let texts (gs : List Nat) := ":".intercalate (gs.map hexText)
    match zeroRun groups with
    | some (a, b) => texts (groups.take a) ++ "::" ++ texts (groups.drop b)
    | none => texts groups

/-- Splits `host:port`; a host with colons must be bracketed. -/
def splitHostPort? (s : String) : Option (String × String) :=
  let cs := s.toList
  let lastColon := (cs.length - 1) - (cs.reverse.findIdx (· = ':'))
  if !cs.contains ':' then none
  else if cs.head? == some '[' then
    match cs.findIdx? (· = ']') with
    | none => none
    | some close =>
      if close + 1 != lastColon then none
      else
        let host := (cs.drop 1).take (close - 1)
        if (cs.drop 1).contains '[' || (cs.drop (close + 1)).contains ']' then none
        else some (String.ofList host, String.ofList (cs.drop (lastColon + 1)))
  else
    let host := cs.take lastColon
    if host.contains ':' || cs.contains '[' || cs.contains ']' then none
    else some (String.ofList host, String.ofList (cs.drop (lastColon + 1)))

/-- The client address a forwarding header names, when every address in its
comma-separated list reads: the first one, as written. -/
def forwardedClient? (value : String) : Option String :=
  if value.isEmpty then none
  else
    let items := (value.splitOn ",").map fun s => (s.toList.dropWhile Char.isWhitespace).reverse.dropWhile
      Char.isWhitespace |>.reverse
    if items.all fun i => (Ip.parse? (String.ofList i)).isSome then
      items.head?.map String.ofList
    else none

end Web

end Userland
