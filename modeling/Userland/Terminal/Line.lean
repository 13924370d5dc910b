namespace Userland

/-! # The line discipline

A terminal in its usual cooked mode stands between what a client types and
what a process reads, and between what a process prints and what the client
sees.

Typed bytes are collected into a line that can be edited, and a process reads
only completed lines, at most one at a time. A carriage return is taken as a
line feed. Every typed byte is echoed; control bytes (below 32, DEL, and 128
to 159) are echoed as `^` and the byte with bit 6 flipped (`^C`), except the
tab. The special bytes are:

* DEL erases the last byte, `^U` the whole line and `^W` the last word,
  each erased byte echoed as `\b \b` (twice for a control byte shown as two
  characters, and for a tab as many backspaces as the tab took);
* `^V` takes the next byte as it is;
* `^R` echoes the line again on a new line;
* `^D` completes the line without a line feed, and is not echoed; on an
  empty line a read then returns nothing, which is the end of input;
* `^C`, `^\` and `^Z` throw away everything typed and not yet read, and
  every echo not yet written, and echo themselves;
* `^S` holds the echoes and `^Q` lets them go.

Printed bytes and echoes pass through output processing: a line feed
becomes carriage return and line feed. The discipline tracks the output
column, and the column where the line being typed started, which erasing a
tab needs.

## Buffers

Typed bytes wait in input buffers until the discipline takes them in. A
client's write is cut into pieces of at most 2048 bytes, and each piece into
parts of at most 1792 bytes; a part goes into the last input buffer when it
fits, else into a new buffer twice the part's size rounded up to 256. The
bytes of one buffer are taken in together.

The discipline holds 4096 bytes of input. While a completed line waits to be
read, bytes beyond that wait in their buffers until a read makes room. With no
completed line, a full line keeps taking bytes one at a time, each replacing
the line's last byte, so that erasing still works. Flow control bytes in
waiting buffers take effect as soon as the discipline looks ahead at them,
and not again when they are taken in.

Echoes go into an echo buffer of 4096 slots, written round, which is written
out when at least 256 bytes have gathered (and then at every further 256),
when a batch of typed bytes has been taken in, when output is let go, and
before a process prints. Writing out reads the slots round from the last
byte written out, so an echo buffer overrun by one long erase writes out what
its slots hold; after writing out, echoes more than 3808 bytes behind the
newest are dropped.
-/

namespace Terminal

/-- The size of the input buffer, and the number of slots of the echo buffer. -/
def bufferSize : Nat := 4096

/-- Whether a byte is a control byte: below 32, DEL, or from 128 to 159. -/
def isControl (c : UInt8) : Bool := c < 32 || (127 ≤ c && c < 160)

/-- Whether a byte is a letter, digit or underscore in the Latin-1 sense. -/
def isWordByte (c : UInt8) : Bool :=
  (48 ≤ c && c ≤ 57) || (65 ≤ c && c ≤ 90) || (97 ≤ c && c ≤ 122) ||
  (192 ≤ c && c != 215 && c != 247) || c == 95

/-- The byte that starts an operation in the echo buffer; the byte after it
names the operation, or is a control byte to show as two characters. -/
def opStart : UInt8 := 0xFF

/-- The operation that moves the column back by one. -/
def opMoveBack : UInt8 := 0x80

/-- The operation that records the column where the line being typed starts. -/
def opLineColumn : UInt8 := 0x81

/-- The operation that backs up over a tab; the byte after it holds the
columns the bytes before the tab took, modulo 8, with bit 7 set when a tab
came before them in the line. -/
def opEraseTab : UInt8 := 0x82

/-- How far behind the newest echo an echo may be once written out. -/
def discardMark : Nat := bufferSize - (256 + 32)

/-- A completed line waiting to be read. -/
structure Line where
  bytes : List UInt8
  /-- Whether it was completed by `^D`. -/
  endOfFile : Bool
  deriving Inhabited, Repr

/-- The bytes a line takes in the input buffer, the mark of `^D` counted. -/
def Line.size (l : Line) : Nat := l.bytes.length + (if l.endOfFile then 1 else 0)

/-- The echo buffer: slots written round, and the count of bytes ever
written (`head`), written when echoes were last offered for writing out
(`mark`), committed for writing out (`commit`), and written out (`tail`). -/
structure EchoBuffer where
  slots : Array UInt8
  head : Nat
  mark : Nat
  commit : Nat
  tail : Nat
  deriving Inhabited, Repr

namespace EchoBuffer

/-- An empty echo buffer. -/
def empty : EchoBuffer := ⟨Array.replicate bufferSize 0, 0, 0, 0, 0⟩

/-- The slot that byte number `i` is written to, as it holds now. -/
def slot (e : EchoBuffer) (i : Nat) : UInt8 := e.slots.getD (i % bufferSize) 0

/-- Writes a byte at the head. -/
def add (e : EchoBuffer) (b : UInt8) : EchoBuffer :=
  { e with slots := e.slots.setIfInBounds (e.head % bufferSize) b, head := e.head + 1 }

/-- Drops echoes from `tail` on while more than the discard mark of them are
committed: an operation goes as a whole. -/
def discardFrom (e : EchoBuffer) : Nat → Nat → Nat
  | 0, tail => tail
  | fuel + 1, tail =>
    if e.commit > tail && e.commit - tail ≥ discardMark then
      if e.slot tail == opStart then
        e.discardFrom fuel (if e.slot (tail + 1) == opEraseTab then tail + 3 else tail + 2)
      else e.discardFrom fuel (tail + 1)
    else tail

end EchoBuffer

/-- The state of a terminal's line discipline. -/
structure Discipline where
  /-- Completed lines not yet read, oldest first. -/
  lines : List Line
  /-- The line being typed. -/
  editing : Array UInt8
  column : Nat
  /-- The column where the line being typed starts. -/
  lineColumn : Nat
  /-- Whether the next byte is taken as it is. -/
  literal : Bool
  /-- Whether output is held. -/
  stopped : Bool
  echoes : EchoBuffer
  /-- Typed bytes not yet taken in, by the input buffer they wait in, oldest first. -/
  pending : List (List UInt8)
  /-- How many of the first pending bytes flow control has already seen. -/
  lookedAhead : Nat
  /-- The capacity of the last input buffer, and how much of it is written. -/
  lastCapacity : Nat
  lastUsed : Nat
  /-- What has been written to the other side and not yet collected. -/
  shown : Array UInt8
  deriving Inhabited, Repr

namespace Discipline

/-- A fresh discipline. -/
def new : Discipline :=
  { lines := [], editing := #[], column := 0, lineColumn := 0, literal := false, stopped := false,
    echoes := EchoBuffer.empty, pending := [], lookedAhead := 0, lastCapacity := 0, lastUsed := 0,
    shown := #[] }

/-- The bytes of input held: completed lines and the line being typed. -/
def used (d : Discipline) : Nat := (d.lines.map Line.size).foldr (· + ·) 0 + d.editing.size

/-- Writes bytes to the other side. -/
def emit (d : Discipline) (bs : List UInt8) : Discipline :=
  { d with shown := bs.foldl Array.push d.shown }

/-- How much may be written to the other side now: nothing while output is held. -/
def room (d : Discipline) : Nat := if d.stopped then 0 else 65536

/-- Writes one byte through output processing, given the room left: the
new state and the room it took, or none when there is not enough room. -/
def outputChar (d : Discipline) (c : UInt8) (space : Nat) : Option (Discipline × Nat) :=
  if space = 0 then none
  else if c == 10 then
    if space < 2 then none else some ({ d with column := 0, lineColumn := 0 }.emit [13, 10], 2)
  else if c == 13 then some ({ d with column := 0, lineColumn := 0 }.emit [13], 1)
  else if c == 9 then some ({ d with column := d.column + (8 - d.column % 8) }.emit [9], 1)
  else if c == 8 then some ({ d with column := d.column - 1 }.emit [8], 1)
  else if isControl c then some (d.emit [c], 1)
  else some ({ d with column := d.column + 1 }.emit [c], 1)

/-- Writes bytes through output processing. -/
def output (d : Discipline) (bs : List UInt8) : Discipline :=
  bs.foldl (fun d c => match d.outputChar c 65536 with
    | some (d, _) => d
    | none => d) d

/-! ## Echoes -/

/-- Puts a byte in the echo buffer. -/
def echoByte (d : Discipline) (b : UInt8) : Discipline := { d with echoes := d.echoes.add b }

/-- Echoes a byte as it is; the operation byte itself is doubled. -/
def echoRaw (d : Discipline) (c : UInt8) : Discipline :=
  if c == opStart then (d.echoByte opStart).echoByte opStart else d.echoByte c

/-- Echoes a typed byte: a control byte other than the tab is shown as two characters. -/
def echoChar (d : Discipline) (c : UInt8) : Discipline :=
  if c == opStart then (d.echoByte opStart).echoByte opStart
  else if isControl c && c != 9 then (d.echoByte opStart).echoByte c
  else d.echoByte c

/-- Records, in the echoes, where the line being typed starts. -/
def echoLineColumn (d : Discipline) : Discipline := (d.echoByte opStart).echoByte opLineColumn

/-- Backs up over a tab, in the echoes. -/
def echoEraseTab (d : Discipline) (columns : Nat) (afterTab : Bool) : Discipline :=
  ((d.echoByte opStart).echoByte opEraseTab).echoByte (columns % 8 + (if afterTab then 128 else 0)).toUInt8

/-- Writes out the committed echoes from `tail`, with `space` room, reading
the slots round until the commit: the new state, the tail reached, and
whether the echoes were complete (an operation cut short by the commit waits). -/
def writeOut : Nat → Discipline → Nat → Nat → Discipline × Nat × Bool
  | 0, d, tail, _ => (d, tail, true)
  | fuel + 1, d, tail, space =>
    let e := d.echoes
    if tail % bufferSize == e.commit % bufferSize then (d, tail, true)
    else
      let c := e.slot tail
      if c == opStart then
        if e.commit % bufferSize == (tail + 1) % bufferSize then (d, tail, false)
        else
          let op := e.slot (tail + 1)
          if op == opEraseTab then
            if e.commit % bufferSize == (tail + 2) % bufferSize then (d, tail, false)
            else
              let n := (e.slot (tail + 2)).toNat
              let n := if n &&& 128 == 0 then n + d.lineColumn else n
              let count := 8 - n % 8
              if count > space then (d, tail, true)
              else
                writeOut fuel ({ d with column := d.column - count }.emit (List.replicate count 8)) (tail + 3)
                  (space - count)
          else if op == opLineColumn then writeOut fuel { d with lineColumn := d.column } (tail + 2) space
          else if op == opMoveBack then writeOut fuel { d with column := d.column - 1 } (tail + 2) space
          else if op == opStart then
            if space = 0 then (d, tail, true)
            else writeOut fuel ({ d with column := d.column + 1 }.emit [opStart]) (tail + 2) (space - 1)
          else if space < 2 then (d, tail, true)
          else writeOut fuel ({ d with column := d.column + 2 }.emit [94, op ^^^ 64]) (tail + 2) (space - 2)
      else
        match d.outputChar c space with
        | none => (d, tail, true)
        | some (d, n) => writeOut fuel d (tail + 1) (space - n)

/-- Writes out the committed echoes, then drops those too far behind. -/
def writeEchoes (d : Discipline) : Discipline :=
  let (d, tail, complete) := writeOut (3 * bufferSize + 8) d d.echoes.tail d.room
  let e := d.echoes
  let tail := if complete then e.discardFrom (e.commit - tail + 1) tail else tail
  { d with echoes := { e with tail } }

/-- Offers the echoes for writing out: they are committed and written once
256 bytes have gathered, and then at every further 256. -/
def commitEchoes (d : Discipline) : Discipline :=
  let e := { d.echoes with mark := d.echoes.head }
  let old := e.commit - e.tail
  let gathered := e.head - e.tail
  if gathered < 256 || gathered % 256 > old % 256 then { d with echoes := e }
  else { d with echoes := { e with commit := e.head } }.writeEchoes

/-- Writes out the echoes up to the last offer. -/
def processEchoes (d : Discipline) : Discipline :=
  if d.echoes.mark == d.echoes.tail then d
  else { d with echoes := { d.echoes with commit := d.echoes.mark } }.writeEchoes

/-- Writes out every echo. -/
def flushEchoes (d : Discipline) : Discipline :=
  if d.echoes.commit == d.echoes.head then d
  else { d with echoes := { d.echoes with commit := d.echoes.head } }.writeEchoes

/-! ## Typed bytes -/

/-- Takes a byte into the line being typed, echoing it; a byte that starts
the line first records the line's column. -/
def plain (d : Discipline) (c : UInt8) : Discipline :=
  let d := if d.editing.isEmpty then d.echoLineColumn else d
  let d := (d.echoChar c).commitEchoes
  { d with editing := d.editing.push c }

/-- Completes the line being typed with a line feed, or with `^D`. -/
def complete (d : Discipline) (lineFeed : Bool) : Discipline :=
  { d with lines := d.lines ++ [⟨(if lineFeed then d.editing.push 10 else d.editing).toList, !lineFeed⟩],
           editing := #[] }

/-- Echoes the erasing of a byte just taken off the line being typed. A tab
backs up by the columns it took, which the bytes before it (back to the
previous tab, or from where the line started) tell. -/
def eraseEcho (d : Discipline) (c : UInt8) : Discipline :=
  if c == 9 then
    let before := d.editing.toList.reverse
    let afterLastTab := before.takeWhile (· != 9)
    let columns := afterLastTab.foldl (fun n b => n + if isControl b then 2 else 1) 0
    d.echoEraseTab columns (afterLastTab.length < before.length)
  else
    let once (d : Discipline) : Discipline := ((d.echoRaw 8).echoRaw 32).echoRaw 8
    if isControl c then once (once d) else once d

/-- What erasing takes. -/
inductive Erase where
  | byte
  | word
  | line
  deriving DecidableEq

/-- Erases from the end of the line being typed, echoing each byte's
erasing. A word is the letters and digits at the end after any others. -/
def erase (d : Discipline) (kind : Erase) : Discipline :=
  go (d.editing.size + 1) d 0
where
  go : Nat → Discipline → Nat → Discipline
    | 0, d, _ => d
    | fuel + 1, d, seen =>
      match d.editing.back? with
      | none => d
      | some c =>
        if kind == .word && !isWordByte c && seen > 0 then d
        else
          let d := { d with editing := d.editing.pop }.eraseEcho c
          if kind == .byte then d else go fuel d (if isWordByte c then seen + 1 else seen)

/-- A signal byte: everything typed and not yet read and every echo not yet
written is thrown away, output is let go, and the byte is echoed. -/
def signal (d : Discipline) (c : UInt8) : Discipline :=
  let d := { d with echoes := { d.echoes with head := 0, mark := 0, commit := 0, tail := 0 },
                    lines := [], editing := #[], literal := false, stopped := false }
  (d.echoChar c).commitEchoes

/-- Whether a byte has a meaning of its own. -/
def isSpecial (c : UInt8) : Bool :=
  [127, 21, 23, 22, 18, 4, 10, 13, 3, 28, 26, 17, 19].contains c

/-- Handles a byte with a meaning of its own; `seen` tells that flow control
already acted on it when looking ahead. -/
def special (d : Discipline) (c : UInt8) (seen : Bool) : Discipline :=
  if c == 17 || c == 19 then
    if seen then d
    else if c == 17 then { d with stopped := false }.processEchoes
    else { d with stopped := true }
  else if c == 3 || c == 28 || c == 26 then d.signal c
  else
    let c := if c == 13 then 10 else c
    if c == 127 then (d.erase .byte).commitEchoes
    else if c == 21 then (d.erase .line).commitEchoes
    else if c == 23 then (d.erase .word).commitEchoes
    else if c == 22 then { ((d.echoRaw 94).echoRaw 8).commitEchoes with literal := true }
    else if c == 18 then
      let d := (d.echoChar 18).echoRaw 10
      (d.editing.foldl (fun d b => d.echoChar b) d).commitEchoes
    else if c == 10 then ((d.echoRaw 10).commitEchoes).complete true
    else if c == 4 then d.complete false
    else d.plain c

/-- Handles one typed byte. -/
def receive (d : Discipline) (c : UInt8) (seen : Bool) : Discipline :=
  if d.literal then { d with literal := false }.plain c
  else if isSpecial c then d.special c seen
  else d.plain c

/-- Takes in a batch of typed bytes, then writes out the echoes. -/
def takeIn (d : Discipline) (bs : List UInt8) : Discipline :=
  let seen := min d.lookedAhead bs.length
  let d := { d with lookedAhead := d.lookedAhead - seen }
  let (d, _) := bs.foldl (fun (acc : Discipline × Nat) c => (acc.1.receive c (acc.2 < seen), acc.2 + 1)) (d, 0)
  d.flushEchoes

/-- Takes in the bytes of one input buffer as far as there is room: the
bytes left waiting. With no room and no completed line, a full line takes
one byte at a time, the byte replacing the line's last. -/
def receiveBuffer (d : Discipline) (bs : List UInt8) : Discipline × List UInt8 :=
  go (bs.length + 1) d bs
where
  go : Nat → Discipline → List UInt8 → Discipline × List UInt8
    | 0, d, bs => (d, bs)
    | fuel + 1, d, bs =>
      if bs.isEmpty then (d, [])
      else
        let room : Int := (bufferSize : Int) - d.used - 1
        let (d, room) : Discipline × Nat :=
          if room ≤ 0 then
            let overflow := d.lines.isEmpty
            ((if overflow && room < 0 then { d with editing := d.editing.pop } else d), if overflow then 1 else 0)
          else (d, room.toNat)
        let n := min bs.length room
        if n = 0 then (d, bs) else go fuel (d.takeIn (bs.take n)) (bs.drop n)

/-- Flow control looks ahead at the waiting bytes it has not seen: `^S`
holds output and `^Q` lets it go at once. -/
def lookAhead (d : Discipline) : Discipline :=
  let all := d.pending.foldr (· ++ ·) []
  let fresh := all.drop d.lookedAhead
  fresh.foldl (fun d c =>
    if c == 17 then { d with stopped := false }.processEchoes
    else if c == 19 then { d with stopped := true }
    else d) { d with lookedAhead := all.length }

/-- Takes in the waiting input buffers in order, until one cannot be taken
in whole; after each buffer that gave any bytes, flow control looks ahead. -/
def drain (d : Discipline) : Discipline :=
  go (d.pending.length + 1) d
where
  go : Nat → Discipline → Discipline
    | 0, d => d
    | fuel + 1, d =>
      match d.pending with
      | [] => d
      | b :: rest =>
        let (d, left) := { d with pending := rest }.receiveBuffer b
        let taken := b.length - left.length
        let d := if left.isEmpty then d else { d with pending := left :: d.pending }
        let d := if taken > 0 then d.lookAhead else d
        if left.isEmpty then go fuel d else d

/-- Puts a part of a client's write into the input buffers: into the last
buffer when it fits, else into a new one. -/
def enqueuePart (d : Discipline) (part : List UInt8) : Discipline :=
  let n := part.length
  if d.lastCapacity - d.lastUsed ≥ n then
    let pending := match d.pending.reverse with
      | [] => [part]
      | last :: before => (before.reverse) ++ [last ++ part]
    { d with lastUsed := d.lastUsed + n, pending }
  else
    let size := max 256 ((n + 255) / 256 * 256)
    { d with lastCapacity := 2 * size, lastUsed := n, pending := d.pending ++ [part] }

/-- Cuts bytes into pieces of at most `size` (at least one). -/
def pieces (size : Nat) (bs : List UInt8) : List (List UInt8) :=
  go (bs.length + 1) bs
where
  go : Nat → List UInt8 → List (List UInt8)
    | 0, _ => []
    | _, [] => []
    | fuel + 1, bs => bs.take (max size 1) :: go fuel (bs.drop (max size 1))

/-- A client types bytes: they are put in the input buffers, pieces of 2048
in parts of 1792, and taken in as far as there is room. -/
def type (d : Discipline) (bs : List UInt8) : Discipline :=
  let d := (pieces 2048 bs).foldl (fun d piece => (pieces 1792 piece).foldl enqueuePart d) d
  d.drain

/-- A process prints bytes: the echoes waiting are written out first. -/
def print (d : Discipline) (bs : List UInt8) : Discipline :=
  d.processEchoes.output bs

/-- Reads at most `n` bytes of the first completed line, or none when no
line is complete. A line completed by `^D` gives its bytes and, once they are
read, an empty read. Reading makes room for waiting input. -/
def read (d : Discipline) (n : Nat) : Option (List UInt8 × Discipline) :=
  if n = 0 then some ([], d)
  else
    match d.lines with
    | [] => none
    | l :: rest =>
      if n ≥ l.size then some (l.bytes, { d with lines := rest }.drain)
      else some (l.bytes.take n, { d with lines := ⟨l.bytes.drop n, l.endOfFile⟩ :: rest }.drain)

/-- Takes what has been written to the other side. -/
def collect (d : Discipline) : List UInt8 × Discipline := (d.shown.toList, { d with shown := #[] })

end Discipline

end Terminal

end Userland
