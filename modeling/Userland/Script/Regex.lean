import Userland.Text.Units
import Userland.Script.Folding
import Std.Data.HashSet

namespace Userland

/-! # Regular expressions

The regular expressions of scripts, matched over UTF-16 units, or over code
points in the unicode mode.

A pattern is read into a tree: literal characters, `.`, classes, the
assertions `^`, `$`, `\b` and `\B`, groups (capturing, named or not),
lookahead and lookbehind, backreferences, alternatives and repetition. The
reading is the lenient one that scripts outside the unicode mode get: a `{`
that opens no quantifier, a `]` or a `}` stands for itself, an escape of a
letter with no meaning is that letter, and `\N` past the number of groups is
an octal escape (or the digit itself for `8` and `9`).

The tree is compiled to a program for a machine that tries the first branch
of each choice and comes back to the second when the first fails, which gives
the leftmost match with the preferences of greedy and lazy repetition. A
repetition of a body that can match nothing is entered as "once or more, or
not at all", and a turn that matched nothing ends the repetition; captures
keep the last text they took, also from an earlier turn.

There are two searches. Most patterns have no lookaround and no
backreference; for them the search is linear: each pair of program counter
and position is entered at most once in a search, the first way to reach it
being the one that counts. The others, and any search that starts past the
beginning of the text, backtrack without that record, within a number of
steps. The two fold case differently: the linear search by case orbits, the
backtracking one by lower case.

After a match, a group that lies outside the text of the group around it
took no part in the match: it kept its text from an earlier turn of a
repetition that the enclosing group has since left.

The flags are `g` (global), `i` (case folded), `m` (`^` and `$` at line
feeds), `s` (`.` matches line breaks), `u` (code points) and `y` (sticky: a
match only where the search starts). Each may appear once.

Every loop is bounded: the machine by a number of steps, the reader by the
length of the pattern.
-/

namespace Script

namespace Regex

/-- What a member of a class covers. -/
inductive ClassItem where
  | unit (c : Nat)
  | range (lo hi : Nat)
  | digit (negated : Bool)
  | word (negated : Bool)
  | space (negated : Bool)
  deriving Inhabited, Repr, BEq

/-- A pattern read into a tree; sequences and alternatives are binary. -/
inductive Node where
  | empty
  | unit (c : Nat)
  | any
  | cls (negated : Bool) (items : List ClassItem)
  | lineStart
  | lineEnd
  | boundary (negated : Bool)
  /-- A group; `some i` when it captures as group `i`. -/
  | group (index : Option Nat) (body : Node)
  /-- A lookahead (`ahead`) or lookbehind, positive or `negated`. -/
  | look (ahead negated : Bool) (body : Node)
  | backref (group : Nat)
  | seq (first second : Node)
  | alt (first second : Node)
  /-- A repetition of at least `min` and at most `max` turns. -/
  | repeat (body : Node) (min : Nat) (max : Option Nat) (greedy : Bool)
  deriving Inhabited, Repr

/-- The flags of an expression. -/
structure Flags where
  global : Bool
  ignoreCase : Bool
  multiline : Bool
  dotAll : Bool
  unicode : Bool
  sticky : Bool
  deriving Inhabited, Repr

namespace Flags

/-- The flags a text names; none when a letter is no flag or comes twice. -/
def ofText (s : String) : Option Flags :=
  let cs := s.toList
  if cs.all (fun c => "gimsuy".toList.contains c) && cs.eraseDups.length = cs.length then
    some ⟨cs.contains 'g', cs.contains 'i', cs.contains 'm', cs.contains 's', cs.contains 'u',
      cs.contains 'y'⟩
  else none

/-- The flags as their text, in the order `gimsuy`. -/
def text (f : Flags) : String :=
  (if f.global then "g" else "") ++ (if f.ignoreCase then "i" else "") ++
  (if f.multiline then "m" else "") ++ (if f.dotAll then "s" else "") ++
  (if f.unicode then "u" else "") ++ (if f.sticky then "y" else "")

end Flags

/-! ## Units -/

/-- Whether a unit is an ASCII digit. -/
def isDigitUnit (c : Nat) : Bool := 48 ≤ c && c ≤ 57

/-- Whether a unit is a word character: a letter, a digit or `_`. -/
def isWordUnit (c : Nat) : Bool :=
  isDigitUnit c || (65 ≤ c && c ≤ 90) || (97 ≤ c && c ≤ 122) || c = 95

/-- Whether a unit is white space or a line terminator. -/
def isSpaceUnit (c : Nat) : Bool :=
  (9 ≤ c && c ≤ 13) || c = 32 || c = 0xA0 || c = 0x1680 || (0x2000 ≤ c && c ≤ 0x200A) ||
    c = 0x2028 || c = 0x2029 || c = 0x202F || c = 0x205F || c = 0x3000 || c = 0xFEFF

/-- Whether a unit ends a line. -/
def isLineUnit (c : Nat) : Bool := c = 10 || c = 13 || c = 0x2028 || c = 0x2029

/-- How a search compares characters: exactly, by case orbit, or by lower case. -/
inductive Fold where
  | exact
  | orbit
  | lower
  deriving Inhabited, BEq

/-- Whether two characters are the same under a fold. -/
def Fold.same : Fold → Nat → Nat → Bool
  | .exact, a, b => a == b
  | .orbit, a, b => Folding.sameFold a b
  | .lower, a, b => Folding.sameLower a b

/-- The characters a character stands for when it is looked up in a class. -/
def Fold.variants : Fold → Nat → List Nat
  | .exact, c => [c]
  | .orbit, c => Folding.orbit c
  | .lower, c => [c, Folding.lowerOf c, Folding.upperOf c]

/-- Whether a class item covers a character. A folded word class covers what
folds with a word character, and its negation the rest. -/
def ClassItem.covers (fold : Fold) (c : Nat) : ClassItem → Bool
  | .unit u => fold.same c u
  | .range lo hi => (fold.variants c).any fun x => lo ≤ x && x ≤ hi
  | .digit neg => isDigitUnit c != neg
  | .word neg => ((fold.variants c).any isWordUnit) != neg
  | .space neg => isSpaceUnit c != neg

/-- Whether a class covers a character. -/
def classCovers (fold : Fold) (negated : Bool) (items : List ClassItem) (c : Nat) : Bool :=
  items.any (·.covers fold c) != negated

/-! ## Reading patterns -/

/-- Where reading a pattern stands: the units left, the groups opened so far,
the names of named groups (a name used again names the same group), and the
number of groups in the whole pattern. -/
structure Reader where
  rest : List Nat
  groups : Nat
  names : List (String × Nat)
  total : Nat
  /-- Whether the pattern has a named group, which makes `\k` a reference. -/
  named : Bool
  unicode : Bool

/-- Reading a pattern: a result, or the text of why the pattern is wrong. -/
abbrev Read := Except String

/-- The value of a unit as a digit in a base. -/
def digitValue (base : Nat) (c : Nat) : Option Nat :=
  let v := if isDigitUnit c then some (c - 48)
    else if 97 ≤ c && c ≤ 102 then some (c - 87)
    else if 65 ≤ c && c ≤ 70 then some (c - 55)
    else none
  v.bind fun d => if d < base then some d else none

/-- A run of digits in a base at the front, as a number, and the units after it. -/
def digitRun (base : Nat) (cs : List Nat) : Option (Nat × List Nat) :=
  let ds := cs.takeWhile fun c => (digitValue base c).isSome
  if ds.isEmpty then none
  else some (ds.foldl (fun n c => n * base + (digitValue base c).getD 0) 0, cs.drop ds.length)

/-- Exactly `n` hexadecimal digits at the front, and the units after them. -/
def hexDigits (n : Nat) (cs : List Nat) : Option (Nat × List Nat) :=
  let ds := cs.take n
  if ds.length = n && ds.all (fun c => (digitValue 16 c).isSome) then
    some (ds.foldl (fun v c => v * 16 + (digitValue 16 c).getD 0) 0, cs.drop n)
  else none

/-- The number of capturing groups a pattern opens, and whether one is named. -/
def countGroups (cs : List Nat) : Nat × Bool :=
  go cs false 0 false (cs.length + 1)
where
  go : List Nat → Bool → Nat → Bool → Nat → Nat × Bool
    | _, _, n, named, 0 => (n, named)
    | [], _, n, named, _ => (n, named)
    | 92 :: _ :: rest, inClass, n, named, fuel + 1 => go rest inClass n named fuel
    | 91 :: rest, false, n, named, fuel + 1 => go rest true n named fuel
    | 93 :: rest, true, n, named, fuel + 1 => go rest false n named fuel
    | 40 :: 63 :: 60 :: c :: rest, false, n, named, fuel + 1 =>
      if c = 61 || c = 33 then go rest false n named fuel else go (c :: rest) false (n + 1) true fuel
    | 40 :: 63 :: rest, false, n, named, fuel + 1 => go rest false n named fuel
    | 40 :: rest, false, n, named, fuel + 1 => go rest false (n + 1) named fuel
    | _ :: rest, inClass, n, named, fuel + 1 => go rest inClass n named fuel

/-- Whether a pattern lies in the subset the linear search takes: no
lookaround, no named group, no backreference (a single digit escape other than
`\0`, or `\8` and `\9`) and no `\S` inside a class. -/
def linearSubset (cs : List Nat) : Bool :=
  go cs false (cs.length + 1)
where
  isOctal (c : Nat) : Bool := 48 ≤ c && c ≤ 55
  go : List Nat → Bool → Nat → Bool
    | _, _, 0 => true
    | [], _, _ => true
    | 92 :: c :: rest, inClass, fuel + 1 =>
      if 49 ≤ c && c ≤ 55 then
        match rest with
        | d :: _ => if isOctal d then go (rest.dropWhile isOctal) inClass fuel else false
        | [] => false
      else if c = 56 || c = 57 then false
      else if c = 83 && inClass then false
      else go rest inClass fuel
    | 91 :: rest, false, fuel + 1 => go rest true fuel
    | 93 :: rest, true, fuel + 1 => go rest false fuel
    | 40 :: 63 :: c :: rest, false, fuel + 1 =>
      if c = 61 || c = 33 || c = 60 then false else go (c :: rest) false fuel
    | _ :: rest, inClass, fuel + 1 => go rest inClass fuel

/-- A quantifier `{n}`, `{n,}` or `{n,m}` at the front (after its brace):
the bounds and the units after it; none when the braces open no quantifier. -/
def braced (cs : List Nat) : Option (Nat × Option Nat × List Nat) :=
  match digitRun 10 cs with
  | none => none
  | some (lo, 125 :: rest) => some (lo, some lo, rest)
  | some (lo, 44 :: 125 :: rest) => some (lo, none, rest)
  | some (lo, 44 :: more) =>
    match digitRun 10 more with
    | some (hi, 125 :: rest) => some (lo, some hi, rest)
    | _ => none
  | _ => none

/-- The unit a control escape `\cX` stands for. -/
def controlUnit (c : Nat) : Option Nat :=
  if (65 ≤ c && c ≤ 90) || (97 ≤ c && c ≤ 122) then some (c % 32) else none

/-- A legacy octal escape at the front: up to three octal digits, at most 255. -/
def octalEscape (cs : List Nat) : Nat × List Nat :=
  let ds := (cs.takeWhile fun c => 48 ≤ c && c ≤ 55).take 3
  let value := ds.foldl (fun v c => v * 8 + (c - 48)) 0
  if value > 255 then
    let ds := ds.take 2
    (ds.foldl (fun v c => v * 8 + (c - 48)) 0, cs.drop ds.length)
  else (value, cs.drop ds.length)

/-- A character escape after its backslash, shared by classes and atoms:
the unit and what follows, or none when the escape is not one of these. -/
def charEscape (unicode : Bool) : List Nat → Option (Nat × List Nat)
  | 116 :: rest => some (9, rest)
  | 110 :: rest => some (10, rest)
  | 118 :: rest => some (11, rest)
  | 102 :: rest => some (12, rest)
  | 114 :: rest => some (13, rest)
  | 99 :: c :: rest => (controlUnit c).map fun u => (u, rest)
  | 120 :: rest =>
    match hexDigits 2 rest with
    | some r => some r
    | none => some (120, rest)
  | 117 :: 123 :: rest =>
    if unicode then
      match digitRun 16 rest with
      | some (v, 125 :: after) => some (v, after)
      | _ => none
    else
      match hexDigits 4 (123 :: rest) with
      | some r => some r
      | none => some (117, 123 :: rest)
  | 117 :: rest =>
    match hexDigits 4 rest with
    | some (hi, 92 :: 117 :: more) =>
      match hexDigits 4 more with
      | some (lo, after) =>
        if unicode && 0xD800 ≤ hi && hi < 0xDC00 && 0xDC00 ≤ lo && lo < 0xE000 then
          some (0x10000 + (hi - 0xD800) * 0x400 + (lo - 0xDC00), after)
        else some (hi, 92 :: 117 :: more)
      | none => some (hi, 92 :: 117 :: more)
    | some r => some r
    | none => some (117, rest)
  | _ => none

/-- The class an escape letter names, if it names one. -/
def classEscape (c : Nat) : Option ClassItem :=
  match c with
  | 100 => some (.digit false)
  | 68 => some (.digit true)
  | 119 => some (.word false)
  | 87 => some (.word true)
  | 115 => some (.space false)
  | 83 => some (.space true)
  | _ => none

/-- One atom of a class at the front (after any `[`): a single unit or a
class escape, and what follows. -/
def classAtom (unicode : Bool) : List Nat → Read (Sum Nat ClassItem × List Nat)
  | 92 :: rest =>
    match rest with
    | [] => .error "\\ at end of pattern"
    | c :: after =>
      match classEscape c with
      | some item => .ok (.inr item, after)
      | none =>
        if c = 98 then .ok (.inl 8, after)
        else if c = 45 then .ok (.inl 45, after)
        else if c = 99 then
          match after with
          | d :: more =>
            if (controlUnit d).isSome then .ok (.inl ((controlUnit d).getD 0), more)
            else if isDigitUnit d || d = 95 then .ok (.inl (d % 32), more)
            else .ok (.inl 92, rest)
          | [] => .ok (.inl 92, rest)
        else if 48 ≤ c && c ≤ 55 then
          let (v, more) := octalEscape rest
          .ok (.inl v, more)
        else
          match charEscape unicode rest with
          | some (u, more) => .ok (.inl u, more)
          | none => .ok (.inl c, after)
  | c :: rest => .ok (.inl c, rest)
  | [] => .error "Unterminated character class"

/-- The members of a class up to its closing `]`, and what follows it. -/
def classItems (unicode : Bool) : Nat → List Nat → List ClassItem → Read (List ClassItem × List Nat)
  | 0, _, _ => .error "Unterminated character class"
  | _, [], _ => .error "Unterminated character class"
  | _, 93 :: rest, acc => .ok (acc.reverse, rest)
  | fuel + 1, cs, acc => do
    let (first, rest) ← classAtom unicode cs
    match rest with
    | 45 :: more =>
      match more with
      | 93 :: _ =>
        let item : ClassItem := match first with
          | .inl u => .unit u
          | .inr i => i
        classItems unicode fuel more (.unit 45 :: item :: acc)
      | [] => .error "Unterminated character class"
      | _ =>
        let (second, after) ← classAtom unicode more
        match first, second with
        | .inl lo, .inl hi =>
          if lo > hi then .error "Range out of order in character class"
          else classItems unicode fuel after (.range lo hi :: acc)
        | a, b =>
          let one : Sum Nat ClassItem → ClassItem
            | .inl u => .unit u
            | .inr i => i
          classItems unicode fuel after (one b :: .unit 45 :: one a :: acc)
    | _ =>
      let item : ClassItem := match first with
        | .inl u => .unit u
        | .inr i => i
      classItems unicode fuel rest (item :: acc)

/-- A group name up to its closing `>`, and what follows. -/
def groupName (cs : List Nat) : Read (String × List Nat) :=
  let name := cs.takeWhile (· != 62)
  match cs.drop name.length with
  | 62 :: rest =>
    if name.isEmpty || !(name.all fun c => isWordUnit c || c = 36) || isDigitUnit (name.headD 0) then
      .error "Invalid capture group name"
    else .ok (Units.toString name, rest)
  | _ => .error "Invalid capture group name"

/-- Whether a node may take a quantifier. -/
def Node.quantifiable : Node → Bool
  | .lineStart | .lineEnd | .boundary _ => false
  | .look false _ _ => false
  | _ => true

/-- Passes the `)` that closes a group. -/
def closeGroup (r : Reader) : Read Reader :=
  match r.rest with
  | 41 :: rest => .ok { r with rest }
  | _ => .error "Unterminated group"

/-- Reads an escape outside a class, after its backslash. -/
def atomEscape (r : Reader) : List Nat → Read (Node × Reader)
  | [] => .error "\\ at end of pattern"
  | c :: after =>
    let done (n : Node) (rest : List Nat) : Read (Node × Reader) := .ok (n, { r with rest })
    if c = 98 then done (.boundary false) after
    else if c = 66 then done (.boundary true) after
    else match classEscape c with
    | some item => done (.cls false [item]) after
    | none =>
      if 49 ≤ c && c ≤ 57 then
        match digitRun 10 (c :: after) with
        | some (n, more) =>
          if n ≤ r.total then done (.backref n) more
          else if c ≥ 56 then done (.unit c) after
          else
            let (v, more) := octalEscape (c :: after)
            done (.unit v) more
        | none => done (.unit c) after
      else if c = 48 then
        match after with
        | d :: _ =>
          if isDigitUnit d then
            let (v, more) := octalEscape (c :: after)
            done (.unit v) more
          else done (.unit 0) after
        | [] => done (.unit 0) after
      else if c = 107 && r.named then
        match after with
        | 60 :: more =>
          match groupName more with
          | .ok (name, rest) =>
            match r.names.lookup name with
            | some i => done (.backref i) rest
            | none =>
              -- a name defined later in the pattern still refers to its group
              .ok (.backref 0, { r with rest := rest })
          | .error _ => .error "Invalid named reference"
        | _ => .error "Invalid named reference"
      else if c = 99 then
        match after with
        | d :: more =>
          match controlUnit d with
          | some u => done (.unit u) more
          | none => done (.unit 92) (c :: after)
        | [] => done (.unit 92) (c :: after)
      else
        match charEscape r.unicode (c :: after) with
        | some (u, more) => done (.unit u) more
        | none => done (.unit c) after

mutual

/-- Reads alternatives up to a `)` or the end. -/
def disjunction : Nat → Reader → Read (Node × Reader)
  | 0, _ => .error "pattern too deep"
  | fuel + 1, r => do
    let (first, r) ← alternative fuel r Node.empty
    match r.rest with
    | 124 :: rest =>
      let (second, r) ← disjunction fuel { r with rest }
      return (.alt first second, r)
    | _ => return (first, r)

/-- Reads terms up to a `|`, a `)` or the end. -/
def alternative : Nat → Reader → Node → Read (Node × Reader)
  | 0, _, _ => .error "pattern too deep"
  | fuel + 1, r, acc =>
    match r.rest with
    | [] => .ok (acc, r)
    | 124 :: _ => .ok (acc, r)
    | 41 :: _ => .ok (acc, r)
    | _ => do
      let (t, r) ← term fuel r
      let acc := match acc with
        | .empty => t
        | a => .seq a t
      alternative fuel r acc

/-- Reads one term: an atom or assertion and its quantifier. -/
def term : Nat → Reader → Read (Node × Reader)
  | 0, _ => .error "pattern too deep"
  | fuel + 1, r => do
    let (a, r) ← atom fuel r
    let quantified (lo : Nat) (hi : Option Nat) (rest : List Nat) : Read (Node × Reader) :=
      if !a.quantifiable then .error "Nothing to repeat"
      else if hi.any (· < lo) then .error "numbers out of order in \x7b\x7d quantifier"
      else
        match rest with
        | 63 :: after => .ok (.repeat a lo hi false, { r with rest := after })
        | _ => .ok (.repeat a lo hi true, { r with rest })
    match r.rest with
    | 42 :: rest => quantified 0 none rest
    | 43 :: rest => quantified 1 none rest
    | 63 :: rest => quantified 0 (some 1) rest
    | 123 :: rest =>
      match braced rest with
      | some (lo, hi, after) => quantified lo hi after
      | none => .ok (a, r)
    | _ => .ok (a, r)

/-- Reads one atom or assertion. -/
def atom : Nat → Reader → Read (Node × Reader)
  | 0, _ => .error "pattern too deep"
  | fuel + 1, r =>
    match r.rest with
    | [] => .error "pattern ends early"
    | 94 :: rest => .ok (.lineStart, { r with rest })
    | 36 :: rest => .ok (.lineEnd, { r with rest })
    | 46 :: rest => .ok (.any, { r with rest })
    | 42 :: _ | 43 :: _ | 63 :: _ => .error "Nothing to repeat"
    | 123 :: rest =>
      if (braced rest).isSome then .error "Nothing to repeat" else .ok (.unit 123, { r with rest })
    | 41 :: _ => .error "Unmatched ')'"
    | 91 :: 94 :: rest => do
      let (items, after) ← classItems r.unicode (rest.length + 1) rest []
      return (.cls true items, { r with rest := after })
    | 91 :: rest => do
      let (items, after) ← classItems r.unicode (rest.length + 1) rest []
      return (.cls false items, { r with rest := after })
    | 40 :: 63 :: 58 :: rest => do
      let (body, r) ← disjunction fuel { r with rest }
      let r ← closeGroup r
      return (.group none body, r)
    | 40 :: 63 :: 61 :: rest => lookaround fuel true false { r with rest }
    | 40 :: 63 :: 33 :: rest => lookaround fuel true true { r with rest }
    | 40 :: 63 :: 60 :: 61 :: rest => lookaround fuel false false { r with rest }
    | 40 :: 63 :: 60 :: 33 :: rest => lookaround fuel false true { r with rest }
    | 40 :: 63 :: 60 :: rest => do
      let (name, rest) ← groupName rest
      match r.names.find? (·.1 == name) with
      | some (_, index) =>
        let (body, r) ← disjunction fuel { r with rest }
        let r ← closeGroup r
        return (.group (some index) body, r)
      | none =>
        let index := r.groups + 1
        let (body, r) ← disjunction fuel { r with rest, groups := index, names := r.names ++ [(name, index)] }
        let r ← closeGroup r
        return (.group (some index) body, r)
    | 40 :: 63 :: _ => .error "Invalid group"
    | 40 :: rest => do
      let index := r.groups + 1
      let (body, r) ← disjunction fuel { r with rest, groups := index }
      let r ← closeGroup r
      return (.group (some index) body, r)
    | 92 :: rest => atomEscape r rest
    | c :: rest => .ok (.unit c, { r with rest })

/-- Reads the body of a lookaround after its opening. -/
def lookaround : Nat → Bool → Bool → Reader → Read (Node × Reader)
  | 0, _, _, _ => .error "pattern too deep"
  | fuel + 1, ahead, negated, r => do
    let (body, r) ← disjunction fuel r
    let r ← closeGroup r
    return (.look ahead negated body, r)

end

/-! ## Compiling -/

/-- Instructions of the matching machine. -/
inductive Inst where
  | unit (c : Nat)
  | any
  | cls (negated : Bool) (items : List ClassItem)
  | lineStart
  | lineEnd
  | boundary (negated : Bool)
  /-- Records the position in a capture slot. -/
  | save (slot : Nat)
  /-- Goes on at `first`, and at `second` if that fails. -/
  | split (first second : Nat)
  | jump (target : Nat)
  | backref (group : Nat)
  /-- Runs a program of its own at the position; it consumes nothing. -/
  | look (ahead negated : Bool) (body : Array Inst)
  /-- Records the position in a loop register, where a turn begins. -/
  | mark (reg : Nat)
  /-- Goes to `exit` when the position is where the register recorded it: a
  turn that matched nothing ends the repetition. -/
  | progress (reg : Nat) (exit : Nat)
  | done
  deriving Inhabited

/-- Whether a node can match the empty text. -/
def Node.nullable : Node → Bool
  | .empty | .lineStart | .lineEnd | .boundary _ | .look _ _ _ | .backref _ => true
  | .unit _ | .any | .cls _ _ => false
  | .group _ body => body.nullable
  | .seq a b => a.nullable && b.nullable
  | .alt a b => a.nullable || b.nullable
  | .repeat body lo _ _ => lo == 0 || body.nullable

/-- A node without the non-capturing groups around it. -/
def Node.bare : Node → Node
  | .group none body => body.bare
  | n => n

/-- The most turns of a repetition that are written out as instructions. -/
def unrollLimit : Nat := 1000

/-- An instruction moved `k` places further on: its targets move with it. -/
def Inst.shift (k : Nat) : Inst → Inst
  | .split a b => .split (a + k) (b + k)
  | .jump target => .jump (target + k)
  | .progress reg exit => .progress reg (exit + k)
  | i => i

/-- Instructions placed `k` places further on. -/
def shiftAll (k : Nat) (code : Array Inst) : Array Inst := code.map (Inst.shift k)

/-- The choice at the head of an optional part of `size` instructions: into
it first when greedy, past it first when lazy. -/
def choice (greedy : Bool) (size : Nat) : Inst :=
  if greedy then .split 1 (1 + size) else .split (1 + size) 1

/-- A body that may be skipped. -/
def questCode (body : Array Inst) (greedy : Bool) : Array Inst :=
  #[choice greedy body.size] ++ shiftAll 1 body

/-- A body once or more: each turn marks where it began, a turn that matched
nothing leaves, and after each turn the choice goes back to the body. -/
def plusCode (body : Array Inst) (reg : Nat) (greedy : Bool) : Array Inst :=
  let exit := body.size + 3
  #[Inst.mark reg] ++ shiftAll 1 body ++
    #[Inst.progress reg exit, if greedy then .split 0 exit else .split exit 0]

/-- A body that cannot match nothing, any number of times. -/
def loopCode (body : Array Inst) (greedy : Bool) : Array Inst :=
  #[if greedy then Inst.split 1 (body.size + 2) else .split (body.size + 2) 1] ++
    shiftAll 1 body ++ #[Inst.jump 0]

/-- A body any number of times; one that can match nothing is "once or more,
or not at all", so that a turn that matched nothing is the last. -/
def starCode (body : Array Inst) (nullable : Bool) (reg : Nat) (greedy : Bool) : Array Inst :=
  if nullable then questCode (plusCode body reg greedy) greedy else loopCode body greedy

/-- A body `n` times in a row. -/
def copies (body : Array Inst) (n : Nat) : Array Inst :=
  (List.range n).foldl (fun acc _ => acc ++ shiftAll acc.size body) #[]

/-- Up to `n` more turns of a body, each optional inside the one before. -/
def optionalTurns (body : Array Inst) (greedy : Bool) : Nat → Array Inst
  | 0 => #[]
  | n + 1 =>
    let rest := optionalTurns body greedy n
    questCode (body ++ shiftAll body.size rest) greedy

/-- The instructions of a repetition of a compiled body: `{n,}` is `n - 1`
copies and a loop of one or more, `{n,m}` is `n` copies and `m - n` nested
optional ones. -/
def repeatCode (body : Array Inst) (nullable : Bool) (reg : Nat) (lo : Nat) (hi : Option Nat)
    (greedy : Bool) : Array Inst :=
  match lo, hi with
  | 0, none => starCode body nullable reg greedy
  | 1, none => plusCode body reg greedy
  | n, none =>
    let first := copies body (min (n - 1) unrollLimit)
    first ++ shiftAll first.size (plusCode body reg greedy)
  | n, some m =>
    let first := copies body (min n unrollLimit)
    first ++ shiftAll first.size (optionalTurns body greedy (min (m - n) unrollLimit))

/-- The kind of an open repetition: star, plus or question mark, if it is one. -/
def repeatKind (lo : Nat) (hi : Option Nat) : Option Nat :=
  match lo, hi with
  | 0, none => some 0
  | 1, none => some 1
  | 0, some 1 => some 2
  | _, _ => none

/-- The instructions of a node, placed at address 0, using loop registers from
`reg` on: the instructions and the next free register. A repetition of a
repetition of the same kind and preference is the inner one alone. -/
def compile : Node → Nat → Array Inst × Nat
  | .empty, reg => (#[], reg)
  | .unit c, reg => (#[.unit c], reg)
  | .any, reg => (#[.any], reg)
  | .cls neg items, reg => (#[.cls neg items], reg)
  | .lineStart, reg => (#[.lineStart], reg)
  | .lineEnd, reg => (#[.lineEnd], reg)
  | .boundary neg, reg => (#[.boundary neg], reg)
  | .backref g, reg => (#[.backref g], reg)
  | .group none body, reg => compile body reg
  | .group (some i) body, reg =>
    let (code, reg) := compile body reg
    (#[Inst.save (2 * i)] ++ shiftAll 1 code ++ #[Inst.save (2 * i + 1)], reg)
  | .look ahead neg body, reg =>
    let (code, reg) := compile body reg
    (#[Inst.look ahead neg (code.push .done)], reg)
  | .seq a b, reg =>
    let (ca, reg) := compile a reg
    let (cb, reg) := compile b reg
    (ca ++ shiftAll ca.size cb, reg)
  | .alt a b, reg =>
    let (ca, reg) := compile a reg
    let (cb, reg) := compile b reg
    (#[Inst.split 1 (2 + ca.size)] ++ shiftAll 1 ca ++ #[Inst.jump (2 + ca.size + cb.size)] ++
      shiftAll (2 + ca.size) cb, reg)
  | .repeat body lo hi greedy, reg =>
    let (cb, next) := compile body reg
    let same := match body.bare with
      | .repeat _ lo2 hi2 greedy2 =>
        (repeatKind lo hi).isSome && repeatKind lo hi == repeatKind lo2 hi2 && greedy == greedy2
      | _ => false
    if lo = 0 && hi = some 0 then (#[], next)
    else if same then (cb, next)
    else (repeatCode cb body.nullable next lo hi greedy, next + 1)

/-- The innermost capturing group around each group, outside any lookaround:
`parents` gives it for the groups of a node inside `outer`. -/
def Node.parents (outer : Option Nat) (acc : Array (Option Nat)) : Node → Array (Option Nat)
  | .group (some i) body =>
    let acc := if i < acc.size then acc.set! i outer else acc
    body.parents (some i) acc
  | .group none body | .repeat body _ _ _ => body.parents outer acc
  | .look _ _ body => body.parents none acc
  | .seq a b | .alt a b => b.parents outer (a.parents outer acc)
  | _ => acc

/-! ## Matching -/

/-- A compiled expression: its program, the number of its groups, the group
around each group, its flags, the number of loop registers, and whether the
linear search may run it. -/
structure Compiled where
  program : Array Inst
  groups : Nat
  parents : Array (Option Nat)
  flags : Flags
  registers : Nat
  linear : Bool
  deriving Inhabited

/-- The characters of a pattern: its units, or its code points in the unicode mode. -/
def patternSymbols (pattern : String) (unicode : Bool) : List Nat :=
  if unicode then pattern.toList.map Char.toNat else (Units.ofString pattern).toList

/-- Reads and compiles a pattern with flags. -/
def Compiled.ofPattern (pattern : String) (flags : Flags) : Read Compiled := do
  let cs := patternSymbols pattern flags.unicode
  let (total, named) := countGroups cs
  let r : Reader := ⟨cs, 0, [], total, named, flags.unicode⟩
  let (node, r) ← disjunction (5 * cs.length + 8) r
  match r.rest with
  | 41 :: _ => .error "Unmatched ')'"
  | _ :: _ => .error "Unexpected character"
  | [] =>
    let (code, regs) := compile node 0
    let parents := node.parents none (Array.replicate (r.groups + 1) none)
    return ⟨#[Inst.save 0] ++ shiftAll 1 code ++ #[Inst.save 1, Inst.done], r.groups, parents,
      flags, regs, linearSubset (Units.ofString pattern).toList⟩

/-- The state of one attempt of the machine. -/
structure Thread where
  pc : Nat
  pos : Nat
  caps : Array (Option Nat)
  regs : Array Nat
  deriving Inhabited

/-- What a run of the machine holds fixed: the flags, the search, and the
characters it reads. -/
structure Setting where
  flags : Flags
  linear : Bool
  input : Array Nat

/-- How a setting compares characters. -/
def Setting.fold (s : Setting) : Fold :=
  if !s.flags.ignoreCase then .exact else if s.linear then .orbit else .lower

/-- The steps one backtracking attempt may take. -/
def stepLimit : Nat := 200000

/-- Whether the characters from `start` match the captured ones under a fold. -/
def matchesAt (fold : Fold) (input : Array Nat) (start : Nat) (captured : List Nat) : Bool :=
  start + captured.length ≤ input.size &&
    (captured.zipIdx.all fun (c, k) => fold.same (input[start + k]!) c)

/-- Runs a program from a thread, with the threads to come back to, in at most
`fuel` steps: the thread that reached the end, if any, and the states entered.
With `goal` the end must be at that position. In the linear search a state
already entered is not entered again. -/
def run (s : Setting) : Nat → Array Inst → Option Nat → Thread → List Thread → Std.HashSet Nat →
    Option Thread × Std.HashSet Nat
  | 0, _, _, _, _, seen => (none, seen)
  | fuel + 1, prog, goal, t, stack, seen =>
    let back (seen : Std.HashSet Nat) : Option Thread × Std.HashSet Nat :=
      match stack with
      | [] => (none, seen)
      | u :: rest => run s fuel prog goal u rest seen
    let key := t.pc * (s.input.size + 1) + t.pos
    if s.linear && seen.contains key then back seen
    else
    let seen := if s.linear then seen.insert key else seen
    let next (t' : Thread) : Option Thread × Std.HashSet Nat := run s fuel prog goal t' stack seen
    let step : Thread := { t with pc := t.pc + 1 }
    let here : Option Nat := s.input[t.pos]?
    let fold := s.fold
    match prog[t.pc]? with
    | none => back seen
    | some inst =>
      match inst with
      | .done => if goal.all (· == t.pos) then (some t, seen) else back seen
      | .unit c =>
        match here with
        | some u => if fold.same u c then next { step with pos := t.pos + 1 } else back seen
        | none => back seen
      | .any =>
        match here with
        | some u =>
          if s.flags.dotAll || !isLineUnit u then next { step with pos := t.pos + 1 } else back seen
        | none => back seen
      | .cls neg items =>
        match here with
        | some u =>
          if classCovers fold neg items u then next { step with pos := t.pos + 1 } else back seen
        | none => back seen
      | .lineStart =>
        if t.pos = 0 || (s.flags.multiline && s.input[t.pos - 1]? == some 10) then next step
        else back seen
      | .lineEnd =>
        if t.pos = s.input.size || (s.flags.multiline && here == some 10) then next step
        else back seen
      | .boundary neg =>
        let before := t.pos > 0 && isWordUnit (s.input[t.pos - 1]?.getD 0)
        let after := (here.map isWordUnit).getD false
        if (before != after) != neg then next step else back seen
      | .save slot =>
        next { step with caps := if slot < t.caps.size then t.caps.set! slot (some t.pos) else t.caps }
      | .split first second =>
        run s fuel prog goal { t with pc := first } ({ t with pc := second } :: stack) seen
      | .jump target => next { t with pc := target }
      | .backref g =>
        match t.caps[2 * g]?, t.caps[2 * g + 1]? with
        | some (some a), some (some e) =>
          let captured := (s.input.extract a e).toList
          if matchesAt fold s.input t.pos captured then
            next { step with pos := t.pos + captured.length }
          else back seen
        | _, _ => next step
      | .look ahead neg body =>
        let found : Option Thread :=
          if ahead then (run s fuel body none { t with pc := 0 } [] {}).1
          else (List.range (t.pos + 1)).findSome? fun k =>
            (run s fuel body (some t.pos) { t with pc := 0, pos := k } [] {}).1
        match found, neg with
        | some u, false => next { step with caps := u.caps }
        | none, true => next step
        | _, _ => back seen
      | .mark reg =>
        if s.linear then next step
        else next { step with regs := if reg < t.regs.size then t.regs.set! reg t.pos else t.regs }
      | .progress reg exit =>
        if !s.linear && t.regs[reg]? = some t.pos then next { t with pc := exit } else next step

/-- A match: the start and end of the whole match and of each group, `none`
for a group that took no part. -/
abbrev Captures := Array (Option (Nat × Nat))

/-- The text a search reads: its characters (the units, or in the unicode
mode the code points, a surrogate pair making one) and the unit where each
character starts, with the length in units last. -/
structure Subject where
  symbols : Array Nat
  starts : Array Nat

/-- The characters of units from `i` on, in at most `fuel` steps. -/
def decodeFrom (units : Array Nat) (i : Nat) (syms starts : Array Nat) : Nat → Array Nat × Array Nat
  | 0 => (syms, starts.push units.size)
  | fuel + 1 =>
    match units[i]? with
    | none => (syms, starts.push units.size)
    | some u =>
      let lo := units[i + 1]?.getD 0
      if 0xD800 ≤ u && u < 0xDC00 && 0xDC00 ≤ lo && lo < 0xE000 then
        decodeFrom units (i + 2) (syms.push (0x10000 + (u - 0xD800) * 0x400 + (lo - 0xDC00)))
          (starts.push i) fuel
      else decodeFrom units (i + 1) (syms.push u) (starts.push i) fuel

/-- The text a search reads from units. -/
def Subject.ofUnits (unicode : Bool) (units : Array Nat) : Subject :=
  if unicode then
    let (symbols, starts) := decodeFrom units 0 #[] #[] units.size
    ⟨symbols, starts⟩
  else ⟨units, Array.range (units.size + 1)⟩

/-- The character at or after a unit position. -/
def Subject.indexOf (s : Subject) (unit : Nat) : Nat :=
  (s.starts.findIdx? (· ≥ unit)).getD s.symbols.size

/-- A match in characters as a match in units. -/
def Subject.toUnits (s : Subject) (caps : Captures) : Captures :=
  caps.map fun c => c.map fun (a, e) => (s.starts[a]?.getD a, s.starts[e]?.getD e)

/-- Whether units are all ASCII. -/
def isAscii (units : Array Nat) : Bool := units.all (· < 0x80)

/-- Whether units are well-formed UTF-16: every surrogate is in a pair. -/
def wellFormed (units : Array Nat) : Bool :=
  (Subject.ofUnits true units).symbols.all fun c => c < 0xD800 || 0xE000 ≤ c

/-- A group that lies outside the text of the group around it, or whose
enclosing group took no part, takes no part either. Groups are settled in
order, so the enclosing one is settled first. -/
def Compiled.settle (c : Compiled) (caps : Captures) : Captures :=
  (List.range (c.groups + 1)).foldl (fun acc g =>
    match c.parents[g]?.join with
    | some p =>
      match acc[g]?.join, acc[p]?.join with
      | some (a, e), some (pa, pe) => if pa ≤ a && e ≤ pe then acc else acc.set! g none
      | some _, none => acc.set! g none
      | none, _ => acc
    | none => acc) caps

/-- The match of a finished thread. -/
def Compiled.capturesOf (c : Compiled) (t : Thread) : Captures :=
  c.settle ((Array.range (c.groups + 1)).map fun g =>
    match t.caps[2 * g]?, t.caps[2 * g + 1]? with
    | some (some a), some (some e) => some (a, e)
    | _, _ => none)

/-- The first match from the start positions in order; the linear search
keeps the states it entered from one start to the next, since a state that
led nowhere once leads nowhere again. -/
def Compiled.firstFrom (c : Compiled) (s : Setting) : List Nat → Std.HashSet Nat → Option Captures
  | [], _ => none
  | k :: ks, seen =>
    let fuel := if s.linear then 2 * (c.program.size + 1) * (s.input.size + 2) + 8 else stepLimit
    let t : Thread := ⟨0, k, Array.replicate (2 * c.groups + 2) none, Array.replicate c.registers 0⟩
    match run s fuel c.program none t [] seen with
    | (some t, _) => some (c.capturesOf t)
    | (none, seen) => c.firstFrom s ks seen

/-- The first match in characters at or after a position, only at it when
`anchored`. -/
def Compiled.findAt (c : Compiled) (subject : Subject) (linear anchored : Bool) (start : Nat) :
    Option Captures :=
  let s : Setting := ⟨c.flags, linear && c.linear, subject.symbols⟩
  let n := subject.symbols.size
  if start > n then none
  else if anchored then c.firstFrom s [start] {}
  else c.firstFrom s ((List.range (n + 1 - start)).map (start + ·)) {}

/-- The match a search from a unit position finds, in units: the linear
search runs from the beginning of the text, the backtracking one from
anywhere else. A sticky expression matches only at the position. -/
def Compiled.exec (c : Compiled) (units : Array Nat) (start : Nat) : Option Captures :=
  let subject := Subject.ofUnits c.flags.unicode units
  (c.findAt subject (start == 0) c.flags.sticky (subject.indexOf start)).map subject.toUnits

/-- The start and end of a match. -/
def spanOf (caps : Captures) : Nat × Nat := (caps[0]?.join).getD (0, 0)

/-- Successive linear matches from `pos`: a match that is empty where the last
one ended is passed over, and after an empty match the search moves on one
character. At most `count` matches, in at most `fuel` searches. -/
def linearAll (c : Compiled) (subject : Subject) (count : Nat) :
    Nat → Nat → Option Nat → List Captures → List Captures
  | 0, _, _, acc => acc.reverse
  | fuel + 1, pos, prevEnd, acc =>
    if acc.length ≥ count || pos > subject.symbols.size then acc.reverse
    else
      match c.findAt subject true false pos with
      | none => acc.reverse
      | some caps =>
        let (a, e) := spanOf caps
        let accept := !(e == pos && prevEnd == some a)
        let pos' := if e == pos then pos + 1 else e
        linearAll c subject count fuel pos' (some e) (if accept then caps :: acc else acc)

/-- Successive backtracking matches from `pos`: after an empty match the
search moves on one character. A sticky search stops at a match that does not
start at `expect`, where the one before ended. At most `count` matches, in at
most `fuel` searches. -/
def backtrackAll (c : Compiled) (subject : Subject) (count : Nat) (sticky : Bool) :
    Nat → Nat → Nat → List Captures → List Captures
  | 0, _, _, acc => acc.reverse
  | fuel + 1, pos, expect, acc =>
    if acc.length ≥ count then acc.reverse
    else
      match c.findAt subject false false pos with
      | none => acc.reverse
      | some caps =>
        let (a, e) := spanOf caps
        if sticky && a != expect then acc.reverse
        else if a == e && e ≥ subject.symbols.size then (caps :: acc).reverse
        else backtrackAll c subject count sticky fuel (if a == e then e + 1 else e) e (caps :: acc)

/-- The matches a sticky search keeps: each must start where the one before ended. -/
def chained (caps : List Captures) : List Captures :=
  go caps 0
where
  go : List Captures → Nat → List Captures
    | [], _ => []
    | m :: rest, pos =>
      let (a, e) := spanOf m
      if a != pos then [] else m :: go rest e

/-- Every match from a unit position on, at most `limit`, in units; a sticky
search keeps only matches that follow each other from the position. From the
beginning of the text the linear search runs over texts in ASCII, over
well-formed ones in the unicode mode and for a single match; every other
search backtracks. -/
def Compiled.findAll (c : Compiled) (units : Array Nat) (start : Nat) (limit : Option Nat)
    (sticky : Bool) : List Captures :=
  let subject := Subject.ofUnits c.flags.unicode units
  let count := limit.getD (subject.symbols.size + 2)
  let fuel := subject.symbols.size + 2
  let linear := c.linear && start == 0 &&
    (isAscii units || (c.flags.unicode && wellFormed units) || limit == some 1)
  let found :=
    if linear then
      let all := linearAll c subject count fuel 0 none []
      if sticky && limit != some 1 then chained all else all
    else
      let k := subject.indexOf start
      backtrackAll c subject count sticky fuel k k []
  found.map subject.toUnits

end Regex

end Script

end Userland
