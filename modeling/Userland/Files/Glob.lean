namespace Userland

/-! # Path patterns

Patterns over slash-separated paths:

* `*` matches any run of characters other than `/`; `?` matches one such character;
* `**` standing alone as a whole component matches any number of components,
  none included (elsewhere it is a plain `*`);
* `[abc]`, `[a-z]`, `[!...]` or `[^...]` match one character of a class or not of it;
* `{one,two}` matches any of its alternatives, which may nest;
* a backslash makes the next character stand for itself.

A pattern is well-formed when every class is closed and not empty, every brace
is matched, and no backslash ends it. Matching walks the pattern and the path
together and, on a mismatch, retries from the last `*` with one more character
taken by it, else from the last `**` with one more component taken by it. An
alternation is tried one choice at a time, each as a fresh walk over the pattern
with that choice in place. A malformed part of the pattern that the walk reaches
makes the match fail as malformed (`none`).
-/

namespace Glob

/-- The character at a position; past the end it reads as U+FFFD, which no path holds. -/
def charAt (p : Array Char) (i : Nat) : Char := p[i]?.getD '\uFFFD'

/-- Position, from `j`, of the `]` that closes a class, skipping escaped characters. -/
def classEnd (p : Array Char) : Nat → Nat → Option Nat
  | 0, _ => none
  | fuel + 1, j =>
    if j < p.size then
      if charAt p j = '\\' then classEnd p fuel (j + 2)
      else if charAt p j = ']' then some j
      else classEnd p fuel (j + 1)
    else none

/-- Scans a pattern from position `i` with `depth` alternations open. -/
def validFrom (p : Array Char) : Nat → Nat → Nat → Bool
  | 0, _, depth => depth == 0
  | fuel + 1, i, depth =>
    if i < p.size then
      let c := charAt p i
      if c = '\\' then
        if i + 1 < p.size then validFrom p fuel (i + 2) depth else false
      else if c = '[' then
        let j := i + 1
        if j ≥ p.size then false
        else
          let j := if charAt p j = '^' || charAt p j = '!' then j + 1 else j
          if j ≥ p.size || charAt p j = ']' then false
          else
            match classEnd p (p.size + 1) j with
            | some k => validFrom p fuel (k + 1) depth
            | none => false
      else if c = '{' then validFrom p fuel (i + 1) (depth + 1)
      else if c = '}' then
        if depth = 0 then false else validFrom p fuel (i + 1) (depth - 1)
      else validFrom p fuel (i + 1) depth
    else depth == 0

/-- Whether the pattern is well-formed. -/
def valid (p : Array Char) : Bool := validFrom p (p.size + 1) 0 0

/-- Whether a text is a well-formed pattern. -/
def validText (s : String) : Bool := valid s.toList.toArray

/-- Position, from `j`, of the brace that closes an alternation, with `depth` open. -/
def braceEnd (p : Array Char) : Nat → Nat → Nat → Option Nat
  | 0, _, _ => none
  | fuel + 1, j, depth =>
    if j < p.size then
      let c := charAt p j
      if c = '\\' then braceEnd p fuel (j + 2) depth
      else if c = '{' then braceEnd p fuel (j + 1) (depth + 1)
      else if c = '}' then
        if depth = 1 then some j else braceEnd p fuel (j + 1) (depth - 1)
      else braceEnd p fuel (j + 1) depth
    else none

/-- Position of the brace that closes the alternation whose choices start at `i`. -/
def closingBrace (p : Array Char) (i : Nat) : Option Nat := braceEnd p (p.size + 1) i 1

/-- Position, from `j` and before `stop`, of the next comma at the top level of an
alternation, with `depth` counting the braces open. -/
def commaFrom (p : Array Char) (stop : Nat) : Nat → Nat → Int → Option Nat
  | 0, _, _ => none
  | fuel + 1, j, depth =>
    if j < stop then
      let c := charAt p j
      if c = '\\' then commaFrom p stop fuel (j + 2) depth
      else if c = '{' then commaFrom p stop fuel (j + 1) (depth + 1)
      else if c = '}' then commaFrom p stop fuel (j + 1) (depth - 1)
      else if c = ',' && depth = 1 then some j
      else commaFrom p stop fuel (j + 1) depth
    else none

/-- The next top-level comma of an alternation between `i` and `stop`. -/
def nextComma (p : Array Char) (i stop : Nat) : Option Nat := commaFrom p stop (p.size + 1) i 1

/-- Position, from `j`, of the next `]` that is not escaped. -/
def closeFrom (p : Array Char) : Nat → Nat → Option Nat
  | 0, _ => none
  | fuel + 1, j =>
    if j < p.size then
      if charAt p j = '\\' then closeFrom p fuel (j + 2)
      else if charAt p j = ']' then some j
      else closeFrom p fuel (j + 1)
    else none

/-- The part of a pattern between two positions. -/
def slice (p : Array Char) (i j : Nat) : Array Char := p.extract i j

/-- The pattern with the alternation that opens at `open_` and closes at `close`
replaced by the choice from `i` to `j`. -/
def choose (p : Array Char) (open_ i j close : Nat) : Array Char :=
  slice p 0 open_ ++ slice p i j ++ slice p (close + 1) p.size

/-- The texts that match the empty path on their own. -/
def emptyMatchers : List (List Char) :=
  [[], ['*'], ['*', '*'], ['/', '*', '*'], ['*', '*', '/'], ['/', '*', '*', '/']]

mutual

/-- Whether what is left of a pattern matches the empty path: one of
`emptyMatchers`, or an alternation with a choice that does. -/
def matchesEmpty : Nat → Array Char → Option Bool
  | 0, _ => some false
  | fuel + 1, p =>
    if emptyMatchers.contains p.toList then some true
    else if charAt p 0 = '{' then
      match closingBrace p 1 with
      | none => none
      | some close => emptyChoices fuel p close 1
    else if valid p then some false else none

/-- Tries the choices of the leading alternation from the one starting at `i`. -/
def emptyChoices : Nat → Array Char → Nat → Nat → Option Bool
  | 0, _, _, _ => some false
  | fuel + 1, p, close, i =>
    match nextComma p i close with
    | some comma =>
      match matchesEmpty fuel (slice p i comma ++ slice p (close + 1) p.size) with
      | some false => emptyChoices fuel p close (comma + 1)
      | r => r
    | none => matchesEmpty fuel (slice p i close ++ slice p (close + 1) p.size)

end

/-- Where a walk through a pattern and a path stands. -/
structure Walk where
  /-- Position in the pattern. -/
  pi : Nat
  /-- Position in the path. -/
  ni : Nat
  /-- Pattern position after the last `**/`, and the path position it took up to. -/
  deep : Option (Nat × Nat)
  /-- Pattern position after the last `*`, and the path position it took up to. -/
  star : Option (Nat × Nat)
  /-- Whether the walk is at the start of a path component. -/
  segStart : Bool

/-- What one move of a walk leads to. -/
inductive Move where
  /-- The walk goes on from here. -/
  | next (w : Walk)
  /-- The match is decided. -/
  | done (r : Option Bool)
  /-- Pattern and path disagree here. -/
  | mismatch (w : Walk)

/-- Whether character `c` is in the class whose members start at `i`, and the
position reached; `last` is the member before, which may start a range. -/
def classScan (p : Array Char) (c : Char) : Nat → Nat → Option Char → Bool × Nat
  | 0, i, _ => (false, i)
  | fuel + 1, i, last =>
    if i < p.size && charAt p i ≠ ']' then
      let r := charAt p i
      let i := i + 1
      let range : Option Char := match last with
        | some lo => if r = '-' && i < p.size && charAt p i ≠ ']' then some lo else none
        | none => none
      match range with
      | some lo =>
        let i := if charAt p i = '\\' then i + 1 else i
        let hi := charAt p i
        let i := if i < p.size then i + 1 else i
        if lo ≤ c && c ≤ hi then (true, i) else classScan p c fuel i none
      | none =>
        let (r, i) := if r = '\\' then (charAt p i, if i < p.size then i + 1 else i) else (r, i)
        if r = c then (true, i) else classScan p c fuel i (some r)
    else (false, i)

/-- The first position from `k` on that holds a slash. -/
def slashFrom (n : Array Char) (k : Nat) : Option Nat :=
  ((List.range (n.size - k)).map (k + ·)).find? (fun j => charAt n j = '/')

mutual

/-- Matches a pattern against a path from a walk position. -/
def walk : Nat → Array Char → Array Char → Walk → Option Bool
  | 0, _, _, _ => some false
  | fuel + 1, p, n, w =>
    if w.ni < n.size then
      match step fuel p n w with
      | .next w' => walk fuel p n w'
      | .done r => r
      | .mismatch w' => retry fuel p n w'
    else matchesEmpty (p.size + 1) (slice p w.pi p.size)

/-- On a mismatch: give the last `*` one more character, else the last `**` one
more component, else fail. -/
def retry : Nat → Array Char → Array Char → Walk → Option Bool
  | 0, _, _, _ => some false
  | fuel + 1, p, n, w =>
    match w.star with
    | some (sp, sn) =>
      if charAt n sn ≠ '/' then
        walk fuel p n { w with pi := sp, ni := sn + 1, star := some (sp, sn + 1), segStart := false }
      else deepRetry fuel p n w
    | none => deepRetry fuel p n w

/-- Gives the last `**` one more component, else fails. -/
def deepRetry : Nat → Array Char → Array Char → Walk → Option Bool
  | 0, _, _, _ => some false
  | fuel + 1, p, n, w =>
    let stuck : Option Bool :=
      if w.pi < p.size && !valid (slice p w.pi p.size) then none else some false
    match w.deep with
    | some (dp, dn) =>
      match slashFrom n dn with
      | some k => walk fuel p n { w with pi := dp, ni := k + 1, deep := some (dp, k + 1), segStart := true }
      | none => stuck
    | none => stuck

/-- One move of the walk at the pattern character under it. -/
def step : Nat → Array Char → Array Char → Walk → Move
  | 0, _, _, w => .mismatch w
  | fuel + 1, p, n, w =>
    if w.pi < p.size then
      let c := charAt p w.pi
      let here := charAt n w.ni
      if c = '*' then
        let pi := w.pi + 1
        if charAt p pi = '*' && pi < p.size then
          let pi := pi + 1
          if w.segStart && pi ≥ p.size then .done (some true)
          else if w.segStart && charAt p pi = '/' && pi < p.size then
            .next { w with pi := pi + 1, deep := some (pi + 1, w.ni), star := none }
          else .next { w with pi := pi, star := some (pi, w.ni), segStart := false }
        else .next { w with pi := pi, star := some (pi, w.ni), segStart := false }
      else if c = '?' then
        if here = '/' then .mismatch { w with segStart := false }
        else .next { w with pi := w.pi + 1, ni := w.ni + 1, segStart := false }
      else if c = '[' then
        let i := w.pi + 1
        if i ≥ p.size then .done none
        else
          let negate := charAt p i = '!' || charAt p i = '^'
          let i := if negate then i + 1 else i
          if i ≥ p.size || charAt p i = ']' then .done none
          else
            let (matched, i) := classScan p here (p.size + 1) i none
            if matched == negate then
              if i ≥ p.size then .done none else .mismatch { w with pi := i, segStart := false }
            else
              match closeFrom p (p.size + 1) i with
              | none => .done none
              | some k => .next { w with pi := k + 1, ni := w.ni + 1, segStart := false }
      else if c = '{' then
        match closingBrace p (w.pi + 1) with
        | none => .done none
        | some close => .done (choices fuel p n w close (w.pi + 1))
      else if c = '\\' && w.pi + 1 ≥ p.size then .done none
      else
        let (pi, lit) := if c = '\\' then (w.pi + 1, charAt p (w.pi + 1)) else (w.pi, c)
        if lit = here then .next { w with pi := pi + 1, ni := w.ni + 1, segStart := lit = '/' }
        else .mismatch w
    else .mismatch w

/-- Tries the choices of the alternation at `w.pi`, which closes at `close`, from
the one starting at `i`, each with a fresh walk over the pattern that has it in place. -/
def choices : Nat → Array Char → Array Char → Walk → Nat → Nat → Option Bool
  | 0, _, _, _, _, _ => some false
  | fuel + 1, p, n, w, close, i =>
    match nextComma p i close with
    | some comma =>
      match walk fuel (choose p w.pi i comma close) n { w with segStart := true } with
      | some false => choices fuel p n w close (comma + 1)
      | r => r
    | none => walk fuel (choose p w.pi i close close) n { w with segStart := true }

end

/-- Whether a path matches a pattern, or `none` when the pattern is malformed
where matching reaches. -/
def match? (pattern path : String) : Option Bool :=
  let p := pattern.toList.toArray
  let n := path.toList.toArray
  walk (Nat.pow (p.size + n.size + 4) 3) p n ⟨0, 0, none, none, true⟩

end Glob

end Userland
