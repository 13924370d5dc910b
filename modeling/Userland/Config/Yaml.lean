import Userland.Decimal.Shortest

namespace Userland

/-! # YAML documents

A reader for the part of YAML that configuration files use: block mappings
(with explicit `?` keys) and sequences laid out by indentation, flow
sequences `[a, b]` and mappings `{a: 1}` (which may run over several lines),
plain scalars (which may run over several lines, folded), single-quoted and
double-quoted scalars, literal `|` and folded `>` block scalars with their
chomping and indentation indicators, anchors `&a` and aliases `*a`, tags
`!t`, and comments. A stream may hold several documents, and every one of
them must read.

Scalars are kept as written; a plain scalar's type (null, boolean, integer,
float or text) is settled when it is read into a value.

The reader works in passes. The text is first cut into documents of lines,
each line with its indentation and its content without the comment; then the
nodes are read from the lines, a block node taking the lines indented deeper
than its parent; then each alias is replaced by the node its anchor names.
Last, every document is made into a value as a decoder that can hold anything
makes it, which finds the merges of what is not a mapping and the tagged
scalars that do not read as their tag says. Every recursion is bounded by
fuel that the number of lines and characters makes ample.
-/

namespace Yaml

/-- A node of a YAML document. -/
inductive Node where
  /-- A plain scalar, typed when read; the empty text is null. -/
  | plain (text : String)
  /-- A quoted or block scalar: always text. -/
  | quoted (text : String)
  | seq (items : List Node)
  /-- A mapping, its keys nodes too, in the order written. -/
  | map (entries : List (Node × Node))
  /-- A node with a tag, `!name` or `!!name`. -/
  | tagged (tag : String) (node : Node)
  /-- A node with an anchor, which later aliases name. -/
  | anchor (name : String) (node : Node)
  /-- An alias of the node an anchor names. -/
  | alias (name : String)
  deriving Inhabited, Repr

/-- Whether a key is the merge key `<<`, which brings in the entries of other mappings. -/
def Node.isMergeKey : Node → Bool
  | .plain "<<" => true
  | _ => false

/-- A scalar key's text, which no other key of its mapping may have. -/
def Node.keyText? : Node → Option String
  | .plain s => some s
  | .quoted s => some s
  | _ => none

/-- A line with content: its number (from zero), indentation, content without
indentation and comment, and the whole line as written. -/
structure Line where
  number : Nat
  indent : Nat
  text : List Char
  raw : List Char
  deriving Inhabited

/-- Reading a document: the value, or why the document is not YAML. -/
abbrev Parse := Except String

/-- The error of a flow collection or quoted scalar that a line leaves open. -/
def unterminated : String := "unterminated"

/-- Drops blanks and tabs at the end. -/
def trimEnd (cs : List Char) : List Char :=
  (cs.reverse.dropWhile fun c => c = ' ' || c = '\t').reverse

/-- Drops blanks and tabs at the front. -/
def trimStart (cs : List Char) : List Char := cs.dropWhile fun c => c = ' ' || c = '\t'

/-- The content of a line before its comment: a `#` at the start or after a
blank, outside quotes, begins a comment. A quote opens only where a scalar can
begin. -/
def stripComment (cs : List Char) : List Char :=
  go cs none ' ' []
where
  go : List Char → Option Char → Char → List Char → List Char
    | [], _, _, acc => acc.reverse
    | '\'' :: '\'' :: more, some '\'', _, acc => go more (some '\'') '\'' ('\'' :: '\'' :: acc)
    | '\\' :: d :: more, some '"', _, acc => go more (some '"') d (d :: '\\' :: acc)
    | c :: rest, some q, _, acc =>
      if c = q then go rest none c (c :: acc) else go rest (some q) c (c :: acc)
    | c :: rest, none, prev, acc =>
      if c = '#' && (prev = ' ' || prev = '\t') then acc.reverse
      else if (c = '"' || c = '\'') && " \t[\x7b,:-".toList.contains prev then go rest (some c) c (c :: acc)
      else go rest none c (c :: acc)

/-- The lines of a stream as written, each without a final carriage return;
the empty piece after a final line break is no line. -/
def rawLines (text : String) : Array (List Char) :=
  let pieces := (text.splitOn "\n").map fun l =>
    let cs := l.toList
    if cs.getLast? == some '\r' then cs.dropLast else cs
  (if pieces.getLast? == some [] then pieces.dropLast else pieces).toArray

/-- Whether a line's content starts a document: `---` alone or before a blank. -/
def isDocumentStart (content : List Char) : Bool :=
  content == "---".toList || content.take 4 == "--- ".toList || content.take 4 == "---\t".toList

/-- The documents read so far with the current one closed: it counts when it
was started by `---` or holds a line. -/
def closeDocument (started : Bool) (acc : List Line) (docs : List (List Line)) : List (List Line) :=
  if started || !acc.isEmpty then acc.reverse :: docs else docs

/-- Cuts a stream into its documents, each the list of its lines with content
(a document started by `---` may hold none). A line `---` starts a document,
and what follows it on its line is the document's first line; a line `...`
ends one; directives before a document are skipped. Indentation with a tab
is an error. -/
def documents (raws : List (List Char)) : Parse (List (List Line)) :=
  go raws 0 false [] []
where
  go : List (List Char) → Nat → Bool → List Line → List (List Line) → Parse (List (List Line))
    | [], _, started, acc, docs => .ok (closeDocument started acc docs).reverse
    | raw :: rest, n, started, acc, docs =>
      let indent := (raw.takeWhile (· = ' ')).length
      let afterSpaces := raw.drop indent
      let content := trimEnd (stripComment afterSpaces)
      if content.isEmpty then go rest (n + 1) started acc docs
      else if afterSpaces.head? == some '\t' then .error "found a tab character that violates indentation"
      else if indent = 0 && isDocumentStart content then
        let inline := trimStart (content.drop 3)
        go rest (n + 1) true (if inline.isEmpty then [] else [⟨n, 0, inline, raw⟩])
          (closeDocument started acc docs)
      else if indent = 0 && content == "...".toList then go rest (n + 1) false [] (closeDocument started acc docs)
      else if indent = 0 && content.head? == some '%' && acc.isEmpty && !started then
        go rest (n + 1) started acc docs
      else go rest (n + 1) started (⟨n, indent, content, raw⟩ :: acc) docs

/-- Whether a line is an item of a block sequence. -/
def isSeqItem (t : List Char) : Bool :=
  t == ['-'] || t.take 2 == ['-', ' '] || t.take 2 == ['-', '\t']

/-- The value of a hexadecimal digit. -/
def hexDigit (c : Char) : Option Nat :=
  if '0' ≤ c && c ≤ '9' then some (c.toNat - '0'.toNat)
  else if 'a' ≤ c && c ≤ 'f' then some (c.toNat - 'a'.toNat + 10)
  else if 'A' ≤ c && c ≤ 'F' then some (c.toNat - 'A'.toNat + 10)
  else none

/-- The value of exactly `n` hexadecimal digits at the front, and what follows. -/
def hexRun (cs : List Char) (n : Nat) : Option (Nat × List Char) :=
  let ds := cs.take n
  if ds.length < n then none
  else (ds.mapM hexDigit).map fun vs => (vs.foldl (fun a v => a * 16 + v) 0, cs.drop n)

/-- Reads a double-quoted scalar after its opening quote: its text and what follows the closing quote. -/
def doubleQuoted (cs : List Char) : Parse (String × List Char) :=
  go cs [] cs.length
where
  go : List Char → List Char → Nat → Parse (String × List Char)
    | _, _, 0 => .error unterminated
    | [], _, _ => .error unterminated
    | '"' :: rest, acc, _ => .ok (String.ofList acc.reverse, rest)
    | '\\' :: rest, acc, fuel + 1 =>
      match rest with
      | [] => .error unterminated
      | e :: more =>
        let simple : Option Char := match e with
          | 'n' => some '\n' | 't' => some '\t' | 'r' => some '\r' | '0' => some (Char.ofNat 0)
          | 'a' => some (Char.ofNat 7) | 'b' => some (Char.ofNat 8) | 'e' => some (Char.ofNat 27)
          | 'f' => some (Char.ofNat 12) | 'v' => some (Char.ofNat 11) | '"' => some '"'
          | '\\' => some '\\' | '/' => some '/' | ' ' => some ' ' | '\t' => some '\t'
          | 'N' => some (Char.ofNat 0x85) | '_' => some (Char.ofNat 0xA0)
          | 'L' => some (Char.ofNat 0x2028) | 'P' => some (Char.ofNat 0x2029)
          | _ => none
        match simple with
        | some c => go more (c :: acc) fuel
        | none =>
          let width := match e with
            | 'x' => 2 | 'u' => 4 | 'U' => 8 | _ => 0
          if width = 0 then .error ("found unknown escape character " ++ e.toString)
          else match hexRun more width with
            | some (v, after) => go after (Char.ofNat v :: acc) fuel
            | none => .error "invalid escape"
    | c :: rest, acc, fuel + 1 => go rest (c :: acc) fuel

/-- Reads a single-quoted scalar after its opening quote. -/
def singleQuoted (cs : List Char) : Parse (String × List Char) :=
  go cs [] cs.length
where
  go : List Char → List Char → Nat → Parse (String × List Char)
    | _, _, 0 => .error unterminated
    | [], _, _ => .error unterminated
    | '\'' :: '\'' :: rest, acc, fuel + 1 => go rest ('\'' :: acc) fuel
    | '\'' :: rest, acc, _ => .ok (String.ofList acc.reverse, rest)
    | c :: rest, acc, fuel + 1 => go rest (c :: acc) fuel

/-- Whether a colon at the front, in a flow collection, separates a key from its value. -/
def flowColon : List Char → Bool
  | ':' :: c :: _ => c = ' ' || c = ',' || c = ']' || c = '}' || c = '\t'
  | [':'] => true
  | _ => false

/-- Reads a plain scalar in a flow collection: up to a flow indicator or a separating colon. -/
def flowPlain (cs : List Char) : String × List Char :=
  go cs [] cs.length
where
  go : List Char → List Char → Nat → String × List Char
    | cs, acc, 0 => (String.ofList (trimEnd acc.reverse), cs)
    | [], acc, _ => (String.ofList (trimEnd acc.reverse), [])
    | c :: rest, acc, fuel + 1 =>
      if c = ',' || c = '[' || c = ']' || c = '{' || c = '}' || flowColon (c :: rest) then
        (String.ofList (trimEnd acc.reverse), c :: rest)
      else go rest (c :: acc) fuel

/-- Whether a character is a flow indicator, which ends a word in a flow collection. -/
def isFlowIndicator (c : Char) : Bool := c = ',' || c = '[' || c = ']' || c = '{' || c = '}'

/-- The word of an anchor, alias or tag at the front: up to a blank, and in a
flow collection up to a flow indicator too. -/
def word (inFlow : Bool) (cs : List Char) : List Char :=
  cs.takeWhile fun c => c ≠ ' ' && c ≠ '\t' && !(inFlow && isFlowIndicator c)

/-- The anchor and the tag at the front of a value, in either order, each at
most once, and what follows them. -/
def properties (inFlow : Bool) (cs : List Char) : Parse (Option String × Option String × List Char) :=
  go cs none none 3
where
  go : List Char → Option String → Option String → Nat → Parse (Option String × Option String × List Char)
    | cs, a, t, 0 => .ok (a, t, cs)
    | cs, a, t, fuel + 1 =>
      match cs with
      | '&' :: more =>
        let w := word inFlow more
        if a.isSome then .error "an anchor is already given"
        else if w.isEmpty then .error "anchor name is empty"
        else go (trimStart (more.drop w.length)) (some (String.ofList w)) t fuel
      | '!' :: _ =>
        let w := word inFlow cs
        if t.isSome then .error "a tag is already given"
        else go (trimStart (cs.drop w.length)) a (some (String.ofList w)) fuel
      | _ => .ok (a, t, cs)

/-- The tags whose node is a scalar. -/
def scalarTags : List String := ["!!int", "!!float", "!!str", "!!binary", "!!timestamp", "!!bool", "!!null"]

/-- A node under its anchor and tag. A scalar's tag needs a scalar, `!!map`
a mapping and `!!seq` a sequence, or nothing at all; other tags take anything. -/
def decorate (anchor tag : Option String) (node : Node) : Parse Node := do
  let node ← match tag with
    | none => pure node
    | some t =>
      let fits : Bool :=
        if scalarTags.contains t then
          match node with
          | .seq _ | .map _ => false
          | _ => true
        else if t = "!!map" || t = "!!omap" then
          match node with
          | .map _ | .plain "" => true
          | _ => false
        else if t = "!!seq" || t = "!!set" then
          match node with
          | .seq _ | .plain "" => true
          | _ => false
        else true
      if fits then pure (Node.tagged t node) else throw ("the value does not fit the tag " ++ t)
  return match anchor with
    | some a => .anchor a node
    | none => node

/-- Whether a character cannot start a plain scalar, being reserved. -/
def isReserved (c : Char) : Bool := c = '@' || c = Char.ofNat 96

/-- A mapping's entries with one more, whose scalar key may not be there already. -/
def addEntry (acc : List (Node × Node)) (key value : Node) : Parse (List (Node × Node)) :=
  match key.keyText? with
  | some k =>
    if acc.any fun (k', _) => k'.keyText? == some k then .error ("mapping key " ++ k ++ " already defined")
    else .ok (acc ++ [(key, value)])
  | none => .ok (acc ++ [(key, value)])

mutual

/-- Reads a node of a flow collection: its value and what follows it. -/
def flowNode : Nat → List Char → Parse (Node × List Char)
  | 0, _ => .error "nesting too deep"
  | fuel + 1, cs =>
    match trimStart cs with
    | '[' :: rest => do
      let (items, rest) ← flowItems fuel (trimStart rest) []
      return (.seq items, rest)
    | '{' :: rest => do
      let (entries, rest) ← flowEntries fuel (trimStart rest) []
      return (.map entries, rest)
    | '"' :: rest => do
      let (s, rest) ← doubleQuoted rest
      return (.quoted s, rest)
    | '\'' :: rest => do
      let (s, rest) ← singleQuoted rest
      return (.quoted s, rest)
    | '*' :: rest =>
      let w := word true rest
      if w.isEmpty then .error "alias name is empty" else .ok (.alias (String.ofList w), rest.drop w.length)
    | [] => .error unterminated
    | c :: rest =>
      if c = '&' || c = '!' then do
        let (a, t, more) ← properties true (c :: rest)
        let (node, more) ← match more with
          | [] => .error unterminated
          | d :: _ =>
            if d = ',' || d = ']' || d = '}' || flowColon more then pure (Node.plain "", more)
            else flowNode fuel more
        return (← decorate a t node, more)
      else if isReserved c then .error ("the character " ++ c.toString ++ " is reserved")
      else
        let (s, rest) := flowPlain (c :: rest)
        return (.plain s, rest)

/-- Reads the items of a flow sequence up to its closing bracket. -/
def flowItems : Nat → List Char → List Node → Parse (List Node × List Char)
  | 0, _, _ => .error "nesting too deep"
  | _, [], _ => .error unterminated
  | _, ']' :: rest, acc => .ok (acc.reverse, rest)
  | fuel + 1, cs, acc => do
    let (item, rest) ← flowNode fuel cs
    let (item, rest) ← match trimStart rest with
      | ':' :: more => do
        match item with
        | .seq _ | .map _ => .error "a collection cannot be a key"
        | k =>
          match trimStart more with
          | c :: _ =>
            if c = ',' || c = ']' then pure (Node.map [(k, .plain "")], trimStart more)
            else do
              let (v, after) ← flowNode fuel more
              pure (Node.map [(k, v)], after)
          | [] => .error unterminated
      | r => pure (item, r)
    match trimStart rest with
    | ',' :: more => flowItems fuel (trimStart more) (item :: acc)
    | ']' :: more => .ok ((item :: acc).reverse, more)
    | [] => .error unterminated
    | _ => .error "expected , or ] in a flow sequence"

/-- Reads the entries of a flow mapping up to its closing brace. -/
def flowEntries : Nat → List Char → List (Node × Node) → Parse (List (Node × Node) × List Char)
  | 0, _, _ => .error "nesting too deep"
  | _, [], _ => .error unterminated
  | _, '}' :: rest, acc => .ok (acc, rest)
  | fuel + 1, cs, acc => do
    let (key, rest) ← flowNode fuel cs
    match key with
    | .seq _ | .map _ => .error "a collection cannot be a key"
    | _ => pure ()
    let (value, rest) ← match trimStart rest with
      | ':' :: more =>
        match trimStart more with
        | c :: _ =>
          if c = ',' || c = '}' then pure (Node.plain "", trimStart more)
          else flowNode fuel more
        | [] => .error unterminated
      | r => pure (Node.plain "", r)
    let acc ← addEntry acc key value
    match trimStart rest with
    | ',' :: more => flowEntries fuel (trimStart more) acc
    | '}' :: more => .ok (acc, more)
    | [] => .error unterminated
    | _ => .error "expected , or \x7d in a flow mapping"

end

/-- Splits a block line into a mapping key and the text after its colon, if
it is a key line: a quoted key, or a plain one, followed by a colon and a
blank or the end of the line. -/
def splitKey (t : List Char) : Option (Node × List Char) :=
  let afterKey (k : Node) (rest : List Char) : Option (Node × List Char) :=
    match trimStart rest with
    | [':'] => some (k, [])
    | ':' :: c :: more => if c = ' ' || c = '\t' then some (k, trimStart more) else none
    | _ => none
  match t with
  | '"' :: rest =>
    match doubleQuoted rest with
    | .ok (k, after) => afterKey (.quoted k) after
    | .error _ => none
  | '\'' :: rest =>
    match singleQuoted rest with
    | .ok (k, after) => afterKey (.quoted k) after
    | .error _ => none
  | c :: _ =>
    if c = '[' || c = '{' || c = '|' || c = '>' || c = '*' || c = '&' || c = '!' then none
    else (scan t [] t.length).map fun (k, rest) => (.plain k, rest)
  | [] => none
where
  scan : List Char → List Char → Nat → Option (String × List Char)
    | _, _, 0 => none
    | [], _, _ => none
    | [':'], acc, _ => some (String.ofList (trimEnd acc.reverse), [])
    | ':' :: c :: rest, acc, fuel + 1 =>
      if c = ' ' || c = '\t' then some (String.ofList (trimEnd acc.reverse), trimStart rest)
      else scan (c :: rest) (':' :: acc) fuel
    | c :: rest, acc, fuel + 1 => scan rest (c :: acc) fuel

/-- Whether a plain scalar written in a block holds a colon and blank, which
would make it a mapping where none may be. -/
def hasMappingColon (t : List Char) : Bool :=
  (splitKey.scan t [] t.length).isSome

/-- Whether a line starts with an indicator, `?` or `:`, alone or before a blank. -/
def startsWithIndicator (ind : Char) (t : List Char) : Bool :=
  t == [ind] || t.take 2 == [ind, ' '] || t.take 2 == [ind, '\t']

/-- Whether a line is a line of a block mapping: a key line, or an explicit `?` key. -/
def isMappingLine (t : List Char) : Bool := (splitKey t).isSome || startsWithIndicator '?' t

/-- Reads a block scalar's header, `|` or `>` with at most one indentation
digit and one chomping sign in either order: whether it folds, its chomping
sign (`-` strips, `+` keeps, none clips), and its indentation, if given. -/
def blockHeader (header : List Char) : Parse (Bool × Option Char × Option Nat) :=
  let chompOf (o : Char) : Option Char := if o = '+' || o = '-' then some o else none
  let digitOf (o : Char) : Option Nat := if '1' ≤ o && o ≤ '9' then some (o.toNat - '0'.toNat) else none
  let bad : Parse (Bool × Option Char × Option Nat) := .error "invalid block scalar header"
  match header with
  | c :: opts =>
    let folded := c = '>'
    match opts with
    | [] => .ok (folded, none, none)
    | [a] =>
      match chompOf a, digitOf a with
      | some ch, _ => .ok (folded, some ch, none)
      | _, some d => .ok (folded, none, some d)
      | _, _ => bad
    | [a, b] =>
      match chompOf a, digitOf b, digitOf a, chompOf b with
      | some ch, some d, _, _ => .ok (folded, some ch, some d)
      | _, _, some d, some ch => .ok (folded, some ch, some d)
      | _, _, _, _ => bad
    | _ => bad
  | [] => bad

/-- Whether a line holds only blanks. -/
def isBlankLine (raw : List Char) : Bool := raw.all fun c => c = ' ' || c = '\t'

/-- The indentation of a line: its leading spaces. -/
def indentOf (raw : List Char) : Nat := (raw.takeWhile (· = ' ')).length

/-- Line breaks, `k` of them. -/
def breaks (k : Nat) : String := String.ofList (List.replicate k '\n')

/-- The text of a block scalar from its lines, each blank (none) or with its
text past the indentation. A literal scalar keeps every line break; a folded
one turns a single break between two lines of text into a blank, except next
to a line that starts with a blank. Then the last break is clipped to one,
stripped or kept with the blank lines after it. -/
def blockText (folded : Bool) (chomp : Option Char) (items : List (Option (List Char))) : String :=
  let (groups, trailing) := items.foldl (fun (acc : List (Nat × List Char) × Nat) it =>
    match it with
    | none => (acc.1, acc.2 + 1)
    | some t => (acc.1 ++ [(acc.2, t)], 0)) ([], 0)
  let spaced (t : List Char) : Bool := t.head? == some ' ' || t.head? == some '\t'
  let (_, joined) := groups.foldl (fun (acc : Option (List Char) × String) (k, t) =>
    match acc.1 with
    | none => (some t, breaks k ++ String.ofList t)
    | some prev =>
      let sep :=
        if !folded || spaced prev || spaced t then breaks (k + 1)
        else if k = 0 then " " else breaks k
      (some t, acc.2 ++ sep ++ String.ofList t)) (none, "")
  if groups.isEmpty then (if chomp == some '+' then breaks trailing else "")
  else match chomp with
    | some '-' => joined
    | some '+' => joined ++ breaks (trailing + 1)
    | _ => joined ++ "\n"

/-- Reads a block scalar whose header is on line `number`, as a child of a
node at indentation `parent`. Its indentation is the parent's plus the
header's digit, or else that of its first line that is not blank, which must
be deeper than the parent; its lines are those after the header that are
blank or indented at least that much. The lines it takes are dropped from
`rest`. -/
def blockScalar (raws : Array (List Char)) (header : List Char) (parent : Int) (number : Nat)
    (rest : List Line) : Parse (Node × List Line) := do
  let (folded, chomp, indicator) ← blockHeader header
  let following := raws.toList.drop (number + 1)
  let width : Nat := match indicator with
    | some m => (parent + m).toNat
    | none => ((following.find? fun r => !isBlankLine r).map indentOf).getD 0
  let admits (r : List Char) : Bool := isBlankLine r || (indentOf r ≥ width && (width : Int) > parent)
  let body := following.takeWhile admits
  let items := body.map fun r => if isBlankLine r then none else some (r.drop width)
  return (.quoted (blockText folded chomp items), rest.dropWhile (·.number ≤ number + body.length))

/-- Folds the lines that continue a plain scalar into it: those after it
indented deeper than `parent`. A line break becomes a blank, or the line
breaks of the empty lines between two lines when there are any. A line that
continues a scalar may not hold a mapping's colon. -/
def continuePlain (parent : Int) : Nat → List Char → List Line → Parse (List Char × List Line)
  | _, acc, [] => .ok (acc, [])
  | last, acc, n :: more =>
    if (n.indent : Int) > parent then
      if hasMappingColon n.text then .error "mapping value is not allowed in this context"
      else
        let gap := n.number - last - 1
        continuePlain parent n.number (acc ++ (if gap = 0 then [' '] else List.replicate gap '\n') ++ n.text) more
    else .ok (acc, n :: more)

mutual

/-- Reads the block node whose lines are indented deeper than `parent`, from
the first line on; a null node when that line is not. -/
def block : Nat → Array (List Char) → Int → List Line → Parse (Node × List Line)
  | 0, _, _, _ => .error "document too deep"
  | _, _, _, [] => .ok (.plain "", [])
  | fuel + 1, raws, parent, l :: rest =>
    if (l.indent : Int) ≤ parent then .ok (.plain "", l :: rest)
    else entry fuel raws parent l l.text rest

/-- Reads the node that starts at the indentation of line `l`, with the text
from there: a block sequence or mapping at that column, or a value whose
further lines are indented deeper than `parent`. -/
def entry : Nat → Array (List Char) → Int → Line → List Char → List Line → Parse (Node × List Line)
  | 0, _, _, _, _, _ => .error "document too deep"
  | fuel + 1, raws, parent, l, text, rest =>
    let here := { l with text := text }
    if isSeqItem text then do
      let (items, rest) ← sequence fuel raws l.indent (here :: rest)
      return (.seq items, rest)
    else if isMappingLine text then do
      let (entries, rest) ← mapping fuel raws l.indent (here :: rest) []
      return (.map entries, rest)
    else inlineValue fuel raws parent l text rest

/-- Reads a value written on a line (after a key's colon, after a sequence
item's dash, or alone) whose further lines are indented deeper than `parent`.
An anchor or tag alone on the line belongs to the block node below it; flow
collections and quoted scalars left open take the following deeper lines,
and plain scalars the deeper lines that continue them. A dash, a reserved
character or a mapping's colon cannot start or stand in such a value. -/
def inlineValue : Nat → Array (List Char) → Int → Line → List Char → List Line → Parse (Node × List Line)
  | 0, _, _, _, _, _ => .error "document too deep"
  | fuel + 1, raws, parent, line, text, rest =>
    match text with
    | [] => .ok (.plain "", rest)
    | c :: more =>
      if c = '&' || c = '!' then do
        let (a, t, body) ← properties false text
        let (node, rest) ← if body.isEmpty then block fuel raws parent rest
          else inlineValue fuel raws parent line body rest
        return (← decorate a t node, rest)
      else if c = '*' then
        let w := word false more
        if w.isEmpty then .error "alias name is empty"
        else if !(trimStart (more.drop w.length)).isEmpty then .error "unexpected text after an alias"
        else .ok (.alias (String.ofList w), rest)
      else if c = '[' || c = '{' || c = '"' || c = '\'' then
        match flowNode (text.length + 1) text with
        | .ok (node, after) =>
          if (trimStart after).isEmpty then .ok (node, rest)
          else .error "unexpected text after a value"
        | .error e =>
          if e == unterminated then
            match rest with
            | next :: others =>
              if (next.indent : Int) > parent then inlineValue fuel raws parent next (text ++ ' ' :: next.text) others
              else .error e
            | [] => .error e
          else .error e
      else if c = '|' || c = '>' then blockScalar raws text parent line.number rest
      else if isReserved c then .error ("the character " ++ c.toString ++ " is reserved")
      else if c = ']' || c = '}' then .error ("unexpected " ++ c.toString)
      else if isSeqItem text then .error "block sequence entries are not allowed in this context"
      else if hasMappingColon text then .error "mapping value is not allowed in this context"
      else do
        let (cs, rest) ← continuePlain parent line.number text rest
        return (.plain (String.ofList cs), rest)

/-- Reads the items of a block sequence at indentation `ind`. -/
def sequence : Nat → Array (List Char) → Nat → List Line → Parse (List Node × List Line)
  | 0, _, _, _ => .error "document too deep"
  | _, _, _, [] => .ok ([], [])
  | fuel + 1, raws, ind, l :: rest =>
    if l.indent = ind && isSeqItem l.text then do
      let afterDash := l.text.drop 1
      let itemText := trimStart afterDash
      let col := ind + 1 + (afterDash.length - itemText.length)
      let (item, rest) ← if itemText.isEmpty then block fuel raws ind rest
        else entry fuel raws ind { l with indent := col } itemText rest
      let (more, rest) ← sequence fuel raws ind rest
      return (item :: more, rest)
    else .ok ([], l :: rest)

/-- Reads the node after an indicator, `?` or `:`, that starts line `l` of a
mapping at indentation `ind`: on the same line, or on the lines below. -/
def indicated : Nat → Array (List Char) → Nat → Line → List Line → Parse (Node × List Line)
  | 0, _, _, _, _ => .error "document too deep"
  | fuel + 1, raws, ind, l, rest =>
    let after := l.text.drop 1
    let text := trimStart after
    if text.isEmpty then block fuel raws ind rest
    else entry fuel raws ind { l with indent := ind + 1 + (after.length - text.length) } text rest

/-- Reads the entries of a block mapping at indentation `ind`. A `?` line
gives an explicit key, and a `:` line at the same indentation right after
it the key's value. -/
def mapping : Nat → Array (List Char) → Nat → List Line → List (Node × Node) →
    Parse (List (Node × Node) × List Line)
  | 0, _, _, _, _ => .error "document too deep"
  | _, _, _, [], acc => .ok (acc, [])
  | fuel + 1, raws, ind, l :: rest, acc =>
    if l.indent < ind then .ok (acc, l :: rest)
    else if l.indent > ind then .error "mapping value is not allowed in this context"
    else if startsWithIndicator '?' l.text then do
      let (key, rest) ← indicated fuel raws ind l rest
      let (value, rest) ← match rest with
        | n :: more =>
          if n.indent = ind && startsWithIndicator ':' n.text then indicated fuel raws ind n more
          else pure (Node.plain "", rest)
        | [] => pure (Node.plain "", [])
      let acc ← addEntry acc key value
      mapping fuel raws ind rest acc
    else match splitKey l.text with
      | none => .error "unexpected content in a mapping"
      | some (key, valueText) => do
        let (value, rest) ← if valueText.isEmpty then
            match rest with
            | n :: _ =>
              if n.indent > ind then block fuel raws ind rest
              else if n.indent = ind && isSeqItem n.text then do
                let (items, rest) ← sequence fuel raws ind rest
                pure (Node.seq items, rest)
              else pure (Node.plain "", rest)
            | [] => pure (Node.plain "", [])
          else inlineValue fuel raws ind l valueText rest
        let acc ← addEntry acc key value
        mapping fuel raws ind rest acc

end

/-- Reads one document's lines: its root node, none when it has no lines. -/
def document (raws : Array (List Char)) (ls : List Line) : Parse (Option Node) := do
  match ls with
  | [] => return none
  | _ =>
    let fuel := 2 * (ls.length + (ls.map (·.text.length)).foldr (· + ·) 0) + 8
    let (node, rest) ← block fuel raws (-1) ls
    if rest.isEmpty then return some node
    else .error "unexpected content after the document"

/-- Replaces each alias by the node its anchor names, in document order: an
anchor names its node once the node is read, and a later anchor of the same
name takes over. An alias with no anchor before it is an error. -/
def resolveAliases : Nat → Node → StateT (List (String × Node)) (Except String) Node
  | 0, _ => throw "document too deep"
  | fuel + 1, node =>
    match node with
    | .plain _ | .quoted _ => pure node
    | .alias name => do
      match (← get).lookup name with
      | some n => pure n
      | none => throw ("could not find alias " ++ name)
    | .anchor name n => do
      let n ← resolveAliases fuel n
      modify ((name, n) :: ·)
      pure n
    | .tagged t n => return .tagged t (← resolveAliases fuel n)
    | .seq items => return .seq (← items.mapM (resolveAliases fuel))
    | .map entries => return .map (← entries.mapM fun (k, v) => do
        let k ← resolveAliases fuel k
        let v ← resolveAliases fuel v
        return (k, v))

/-! ## Typing scalars -/

/-- What a plain scalar stands for. -/
inductive Scalar where
  | null
  | bool (b : Bool)
  | int (n : Int)
  /-- A float, an infinity or NaN. -/
  | float (x : Float)
  | text (s : String)
  deriving Inhabited

/-- Digits in a base, as a number; none when empty or when a digit does not belong. -/
def digitsIn (base : Nat) (cs : List Char) : Option Nat :=
  if cs.isEmpty then none
  else cs.foldlM (fun acc c => (hexDigit c).bind fun d => if d < base then some (acc * base + d) else none) 0

/-- The double nearest `m × 10^e`: infinite past the largest double, zero below the smallest. -/
def decimal (m : Nat) (e : Int) : Float :=
  if m = 0 then 0
  else
    let top := e + (toString m).length
    if top > 310 then 1.0 / 0.0
    else if top < -330 then 0
    else if e ≥ 0 then Float.ofScientific m false e.toNat
    else Float.ofScientific m true (-e).toNat

/-- Reads a decimal float: a sign, digits with at most one point (and at least
one digit), and an optional exponent; or an infinity by name after an
optional sign, or NaN by name. Past the largest double it is infinite. -/
def parseFloat? (cs : List Char) : Option Float :=
  let (signed, neg, body) : Bool × Bool × List Char := match cs with
    | '-' :: r => (true, true, r)
    | '+' :: r => (true, false, r)
    | r => (false, false, r)
  let lower := body.map Char.toLower
  let sign (x : Float) : Float := if neg then -x else x
  if lower == "inf".toList || lower == "infinity".toList then some (sign (1.0 / 0.0))
  else if lower == "nan".toList then (if signed then none else some (0.0 / 0.0))
  else
    let ip := body.takeWhile Char.isDigit
    let r := body.drop ip.length
    let (fp, r) : List Char × List Char := match r with
      | '.' :: more => let f := more.takeWhile Char.isDigit; (f, more.drop f.length)
      | _ => ([], r)
    if ip.isEmpty && fp.isEmpty then none
    else
      let exp : Option Int := match r with
        | [] => some 0
        | e :: more =>
          if e = 'e' || e = 'E' then
            match more with
            | '-' :: ds => (digitsIn 10 ds).map fun n => -(n : Int)
            | '+' :: ds => (digitsIn 10 ds).map Int.ofNat
            | ds => (digitsIn 10 ds).map Int.ofNat
          else none
      exp.map fun e => sign (decimal ((digitsIn 10 (ip ++ fp)).getD 0) (e - fp.length))

/-- Reads a plain scalar as a number, if it is one. Underscores are ignored,
and one plus and then one minus at the front are dropped, the minus making
the number negative. Then `0x`, `0o` and `0b` give an integer in base 16, 8
or 2, a leading zero without a point an octal integer, a single point a
float, and anything else a decimal integer. An integer must fit 64 bits,
unsigned or, when negative, signed; a float must be finite. A scalar that
starts with an underscore or has two points is no number. -/
def number? (s : String) : Option Scalar :=
  let cs := s.toList
  let dots := cs.count '.'
  if cs.isEmpty || cs.head? == some '_' || dots > 1 then none
  else
    let neg := cs.head? == some '-'
    let noPlus := match cs with
      | '+' :: r => r
      | r => r
    let noSign := match noPlus with
      | '-' :: r => r
      | r => r
    let normalized := noSign.filter (· ≠ '_')
    let int (base : Nat) (ds : List Char) : Option Scalar :=
      (digitsIn base ds).bind fun n =>
        if neg then (if n ≤ Nat.pow 2 63 then some (.int (-(n : Int))) else none)
        else if n < Nat.pow 2 64 then some (.int n) else none
    let float (_ : Unit) : Option Scalar :=
      (parseFloat? ((if neg then ['-'] else []) ++ normalized)).bind fun x =>
        if x.isInf then none else some (.float x)
    match normalized with
    | '0' :: 'x' :: ds => int 16 ds
    | '0' :: 'o' :: ds => int 8 ds
    | '0' :: 'b' :: ds => int 2 ds
    | '0' :: d :: ds => if dots = 0 then int 8 ('0' :: d :: ds) else float ()
    | _ => if dots = 1 then float () else int 10 normalized

/-- The type and value of a plain scalar: null, a boolean, an infinity or
NaN by name, a number, or else text. -/
def resolve (s : String) : Scalar :=
  if ["", "~", "null", "Null", "NULL"].contains s then .null
  else if ["true", "True", "TRUE"].contains s then .bool true
  else if ["false", "False", "FALSE"].contains s then .bool false
  else if [".inf", ".Inf", ".INF"].contains s then .float (1.0 / 0.0)
  else if ["-.inf", "-.Inf", "-.INF"].contains s then .float (-(1.0 / 0.0))
  else if [".nan", ".NaN", ".NAN"].contains s then .float (0.0 / 0.0)
  else (number? s).getD (.text s)

/-! ## Values -/

/-- A node made into a value by a decoder whose target can hold anything. -/
inductive Datum where
  | null
  | bool (b : Bool)
  | int (n : Int)
  | float (x : Float)
  | str (s : String)
  /-- Bytes, from a `!!binary` scalar. -/
  | bytes (bs : List UInt8)
  /-- A point in time, from a `!!timestamp` scalar. -/
  | time
  | list (items : List Datum)
  | dict (entries : List (String × Datum))
  deriving Inhabited

/-- The value of a plain scalar. -/
def Scalar.datum : Scalar → Datum
  | .null => .null
  | .bool b => .bool b
  | .int n => .int n
  | .float x => .float x
  | .text s => .str s

/-- A value as the general printing verb shows it: maps with their keys in
order, lists and bytes in brackets, items parted by blanks. -/
def Datum.show : Nat → Datum → String
  | 0, _ => ""
  | fuel + 1, d =>
    match d with
    | .null => "<nil>"
    | .bool b => if b then "true" else "false"
    | .int n => toString n
    | .float x => Decimal.generalText x
    | .str s => s
    | .bytes bs => "[" ++ " ".intercalate (bs.map fun b => toString b.toNat) ++ "]"
    | .time => "0001-01-01 00:00:00 +0000 UTC"
    | .list items => "[" ++ " ".intercalate (items.map (Datum.show fuel)) ++ "]"
    | .dict entries =>
      let sorted := entries.mergeSort fun a b => a.1 ≤ b.1
      "map[" ++ " ".intercalate (sorted.map fun (k, v) => k ++ ":" ++ Datum.show fuel v) ++ "]"

/-- A value as a float, the way a `!!float` tag takes it: numbers as they
are, text read as a float (zero when it does not read), anything else zero. -/
def Datum.toFloat : Datum → Float
  | .int n => Float.ofInt n
  | .float x => x
  | .str s => (parseFloat? s.toList).getD 0
  | _ => 0

/-- A decimal integer with an optional sign that fits 64 bits. -/
def atoi? (s : String) : Option Int :=
  let (neg, ds) : Bool × List Char := match s.toList with
    | '-' :: r => (true, r)
    | '+' :: r => (false, r)
    | r => (false, r)
  (digitsIn 10 ds).bind fun n =>
    let v : Int := if neg then -(n : Int) else n
    if -Int.pow 2 63 ≤ v && v < Int.pow 2 63 then some v else none

/-- The value of a base64 digit. -/
def base64Digit (c : Char) : Option Nat :=
  if 'A' ≤ c && c ≤ 'Z' then some (c.toNat - 'A'.toNat)
  else if 'a' ≤ c && c ≤ 'z' then some (c.toNat - 'a'.toNat + 26)
  else if '0' ≤ c && c ≤ '9' then some (c.toNat - '0'.toNat + 52)
  else if c = '+' then some 62
  else if c = '/' then some 63
  else none

/-- Decodes padded base64, line breaks skipped. -/
def base64? (s : String) : Option (List UInt8) :=
  go (s.toList.filter fun c => c ≠ '\n' && c ≠ '\r') []
where
  go : List Char → List UInt8 → Option (List UInt8)
    | [], acc => some acc.reverse
    | a :: b :: c :: d :: rest, acc => do
      let va ← base64Digit a
      let vb ← base64Digit b
      let first := (va * 4 + vb / 16).toUInt8
      if c = '=' then
        if d = '=' && rest.isEmpty then some (first :: acc).reverse else none
      else
        let vc ← base64Digit c
        let second := ((vb % 16) * 16 + vc / 4).toUInt8
        if d = '=' then
          if rest.isEmpty then some (second :: first :: acc).reverse else none
        else
          let vd ← base64Digit d
          go rest ((vc % 4 * 64 + vd).toUInt8 :: second :: first :: acc)
    | _, _ => none

/-- A map's entries with a key set to a value, in place when it is there. -/
def setEntry (key : String) (v : Datum) (acc : List (String × Datum)) : List (String × Datum) :=
  if acc.any (·.1 == key) then acc.map fun (k, w) => if k == key then (k, v) else (k, w)
  else acc ++ [(key, v)]

mutual

/-- A node as a value. A mapping's keys become text; a merge key brings in
the entries of a mapping, or of each mapping of a sequence, before the
entries after it. A tag makes its scalar a value of its type: `!!int` needs
a decimal integer, `!!bool` a boolean (or yes or no), `!!binary` base64;
`!!float` takes what it can, `!!str` any value as text, and `!!null` and
`!!timestamp` anything. -/
def Node.datum : Nat → Node → Except String Datum
  | 0, _ => .error "document too deep"
  | fuel + 1, node =>
    match node with
    | .plain s => .ok (resolve s).datum
    | .quoted s => .ok (.str s)
    | .seq items => return .list (← items.mapM (Node.datum fuel))
    | .map entries => return .dict (← mergeInto fuel entries [])
    | .tagged t n => taggedDatum fuel t n
    | .anchor _ n => Node.datum fuel n
    | .alias name => .error ("could not find alias " ++ name)

/-- Sets a mapping's entries into a map's, merges first where they are written. -/
def mergeInto : Nat → List (Node × Node) → List (String × Datum) → Except String (List (String × Datum))
  | 0, _, _ => .error "document too deep"
  | _, [], acc => .ok acc
  | fuel + 1, (k, v) :: rest, acc =>
    if k.isMergeKey then do
      let sources ← match v with
        | .map es => pure [es]
        | .seq items => items.mapM fun i => match i with
          | .map es => pure es
          | _ => throw "unexpected node type for a merge"
        | _ => throw "unexpected node type for a merge"
      let acc ← sources.foldlM (fun acc es => mergeInto fuel es acc) acc
      mergeInto fuel rest acc
    else do
      let key ← keyName fuel k
      let value ← Node.datum fuel v
      mergeInto fuel rest (setEntry key value acc)

/-- A key as text: null is `null`, and other values are shown. -/
def keyName : Nat → Node → Except String String
  | 0, _ => .error "document too deep"
  | fuel + 1, k => do
    match ← Node.datum fuel k with
    | .null => return "null"
    | .str s => return s
    | d => return d.show fuel

/-- A tagged node as a value of its tag's type. -/
def taggedDatum : Nat → String → Node → Except String Datum
  | 0, _, _ => .error "document too deep"
  | fuel + 1, t, n =>
    match t with
    | "!!null" => .ok .null
    | "!!timestamp" => .ok .time
    | "!!int" => do
      let s := (← Node.datum fuel n).show fuel
      match atoi? s with
      | some i => return .int i
      | none => throw ("cannot convert " ++ s ++ " to integer")
    | "!!float" => do return .float (← Node.datum fuel n).toFloat
    | "!!bool" => do
      let s := ((← Node.datum fuel n).show fuel).toLower
      if ["1", "t", "true", "yes"].contains s then return .bool true
      else if ["0", "f", "false", "no"].contains s then return .bool false
      else throw ("cannot convert " ++ s ++ " to boolean")
    | "!!str" => do
      match ← Node.datum fuel n with
      | .null => return .str ""
      | d => return .str (d.show fuel)
    | "!!binary" =>
      let text := match n with
        | .plain s | .quoted s => s
        | _ => "["
      match base64? text with
      | some bs => .ok (.bytes bs)
      | none => .error "illegal base64 data"
    | _ => Node.datum fuel n

end

/-- Reads a stream: the root of its first document with lines, if any. Every
document must read, its aliases must name anchors before them, and it must
make a value. -/
def parse (text : String) : Parse (Option Node) := do
  let raws := rawLines text
  let docs ← documents raws.toList
  let fuel := text.length + 2
  let roots ← docs.mapM fun ls => do
    match ← document raws ls with
    | none => pure none
    | some node =>
      let (node, _) ← (resolveAliases fuel node).run []
      let _ ← node.datum fuel
      pure (some node)
  return roots.findSome? id

/-- Whether a character can come right before an indicator that opens a flow
collection or a quoted scalar. -/
def opensAfter (c : Char) : Bool := " \t[\x7b,:-".toList.contains c

/-- The flow collections a line leaves open, added to those open before it:
each with its line and column (from one) and its opening bracket. Quoted
scalars and the comment are skipped. -/
def openFlows (stack : List (Nat × Nat × Char)) (number : Nat) (raw : List Char) :
    List (Nat × Nat × Char) :=
  let step (st : List (Nat × Nat × Char) × Option Char × Char) (ci : Char × Nat) :=
    let (stack, quote, prev) := st
    let (c, i) := ci
    match quote with
    | some q => if c = q then (stack, none, c) else (stack, some q, c)
    | none =>
      if (c = '"' || c = Char.ofNat 39) && opensAfter prev then (stack, some c, c)
      else if (c = '[' || c = '\x7b') && opensAfter prev then (stack ++ [(number, i + 1, c)], none, c)
      else if (c = ']' || c = '\x7d') && !stack.isEmpty then (stack.dropLast, none, c)
      else (stack, none, c)
  ((stripComment raw).zipIdx.foldl step (stack, none, ' ')).1

/-- The outermost flow collection a document leaves open: its line, column
and opening bracket. -/
def openFlow? (text : String) : Option (Nat × Nat × Char) :=
  (((text.splitOn "\n").zipIdx.foldl fun stack (l, i) => openFlows stack (i + 1) l.toList) []).head?

/-- A line number right-aligned in two columns. -/
def lineLabel (n : Nat) : String :=
  let s := toString n
  if s.length < 2 then " " ++ s else s

/-- A failure to read a document, as a decoder of YAML reports it: an open
flow collection is reported at its opening bracket, with up to three lines
before it, the line itself marked, a caret under the bracket, and up to three
lines after it that hold text; any other failure by its own text. -/
def report (text : String) (err : String) : String :=
  if err != unterminated then err
  else
    match openFlow? text with
    | none => err
    | some (l, c, bracket) =>
      let msg := if bracket = '[' then "sequence end token ']' not found"
        else "could not find flow mapping end token '\x7d'"
      let ls := text.splitOn "\n"
      let used := (ls.zipIdx.filter fun (x, _) => !(trimStart x.toList).isEmpty).map (·.2 + 1)
      let lastUsed := used.foldl max 0
      let shown (n : Nat) (mark : Bool) : String :=
        (if mark then ">" else " ") ++ " " ++ lineLabel n ++ " | " ++ ls.getD (n - 1) ""
      let first := max 1 (l - 3)
      let before := (List.range (l + 1 - first)).map fun k => shown (first + k) (first + k == l)
      let after := (((List.range 3).map (l + 1 + ·)).filter (· ≤ lastUsed)).map (shown · false)
      "[" ++ toString l ++ ":" ++ toString c ++ "] " ++ msg ++ "\n" ++ "\n".intercalate before ++ "\n" ++
        String.ofList (List.replicate (c + 6) ' ') ++ "^\n" ++ "\n".intercalate after

end Yaml

end Userland
