namespace Userland

/-! # TOML documents

A reader for TOML 1.0: key/value pairs with bare, quoted and dotted keys;
`[table]` headers and `[[array]]` headers of arrays of tables; basic and
literal strings, on one line or several; integers in decimal, hexadecimal,
octal and binary; floats; booleans; dates and times (kept as written, and
checked only when read);
arrays, which may run over lines; inline tables; and comments.

A key may be given once in its table, and a table header may name a table
only once; values and inline tables are closed, so no header or dotted key may
add to them, and a table made by dotted keys is closed to a later header.

Tables are built as the document is read: every header and every key names a
path from the root, along which missing tables are made on the way, and the
path of an array of tables leads into its newest table (a dotted key may not
go through one).

The reader goes one expression at a time and stops at the first that fails,
keeping what it read before: a decoder that takes values from the document
meets a wrong value in an earlier expression before a later failure. Numbers
are read only when asked for, and the failures are worded the way a common
decoder words them.
-/

namespace Toml

/-- What a date or time holds, as the marks in its text tell. -/
inductive Moment where
  /-- A date alone. -/
  | date
  /-- A time of day alone. -/
  | time
  /-- A date and a time of day, with no offset. -/
  | localDateTime
  /-- A date and a time of day with an offset or `Z`. -/
  | dateTime
  deriving Inhabited, Repr, DecidableEq

/-- A TOML value. -/
inductive Value where
  | str (s : String)
  | int (n : Int)
  | float (x : Float)
  | bool (b : Bool)
  /-- A date, time or both, as written; it is checked only when read. -/
  | datetime (moment : Moment) (text : String)
  /-- A number token that does not read as its kind, `integer` or `float`, and why. -/
  | malformed (kind : String) (reason : String)
  | array (items : List Value)
  | table (entries : List (String × Value))
  deriving Inhabited, Repr

/-- What a key holds while the document is read. -/
inductive Item where
  /-- A value given with `=`; inline tables and arrays are closed. -/
  | value (v : Value)
  /-- A table, made by a header (explicit) or on the way to a key. -/
  | table (explicit : Bool) (entries : List (String × Item))
  /-- An array of tables, the newest last. -/
  | tables (items : List (List (String × Item)))
  deriving Inhabited

/-- Reading a document: the value, or why it is not TOML. -/
abbrev Parse := Except String

/-- A table's entries with the entry of a key replaced. -/
def replaceEntry (k : String) (i : Item) (t : List (String × Item)) : List (String × Item) :=
  t.map fun (k', i') => if k' == k then (k, i) else (k', i')

/-- What a key holds, as the failures name it. -/
def Item.kindName : Item → String
  | .value _ => "value"
  | .table .. => "table"
  | .tables _ => "array table"

/-- Changes the table at a path with `f`, making missing tables on the way.
The path of a header (`viaKey` false) leads through an array of tables into
its newest table and makes open tables; a dotted key's path may not pass an
array of tables, and the tables it makes are closed to headers. -/
def modifyTable (viaKey : Bool) : List String → (List (String × Item) → Parse (List (String × Item))) →
    List (String × Item) → Parse (List (String × Item))
  | [], f, t => f t
  | k :: ks, f, t =>
    match t.lookup k with
    | none => do
      let sub ← modifyTable viaKey ks f []
      return t ++ [(k, .table viaKey sub)]
    | some (.table e sub) => do
      let sub ← modifyTable viaKey ks f sub
      return replaceEntry k (.table e sub) t
    | some (.tables ts) =>
      match ts.getLast?, viaKey with
      | some last, false => do
        let last ← modifyTable viaKey ks f last
        return replaceEntry k (.tables (ts.dropLast ++ [last])) t
      | _, _ => .error ("expected " ++ k ++ " to be a table, not a array table")
    | some (.value _) => .error ("expected " ++ k ++ " to be a table, not a value")

/-- Sets a key, given by its dotted parts, in the table at `path`. -/
def setKey (path : List String) (key : List String) (v : Value) (root : List (String × Item)) :
    Parse (List (String × Item)) :=
  match key.getLast? with
  | none => .error "empty key"
  | some last =>
    let inPath := modifyTable false path (modifyTable true key.dropLast (fun t =>
      if (t.lookup last).isSome then .error ("key " ++ last ++ " is already defined")
      else .ok (t ++ [(last, .value v)])))
    inPath root

/-- Defines the table a `[header]` names. -/
def defineTable (key : List String) (root : List (String × Item)) : Parse (List (String × Item)) :=
  match key.getLast? with
  | none => .error "empty table name"
  | some last =>
    modifyTable false key.dropLast (fun t =>
      match t.lookup last with
      | none => .ok (t ++ [(last, .table true [])])
      | some (.table false sub) => .ok (replaceEntry last (.table true sub) t)
      | some (.table true _) => .error ("table " ++ last ++ " already exists")
      | some i => .error ("key " ++ last ++ " should be a table, not a " ++ i.kindName)) root

/-- Adds a new table to the array of tables a `[[header]]` names. -/
def appendTable (key : List String) (root : List (String × Item)) : Parse (List (String × Item)) :=
  match key.getLast? with
  | none => .error "empty table name"
  | some last =>
    modifyTable false key.dropLast (fun t =>
      match t.lookup last with
      | none => .ok (t ++ [(last, .tables [[]])])
      | some (.tables ts) => .ok (replaceEntry last (.tables (ts ++ [[]])) t)
      | some i => .error ("key " ++ last ++ " already exists as a " ++ i.kindName ++
          ",  but should be an array table")) root

/-- The value a table being read stands for, at most `fuel` levels deep. -/
def Item.toValue : Nat → Item → Value
  | 0, _ => .table []
  | _ + 1, .value v => v
  | fuel + 1, .table _ entries => .table (entries.map fun (k, i) => (k, Item.toValue fuel i))
  | fuel + 1, .tables ts => .array (ts.map fun t => .table (t.map fun (k, i) => (k, Item.toValue fuel i)))

/-! ## Characters -/

/-- Whether a character may be part of a bare key. -/
def isBareKeyChar (c : Char) : Bool := c.isAlphanum || c = '_' || c = '-'

/-- Drops blanks and tabs at the front. -/
def skipBlank (cs : List Char) : List Char := cs.dropWhile fun c => c = ' ' || c = '\t'

/-- Whether a control character may not stand in a string or a comment. -/
def isForbidden (c : Char) : Bool := (c.toNat < 0x20 && c ≠ '\t') || c.toNat = 0x7F

/-- Drops a comment at the front, up to its line's end. A comment holds tabs
and printable characters only, and a carriage return in it must end its line. -/
def skipComment (cs : List Char) : Parse (List Char) :=
  match cs with
  | '#' :: rest =>
    let body := rest.takeWhile fun c => c ≠ '\n' && c ≠ '\r'
    let after := rest.drop body.length
    if body.any isForbidden then .error "invalid character in comment"
    else
      match after with
      | '\r' :: '\n' :: _ | '\n' :: _ | [] => .ok after
      | _ => .error "invalid character in comment"
  | _ => .ok cs

/-- Drops blanks, newlines and comments at the front, at most `fuel` lines of them. -/
def skipSpace : Nat → List Char → Parse (List Char)
  | 0, cs => .ok cs
  | fuel + 1, cs => do
    match ← skipComment (skipBlank cs) with
    | '\n' :: rest => skipSpace fuel rest
    | '\r' :: '\n' :: rest => skipSpace fuel rest
    | rest => .ok rest

/-- The byte a reader meets first in a character's UTF-8 encoding. -/
def leadByte (c : Char) : Nat :=
  let n := c.toNat
  if n < 0x80 then n
  else if n < 0x800 then 0xC0 + n / 0x40
  else if n < 0x10000 then 0xE0 + n / 0x1000
  else 0xF0 + n / 0x40000

/-- The first byte of a character as a character of its own, as a reader that
works on bytes names it. -/
def byteChar (c : Char) : String := (Char.ofNat (leadByte c)).toString

/-- The first byte of a character written as a code point, `U+0078 'x'`, the
quoted form left out when the byte does not print. -/
def byteText (c : Char) : String :=
  let b := leadByte c
  let hex := (Nat.toDigits 16 b).map Char.toUpper
  let printable := (0x20 ≤ b && b < 0x7F) || (0xA1 ≤ b && b ≠ 0xAD)
  "U+" ++ String.ofList (List.replicate (4 - hex.length) '0' ++ hex) ++
    (if printable then " '" ++ (Char.ofNat b).toString ++ "'" else "")

/-- Expects a character at the front. -/
def expectChar (x : Char) : List Char → Parse (List Char)
  | [] => .error ("expected character " ++ x.toString ++ " but the document ended here")
  | c :: rest => if c = x then .ok rest else .error ("expected character " ++ x.toString)

/-- The end of a line after an expression: blanks, maybe a comment, then a
newline or the end of the document. -/
def endOfLine (cs : List Char) : Parse (List Char) := do
  match ← skipComment (skipBlank cs) with
  | [] => .ok []
  | '\n' :: rest => .ok rest
  | ['\r'] => .error "windows new line expected"
  | '\r' :: '\n' :: rest => .ok rest
  | '\r' :: _ => .error "windows new line should be \\r\\n"
  | c :: _ => .error ("expected newline but got " ++ byteText c)

/-- The value of a hexadecimal digit. -/
def hexDigit (c : Char) : Option Nat :=
  if '0' ≤ c && c ≤ '9' then some (c.toNat - '0'.toNat)
  else if 'a' ≤ c && c ≤ 'f' then some (c.toNat - 'a'.toNat + 10)
  else if 'A' ≤ c && c ≤ 'F' then some (c.toNat - 'A'.toNat + 10)
  else none

/-! ## Strings

A basic string is found first, up to its closing quote, and its escapes are
read after; so a line break inside it is reported before a bad escape. -/

/-- The code point of a `\u` or `\U` escape, from the `width` characters after
it; `after` is what follows them up to the closing quote, which counts too. -/
def unicodeEscape (width : Nat) (after : List Char) : Parse (Char × List Char) :=
  let shown := (after ++ ['"']).take width
  if shown.length < width then
    .error ("unicode point needs " ++ toString width ++ " character, not " ++ toString shown.length)
  else
    match shown.mapM hexDigit with
    | none => .error "non-hex character"
    | some vs =>
      let v := vs.foldl (fun a d => a * 16 + d) 0
      if v > 0x10FFFF || (0xD800 ≤ v && v < 0xE000) then .error "escape sequence is invalid unicode code point"
      else .ok (Char.ofNat v, after.drop width)

/-- The character a one-letter escape stands for. -/
def simpleEscape : Char → Option Char
  | 'b' => some (Char.ofNat 8)
  | 't' => some '\t'
  | 'n' => some '\n'
  | 'f' => some (Char.ofNat 12)
  | 'r' => some '\r'
  | 'e' => some (Char.ofNat 27)
  | '"' => some '"'
  | '\\' => some '\\'
  | _ => none

/-- Reads the escapes of a basic string's body, at most `fuel` characters. -/
def unescape : Nat → List Char → List Char → Parse String
  | 0, _, acc => .ok (String.ofList acc.reverse)
  | _, [], acc => .ok (String.ofList acc.reverse)
  | fuel + 1, '\\' :: c :: rest, acc =>
    match simpleEscape c with
    | some e => unescape fuel rest (e :: acc)
    | none =>
      if c = 'u' || c = 'U' then do
        let (e, rest) ← unicodeEscape (if c = 'u' then 4 else 8) rest
        unescape fuel rest (e :: acc)
      else .error ("invalid escaped character " ++ byteText c)
  | fuel + 1, c :: rest, acc =>
    if isForbidden c then .error ("invalid character " ++ byteText c)
    else unescape fuel rest (c :: acc)

/-- The body of a basic string after its opening quote, up to its closing
quote, and what follows it. -/
def scanBasic : List Char → List Char → Parse (List Char × List Char)
  | [], _ => .error "basic string not terminated by \""
  | '"' :: rest, acc => .ok (acc.reverse, rest)
  | '\n' :: _, _ => .error "basic strings cannot have new lines"
  | '\r' :: _, _ => .error "basic strings cannot have new lines"
  | ['\\'], _ => .error "need a character after \\"
  | '\\' :: c :: rest, acc => scanBasic rest (c :: '\\' :: acc)
  | c :: rest, acc => scanBasic rest (c :: acc)

/-- Reads a basic string after its opening quote. -/
def basicString (cs : List Char) : Parse (String × List Char) := do
  let (body, rest) ← scanBasic cs []
  let s ← unescape (body.length + 1) body []
  return (s, rest)

/-- Reads a literal string after its opening quote. -/
def literalString (cs : List Char) : Parse (String × List Char) :=
  let body := cs.takeWhile fun c => c ≠ '\'' && c ≠ '\n' && c ≠ '\r'
  match cs.drop body.length with
  | '\'' :: rest =>
    if body.any fun c => isForbidden c then .error "invalid character"
    else .ok (String.ofList body, rest)
  | [] => .error "unterminated literal string"
  | _ => .error "literal strings cannot have new lines"

/-- Drops a newline right after the opening quotes of a multi-line string. -/
def dropFirstNewline : List Char → List Char
  | '\n' :: rest => rest
  | '\r' :: '\n' :: rest => rest
  | cs => cs

/-- Reads a multi-line basic string after its opening quotes. -/
def multiBasic (cs : List Char) : Parse (String × List Char) :=
  go (dropFirstNewline cs) [] cs.length
where
  go : List Char → List Char → Nat → Parse (String × List Char)
    | _, _, 0 => .error "multiline basic string not terminated by \"\"\""
    | [], _, _ => .error "multiline basic string not terminated by \"\"\""
    | '"' :: '"' :: '"' :: '"' :: '"' :: rest, acc, _ => .ok (String.ofList ('"' :: '"' :: acc).reverse, rest)
    | '"' :: '"' :: '"' :: '"' :: rest, acc, _ => .ok (String.ofList ('"' :: acc).reverse, rest)
    | '"' :: '"' :: '"' :: rest, acc, _ => .ok (String.ofList acc.reverse, rest)
    | '\\' :: rest, acc, fuel + 1 =>
      let afterBlank := rest.dropWhile fun c => c = ' ' || c = '\t'
      match afterBlank with
      | '\n' :: _ | '\r' :: '\n' :: _ =>
        go (afterBlank.dropWhile fun c => c = ' ' || c = '\t' || c = '\n' || c = '\r') acc fuel
      | _ =>
        match rest with
        | c :: more =>
          match simpleEscape c with
          | some e => go more (e :: acc) fuel
          | none =>
            if c = 'u' || c = 'U' then do
              let (e, more) ← unicodeEscape (if c = 'u' then 4 else 8) more
              go more (e :: acc) fuel
            else .error ("invalid escaped character " ++ byteText c)
        | [] => .error "multiline basic string not terminated by \"\"\""
    | '\r' :: '\n' :: rest, acc, fuel + 1 => go rest ('\n' :: acc) fuel
    | c :: rest, acc, fuel + 1 =>
      if c ≠ '\n' && isForbidden c then .error ("invalid character " ++ byteText c)
      else go rest (c :: acc) fuel

/-- Reads a multi-line literal string after its opening quotes. -/
def multiLiteral (cs : List Char) : Parse (String × List Char) :=
  go (dropFirstNewline cs) [] cs.length
where
  go : List Char → List Char → Nat → Parse (String × List Char)
    | _, _, 0 => .error "multiline literal string not terminated by '''"
    | [], _, _ => .error "multiline literal string not terminated by '''"
    | '\'' :: '\'' :: '\'' :: '\'' :: '\'' :: rest, acc, _ =>
      .ok (String.ofList ('\'' :: '\'' :: acc).reverse, rest)
    | '\'' :: '\'' :: '\'' :: '\'' :: rest, acc, _ => .ok (String.ofList ('\'' :: acc).reverse, rest)
    | '\'' :: '\'' :: '\'' :: rest, acc, _ => .ok (String.ofList acc.reverse, rest)
    | '\r' :: '\n' :: rest, acc, fuel + 1 => go rest ('\n' :: acc) fuel
    | c :: rest, acc, fuel + 1 =>
      if c ≠ '\n' && isForbidden c then .error "invalid character"
      else go rest (c :: acc) fuel

/-! ## Keys -/

/-- Reads one part of a key: bare, basic or literal. -/
def simpleKey (cs : List Char) : Parse (String × List Char) :=
  match cs with
  | [] => .error "expected key but found none"
  | '"' :: rest => basicString rest
  | '\'' :: rest => literalString rest
  | c :: _ =>
    if isBareKeyChar c then
      let bare := cs.takeWhile isBareKeyChar
      .ok (String.ofList bare, cs.drop bare.length)
    else .error ("invalid character at start of key: " ++ byteChar c)

/-- Reads a dotted key, at most `fuel` parts; what follows it starts after blanks. -/
def dottedKey : Nat → List Char → Parse (List String × List Char)
  | 0, _ => .error "key too long"
  | fuel + 1, cs => do
    let (k, rest) ← simpleKey cs
    match skipBlank rest with
    | '.' :: more =>
      let (ks, rest) ← dottedKey fuel (skipBlank more)
      return (k :: ks, rest)
    | rest => return ([k], rest)

/-- The `=` after a key, and the blanks after it. -/
def afterKey (cs : List Char) : Parse (List Char) :=
  match skipBlank cs with
  | [] => .error "expected = after a key, but the document ends there"
  | '=' :: more => .ok (skipBlank more)
  | _ => .error "expected character ="

/-! ## Numbers and dates

A number is found by its characters first, and read only when something asks
for its value; a token that does not read is kept with the reason. -/

/-- Digits with single underscores between them, as a number in a base. -/
def digitsIn (base : Nat) (cs : List Char) : Option Nat :=
  if cs.isEmpty || cs.head? == some '_' || cs.getLast? == some '_' then none
  else if (cs.zip (cs.drop 1)).any fun (a, b) => a = '_' && b = '_' then none
  else
    (cs.filter (· ≠ '_')).foldlM (fun acc c => (hexDigit c).bind fun d =>
      if d < base then some (acc * base + d) else none) 0

/-- Whether a value starting with these characters is a date or time: digits,
then a colon third or a dash fifth. -/
def startsDate (cs : List Char) : Bool :=
  go (cs.take 5) 0
where
  go : List Char → Nat → Bool
    | [], _ => false
    | c :: rest, i =>
      if c.isDigit then go rest (i + 1)
      else (i = 2 && c = ':') || (i = 4 && c = '-')

/-- The value of a decimal float written `m × 10^e`. -/
def decimal (m : Nat) (e : Int) : Float :=
  if m = 0 then 0
  else if e ≥ 0 then (if e > 400 then 1.0 / 0.0 else Float.ofScientific m false e.toNat)
  else if e < -400 then 0 else Float.ofScientific m true (-e).toNat

/-- Reads a number token: an integer or a float. -/
def number (tok : List Char) : Parse Value :=
  let (neg, body, signed) := match tok with
    | '-' :: rest => (true, rest, true)
    | '+' :: rest => (false, rest, true)
    | rest => (false, rest, false)
  let int (n : Nat) : Parse Value :=
    let v : Int := if neg then -(n : Int) else n
    if v < -9223372036854775808 || v > 9223372036854775807 then .error "integer out of range"
    else .ok (.int v)
  match body with
  | ['i', 'n', 'f'] => .ok (.float (if neg then -1.0 / 0.0 else 1.0 / 0.0))
  | ['n', 'a', 'n'] => .ok (.float (0.0 / 0.0))
  | '0' :: 'x' :: ds => if signed then .error "sign on a hexadecimal integer" else
      match digitsIn 16 ds with | some n => int n | none => .error "invalid hexadecimal number"
  | '0' :: 'o' :: ds => if signed then .error "sign on an octal integer" else
      match digitsIn 8 ds with | some n => int n | none => .error "invalid octal number"
  | '0' :: 'b' :: ds => if signed then .error "sign on a binary integer" else
      match digitsIn 2 ds with | some n => int n | none => .error "invalid binary number"
  | _ =>
    let intPart := body.takeWhile fun c => c.isDigit || c = '_'
    let rest := body.drop intPart.length
    let leadingZero := intPart.length > 1 && intPart.head? == some '0'
    match digitsIn 10 intPart with
    | none => .error "invalid number"
    | some ip =>
      if leadingZero then
        .error (if rest.isEmpty then "leading zero not allowed on decimal number"
          else "float integer part cannot have leading zeroes")
      else if rest.isEmpty then int ip
      else
        let (frac, rest) : Option (List Char) × List Char := match rest with
          | '.' :: more =>
            let f := more.takeWhile fun (c : Char) => c.isDigit || c = '_'
            (some f, more.drop f.length)
          | _ => (none, rest)
        let (exp, rest) : Option (Option Int) × List Char := match rest with
          | e :: more =>
            if e = 'e' || e = 'E' then
              let (eneg, ebody) : Bool × List Char := match more with
                | '-' :: r => (true, r)
                | '+' :: r => (false, r)
                | r => (false, r)
              let ed := ebody.takeWhile fun (c : Char) => c.isDigit || c = '_'
              (some ((digitsIn 10 ed).map fun n => if eneg then -(n : Int) else n), ebody.drop ed.length)
            else (none, e :: more)
          | [] => (none, [])
        if !rest.isEmpty then .error "invalid float"
        else
          let fracDigits := match frac with
            | some f => if f.isEmpty then none else (digitsIn 10 f).map fun v => (v, (f.filter (· ≠ '_')).length)
            | none => some (0, 0)
          match fracDigits, exp with
          | none, _ => .error "float decimal point must be followed by a digit"
          | _, some none => .error "invalid float exponent"
          | some (fv, fl), e =>
            let m := ip * Nat.pow 10 fl + fv
            let x := decimal m ((e.getD (some 0)).getD 0 - fl)
            .ok (.float (if neg then -x else x))

/-- A number token read as its value, or kept with why it does not read. -/
def numberValue (tok : List Char) (float : Bool) : Value :=
  match number tok with
  | .ok v => v
  | .error reason => .malformed (if float then "float" else "integer") reason

/-- Scans the characters of a number: digits, signs, underscores, points and
exponents, or an infinity or NaN at their end. -/
def scanNumber : List Char → List Char → Bool → Parse (List Char × List Char × Bool)
  | [], acc, float => .ok (acc.reverse, [], float)
  | c :: rest, acc, float =>
    if c.isDigit || c = '+' || c = '-' || c = '_' then scanNumber rest (c :: acc) float
    else if c = '.' || c = 'e' || c = 'E' then scanNumber rest (c :: acc) true
    else if c = 'i' then
      if rest.take 2 == ['n', 'f'] then .ok (acc.reverse ++ ['i', 'n', 'f'], rest.drop 2, true)
      else .error "unexpected character 'i' while scanning for a number"
    else if c = 'n' then
      if rest.take 2 == ['a', 'n'] then .ok (acc.reverse ++ ['n', 'a', 'n'], rest.drop 2, true)
      else .error "unexpected character 'n' while scanning for a number"
    else .ok (acc.reverse, c :: rest, float)

/-- The digits a prefixed integer may have after its base letter. -/
def baseDigit : Char → Option (Char → Bool)
  | 'x' => some fun c => (hexDigit c).isSome || c = '_'
  | 'o' => some fun c => ('0' ≤ c && c ≤ '7') || c = '_'
  | 'b' => some fun c => c = '0' || c = '1' || c = '_'
  | _ => none

/-- Reads a number: a prefixed integer runs over the digits of its base, a
zero before anything else stands alone, and any other number runs over the
characters a number may have. -/
def numberToken (cs : List Char) : Parse (Value × List Char) :=
  match cs with
  | '0' :: b :: c :: more =>
    if b ≠ '.' && b ≠ 'e' && b ≠ 'E' then
      match baseDigit b with
      | some ok =>
        let ds := (c :: more).takeWhile ok
        .ok (numberValue ('0' :: b :: ds) false, (c :: more).drop ds.length)
      | none => .ok (numberValue ['0'] false, b :: c :: more)
    else do
      let (tok, rest, float) ← scanNumber cs [] false
      return (numberValue tok float, rest)
  | _ => do
    let (tok, rest, float) ← scanNumber cs [] false
    if tok.isEmpty then .error "incomplete number"
    else return (numberValue tok float, rest)

/-- The marks a date or time has seen: a date's dash, a time's separator, an offset. -/
structure Marks where
  date : Bool
  time : Bool
  zone : Bool

/-- What a date or time holds, from its marks. -/
def Marks.moment (m : Marks) : Moment :=
  if m.time then
    if m.date then (if m.zone then .dateTime else .localDateTime) else .time
  else .date

/-- Reads a date, a time or both, kept as written: digits and the marks
`-`, `:`, `.`, `+`, `T` and `t`, ending after a `Z` or `z`, with at most one
blank, which must come before a digit and takes the character after that
digit along unread. A dash marks a date, and from the ninth character on an
offset too; `T`, `:`, `.` and the blank mark a time; `+` and `Z` an offset. -/
def dateTime (cs : List Char) : Value × List Char :=
  let (tok, rest, marks) := go cs [] 0 false ⟨false, false, false⟩
  (.datetime marks.moment (String.ofList tok), rest)
where
  go : List Char → List Char → Nat → Bool → Marks → List Char × List Char × Marks
    | [], acc, _, _, m => (acc.reverse, [], m)
    | c :: rest, acc, i, spaced, m =>
      if c.isDigit then go rest (c :: acc) (i + 1) spaced m
      else if c = '-' then go rest (c :: acc) (i + 1) spaced { m with date := true, zone := m.zone || i ≥ 8 }
      else if c = 'T' || c = 't' || c = ':' || c = '.' then go rest (c :: acc) (i + 1) spaced { m with time := true }
      else if c = '+' then go rest (c :: acc) (i + 1) spaced { m with zone := true }
      else if c = 'Z' || c = 'z' then ((c :: acc).reverse, rest, { m with zone := true })
      else if c = ' ' && !spaced then
        match rest with
        | d :: e :: more =>
          if d.isDigit then go more (e :: d :: c :: acc) (i + 3) true { m with time := true }
          else (acc.reverse, c :: rest, m)
        | [d] => if d.isDigit then ((d :: c :: acc).reverse, [], { m with time := true }) else (acc.reverse, c :: rest, m)
        | [] => (acc.reverse, c :: rest, m)
      else (acc.reverse, c :: rest, m)

/-- Exactly the digits given, as a number. -/
def digitValue (cs : List Char) : Except String Nat :=
  if cs.all Char.isDigit then .ok (cs.foldl (fun a c => a * 10 + (c.toNat - '0'.toNat)) 0)
  else .error "expected digit (0-9)"

/-- The number of days in a month of a year. -/
def daysInMonth (y m : Nat) : Nat :=
  if m = 2 then (if (y % 4 = 0 && y % 100 ≠ 0) || y % 400 = 0 then 29 else 28)
  else if m = 4 || m = 6 || m = 9 || m = 11 then 30 else 31

/-- Checks a date, `YYYY-MM-DD`, that is a day of the calendar. -/
def checkDate (cs : List Char) : Except String Unit := do
  if cs.length ≠ 10 || cs[4]? ≠ some '-' || cs[7]? ≠ some '-' then
    throw "dates are expected to have the format YYYY-MM-DD"
  let y ← digitValue (cs.take 4)
  let m ← digitValue ((cs.drop 5).take 2)
  let d ← digitValue ((cs.drop 8).take 2)
  if m < 1 || m > 12 || d < 1 || d > daysInMonth y m then throw "impossible date"

/-- Checks a time of day, `HH:MM:SS` with an optional fraction of one or more
digits (a leap second is allowed), and gives what follows it. -/
def checkTime (cs : List Char) : Except String (List Char) := do
  if cs.length < 8 then throw "times are expected to have the format HH:MM:SS[.NNNNNN]"
  let h ← digitValue (cs.take 2)
  if h > 23 then throw "hour cannot be greater 23"
  if cs[2]? ≠ some ':' then throw "expecting colon between hours and minutes"
  let mi ← digitValue ((cs.drop 3).take 2)
  if mi > 59 then throw "minutes cannot be greater 59"
  if cs[5]? ≠ some ':' then throw "expecting colon between minutes and seconds"
  let se ← digitValue ((cs.drop 6).take 2)
  if se > 60 then throw "seconds cannot be greater 60"
  match cs.drop 8 with
  | '.' :: more =>
    let ds := more.takeWhile Char.isDigit
    if ds.isEmpty then throw "need at least one digit after fraction point"
    return more.drop ds.length
  | rest => return rest

/-- Checks a date and a time of day parted by `T` or a blank, and gives what follows. -/
def checkLocalDateTime (cs : List Char) : Except String (List Char) := do
  if cs.length < 11 then
    throw "local datetimes are expected to have the format YYYY-MM-DDTHH:MM:SS[.NNNNNNNNN]"
  checkDate (cs.take 10)
  let sep := cs[10]?
  if sep ≠ some 'T' && sep ≠ some ' ' && sep ≠ some 't' then
    throw "datetime separator is expected to be T or a space"
  checkTime (cs.drop 11)

/-- Checks an offset: `Z`, or a sign with hours and minutes. -/
def checkOffset (cs : List Char) : Except String Unit := do
  match cs with
  | 'Z' :: rest | 'z' :: rest => if !rest.isEmpty then throw "extra bytes at the end of the timezone"
  | _ =>
    if cs.length ≠ 6 then throw "invalid date-time timezone"
    if cs.head? ≠ some '+' && cs.head? ≠ some '-' then throw "invalid timezone offset character"
    if cs[3]? ≠ some ':' then throw "expected a : separator"
    let h ← digitValue ((cs.drop 1).take 2)
    if h > 23 then throw "invalid timezone offset hours"
    let m ← digitValue ((cs.drop 4).take 2)
    if m > 59 then throw "invalid timezone offset minutes"

/-- Checks a date or time as written, for what it holds. -/
def checkMoment (m : Moment) (text : String) : Except String Unit := do
  let cs := text.toList
  match m with
  | .date => checkDate cs
  | .time =>
    let rest ← checkTime cs
    if !rest.isEmpty then throw "extra characters at the end of a local time"
  | .localDateTime =>
    let rest ← checkLocalDateTime cs
    if !rest.isEmpty then throw "extra characters at the end of a local date time"
  | .dateTime =>
    let rest ← checkLocalDateTime cs
    checkOffset rest

/-- How a decoder names the type of a date or time. -/
def Moment.typeName : Moment → String
  | .date => "toml.LocalDate"
  | .time => "toml.LocalTime"
  | .localDateTime => "toml.LocalDateTime"
  | .dateTime => "time.Time"

/-- Reads a value that is not a string, array or table: a boolean, an
infinity or NaN, a date or time, or a number. -/
def scalar (cs : List Char) : Parse (Value × List Char) :=
  match cs with
  | [] => .error "expected value, not eof"
  | 't' :: _ => if cs.take 4 == "true".toList then .ok (.bool true, cs.drop 4) else .error "expected 'true'"
  | 'f' :: _ => if cs.take 5 == "false".toList then .ok (.bool false, cs.drop 5) else .error "expected 'false'"
  | 'i' :: _ => if cs.take 3 == "inf".toList then .ok (.float (1.0 / 0.0), cs.drop 3) else .error "expected 'inf'"
  | 'n' :: _ => if cs.take 3 == "nan".toList then .ok (.float (0.0 / 0.0), cs.drop 3) else .error "expected 'nan'"
  | c :: _ =>
    if c = '+' || c = '-' || cs.length < 3 || !startsDate cs then numberToken cs
    else .ok (dateTime cs)

/-! ## Values -/

mutual

/-- Reads a value. -/
def value : Nat → List Char → Parse (Value × List Char)
  | 0, _ => .error "nesting too deep"
  | fuel + 1, cs =>
    match cs with
    | '"' :: '"' :: '"' :: rest => do
      let (s, rest) ← multiBasic rest
      return (.str s, rest)
    | '"' :: rest => do
      let (s, rest) ← basicString rest
      return (.str s, rest)
    | '\'' :: '\'' :: '\'' :: rest => do
      let (s, rest) ← multiLiteral rest
      return (.str s, rest)
    | '\'' :: rest => do
      let (s, rest) ← literalString rest
      return (.str s, rest)
    | '[' :: rest => do
      let (items, rest) ← arrayItems fuel rest [] true
      return (.array items, rest)
    | '{' :: rest => do
      let (entries, rest) ← inlineEntries fuel rest [] true
      return (Item.toValue (entries.length + cs.length) (.table false entries), rest)
    | _ => scalar cs

/-- Reads the items of an array up to its closing bracket: items are parted
by commas, with blanks, newlines and comments anywhere between them, and a
comma may follow the last. -/
def arrayItems : Nat → List Char → List Value → Bool → Parse (List Value × List Char)
  | 0, _, _, _ => .error "nesting too deep"
  | _, [], _, _ => .error "expected character ] but the document ended here"
  | fuel + 1, cs, acc, first => do
    match ← skipSpace cs.length cs with
    | [] => .error "array is incomplete"
    | ']' :: rest => .ok (acc.reverse, rest)
    | cs => do
      let cs ← match cs with
        | ',' :: more =>
          if first then .error "array cannot start with comma" else skipSpace more.length more
        | _ => if first then pure cs else .error "array elements must be separated by commas"
      match cs with
      | ']' :: rest => .ok (acc.reverse, rest)
      | _ => do
        let (v, rest) ← value fuel cs
        arrayItems fuel rest (v :: acc) false

/-- Reads the entries of an inline table up to its closing brace: key/value
pairs on one line, parted by commas. -/
def inlineEntries : Nat → List Char → List (String × Item) → Bool →
    Parse (List (String × Item) × List Char)
  | 0, _, _, _ => .error "nesting too deep"
  | _, [], _, _ => .error "expected character \x7d but the document ended here"
  | fuel + 1, cs, acc, first =>
    match skipBlank cs with
    | [] => .error "inline table is incomplete"
    | '}' :: rest => .ok (acc, rest)
    | cs => do
      let cs ← if first then pure cs else do
        let more ← expectChar ',' cs
        pure (skipBlank more)
      let (key, rest) ← dottedKey (cs.length + 1) cs
      let rest ← afterKey rest
      let (v, rest) ← value fuel rest
      let acc ← setKey [] key v acc
      inlineEntries fuel rest acc false

end

/-! ## Documents -/

/-- A document as far as it reads: the tables and keys of the expressions
before the first failure, and that failure, if any. -/
structure Document where
  root : List (String × Value)
  failure : Option String
  deriving Inhabited

/-- Reads a table header's name and closing brackets, `count` of them. -/
def header (count : Nat) (cs : List Char) : Parse (List String × List Char) := do
  let (key, rest) ← dottedKey (cs.length + 1) (skipBlank cs)
  let more ← expectChar ']' (skipBlank rest)
  let more ← if count = 2 then expectChar ']' more else pure more
  return (key, more)

/-- Reads a key/value pair. -/
def keyValue (cs : List Char) : Parse (List String × Value × List Char) := do
  let (key, rest) ← dottedKey (cs.length + 1) cs
  let rest ← afterKey rest
  let (v, rest) ← value (rest.length + 1) rest
  return (key, v, rest)

/-- Reads the expressions of a document, each on its own line, with `path`
the table that pairs go to: the root built so far, and the failure that
stopped the reading, if any. -/
def expressions : Nat → List String → List (String × Item) → List Char →
    List (String × Item) × Option String
  | 0, _, root, _ => (root, some "document too long")
  | fuel + 1, path, root, cs =>
    let next (path : List String) (root : List (String × Item)) (rest : List Char) :=
      match endOfLine rest with
      | .ok rest => expressions fuel path root rest
      | .error e => (root, some e)
    match skipSpace cs.length cs with
    | .error e => (root, some e)
    | .ok [] => (root, none)
    | .ok ('[' :: '[' :: rest) =>
      match header 2 rest with
      | .error e => (root, some e)
      | .ok (key, more) =>
        match appendTable key root with
        | .error e => (root, some e)
        | .ok root => next key root more
    | .ok ('[' :: rest) =>
      match header 1 rest with
      | .error e => (root, some e)
      | .ok (key, more) =>
        match defineTable key root with
        | .error e => (root, some e)
        | .ok root => next key root more
    | .ok cs =>
      match keyValue cs with
      | .error e => (root, some e)
      | .ok (key, v, rest) =>
        match setKey path key v root with
        | .error e => (root, some e)
        | .ok root => next path root rest

/-- Reads a document as far as it goes. -/
def parse (text : String) : Document :=
  let cs := text.toList
  let (root, failure) := expressions (cs.length + 1) [] [] cs
  match Item.toValue (cs.length + 2) (.table false root) with
  | .table entries => ⟨entries, failure⟩
  | _ => ⟨[], failure⟩

end Toml

end Userland
