import Userland.Script.Chars
import Userland.Script.Str

namespace Userland

/-! # Reading script tokens

The scanner that the parser drives: it reads one token whenever the parser
asks for the next, because what a character starts can depend on where the
parser stands (a `/` opens a regular expression only where an expression may
start, and a `}` goes on with a template literal only after a substitution).

Places are byte offsets into the UTF-8 source, from 0. A token remembers
whether a line break was passed before it: after a token that may end a
statement (a name, a literal, `)`, `]`, `}`, `++`, `--`, and the words
`this`, `true`, `false`, `null`, `break`, `continue`, `return`, `throw`,
`yield`, `debugger`) a line break or the end of input counts as a
semicolon the parser may use. A block comment that spans lines counts as a
line break after any token.

A text that is no token is an illegal token; the parser reports it where it
finds it. The scanner itself reports only two errors: a character that can
start no token, and a block comment that never closes.
-/

namespace Script

/-- What a token is. -/
inductive Tok where
  | illegal
  | eof
  | ident
  /-- A private name, `#x`. -/
  | privateName
  /-- A reserved word written with escapes. -/
  | escapedWord
  | string
  | number
  /-- The backtick that opens a template literal. -/
  | backtick
  | boolean
  | null
  /-- A word reserved for the future: `enum`, `export`, `import`. -/
  | reserved
  /-- A keyword, by its text. -/
  | word (w : String)
  /-- A punctuator, by its text. -/
  | punct (p : String)
  deriving BEq, Inhabited, Repr

namespace Tok

/-- The token as "Unexpected token ..." names it. -/
def text : Tok → String
  | .illegal => "ILLEGAL"
  | .eof => "EOF"
  | .ident => "IDENTIFIER"
  | .privateName => "PRIVATE_IDENTIFIER"
  | .escapedWord => "ESCAPED_RESERVED_WORD"
  | .string => "STRING"
  | .number => "NUMBER"
  | .backtick => String.singleton Script.backtick
  | .boolean => "BOOLEAN"
  | .null => "NULL"
  | .reserved => "KEYWORD"
  | .word w => w
  | .punct p => p

/-- Whether the token may name a property after a dot or in an object literal:
names and every kind of word. -/
def isId : Tok → Bool
  | .ident | .escapedWord | .boolean | .null | .reserved | .word _ => true
  | _ => false

/-- Whether a keyword may also be a name: `let`, `static`, `async`, `await`, `yield`. -/
def isUnreservedWord : Tok → Bool
  | .word w => w = "let" || w = "static" || w = "async" || w = "await" || w = "yield"
  | _ => false

end Tok

/-- The token a word is, if it is a keyword: none for plain names and for the
words reserved only in strict code, which the scanner reads as names. -/
def keywordTok (s : String) : Option Tok :=
  if ["if", "in", "do", "var", "for", "new", "try", "this", "else", "case", "void", "with",
      "async", "while", "break", "catch", "throw", "return", "typeof", "delete", "switch",
      "default", "finally", "function", "continue", "debugger", "instanceof", "const", "class",
      "extends", "super", "let", "static", "await", "yield"].contains s then some (.word s)
  else if s = "enum" || s = "export" || s = "import" then some .reserved
  else if s = "true" || s = "false" then some .boolean
  else if s = "null" then some .null
  else none

/-- A syntax error: the byte offset it is placed at (-1 before the source)
and its message. -/
structure SyntaxError where
  offset : Int
  message : String
  deriving Inhabited, Repr

/-- What the parser knows about where it stands. -/
structure Flags where
  allowIn : Bool
  allowLet : Bool
  inIteration : Bool
  inSwitch : Bool
  inFunction : Bool
  inAsync : Bool
  allowAwait : Bool
  allowYield : Bool
  inFuncParams : Bool
  inClassField : Bool
  labels : List String
  deriving Inhabited

/-- The flags at the top of a script. -/
def Flags.top : Flags := ⟨true, true, false, false, false, false, false, false, false, false, []⟩

/-- Where scanning and parsing stand. -/
structure Parser where
  chars : Array Char
  /-- The byte offset of each character, and the length of the source last. -/
  offsets : Array Nat
  /-- The place of the current character in `chars`. -/
  pos : Nat
  insertSemicolon : Bool
  implicitSemicolon : Bool
  /-- The current token, its source text, its value, and where it starts. -/
  tok : Tok
  literal : String
  parsed : Str
  idx : Nat
  /-- Where the current token ends, and where the one before it ended. -/
  tokEnd : Nat
  prevEnd : Nat
  errors : Array SyntaxError
  flags : Flags
  /-- Where the last skip to a statement stopped, and how often it stopped there. -/
  recoverIdx : Nat
  recoverCount : Nat
  /-- A count for naming template sites. -/
  sites : Nat
  deriving Inhabited

/-- Parsing steps. -/
abbrev Parse := StateM Parser

/-- What `mark` saves and `restore` puts back. -/
structure Mark where
  pos : Nat
  insertSemicolon : Bool
  implicitSemicolon : Bool
  tok : Tok
  literal : String
  parsed : Str
  idx : Nat
  tokEnd : Nat
  prevEnd : Nat
  errorCount : Nat

namespace Parser

/-- The current character, none at the end. -/
def chr : Parse (Option Char) := do
  let s ← get
  return s.chars[s.pos]?

/-- The character after the current one. -/
def peekChr : Parse (Option Char) := do
  let s ← get
  return s.chars[s.pos + 1]?

/-- The byte offset of the current character. -/
def chrOffset : Parse Nat := do
  let s ← get
  return s.offsets[s.pos]?.getD (s.offsets.back?.getD 0)

/-- The byte offset just after the current character. -/
def afterOffset : Parse Nat := do
  let s ← get
  return s.offsets[s.pos + 1]?.getD (s.offsets.back?.getD 0)

/-- Moves to the next character. -/
def read : Parse Unit :=
  modify fun s => if s.pos < s.chars.size then { s with pos := s.pos + 1 } else s

/-- Whether the current character is `c`. -/
def chrIs (c : Char) : Parse Bool := do return (← chr) == some c

/-- Records an error at a byte offset. -/
def error (offset : Int) (msg : String) : Parse Unit :=
  modify fun s => { s with errors := s.errors.push ⟨offset, msg⟩ }

/-- The source text between two character places. -/
def textBetween (i j : Nat) : Parse String := do
  let s ← get
  return String.ofList (s.chars.extract i j).toList

/-- The character place of a byte offset. -/
def placeOf (offset : Nat) : Parse Nat := do
  let s ← get
  return (s.offsets.findIdx? (· ≥ offset)).getD s.chars.size

/-- The source text between two byte offsets. -/
def slice (a b : Nat) : Parse String := do
  textBetween (← placeOf a) (← placeOf b)

/-- Passes over a line terminator; a carriage return before a line feed goes with it. -/
def scanNewline : Parse Unit := do
  match ← chr with
  | some '\r' =>
    read
    if ← chrIs '\n' then read
  | some _ => read
  | none => pure ()

/-- Passes over blanks and, unless a semicolon may be inserted, line breaks. -/
def skipWhiteSpace : Nat → Parse Unit
  | 0 => pure ()
  | fuel + 1 => do
    match ← chr with
    | none => pure ()
    | some c =>
      if c = ' ' || c = '\t' || c.toNat = 0x0c || c.toNat = 0x0b || c.toNat = 0xa0 || c.toNat = 0xfeff then
        read
        skipWhiteSpace fuel
      else if c = '\r' || c = '\n' || c.toNat = 0x2028 || c.toNat = 0x2029 then
        if c = '\r' && (← peekChr) == some '\n' then read
        if (← get).insertSemicolon then pure ()
        else
          read
          skipWhiteSpace fuel
      else if c.toNat ≥ 0x80 && isWideSpace c then
        read
        skipWhiteSpace fuel
      else pure ()

/-- Passes over blanks up to a line break: whether a line break stands there. -/
def skipToLineBreak : Nat → Parse Bool
  | 0 => pure false
  | fuel + 1 => do
    match ← chr with
    | none => pure false
    | some c =>
      if c = ' ' || c = '\t' || c.toNat = 0x0c || c.toNat = 0x0b || c.toNat = 0xa0 || c.toNat = 0xfeff then
        read
        skipToLineBreak fuel
      else if c = '\r' || c = '\n' || c.toNat = 0x2028 || c.toNat = 0x2029 then
        if c = '\r' && (← peekChr) == some '\n' then read
        pure true
      else if c.toNat ≥ 0x80 && isWideSpace c then
        read
        skipToLineBreak fuel
      else pure false

/-- Passes over a line comment after its first slash, up to the line's end. -/
def skipLineComment : Nat → Parse Unit
  | 0 => pure ()
  | fuel + 1 => do
    if (← chr).isNone then return
    read
    match ← chr with
    | some c => if isLineBreak c then pure () else skipLineComment fuel
    | none => pure ()

/-- Passes over the rest of a block comment after `*`; whether it ends, and
whether a line break stands in it. -/
def skipBlockComment (fuel : Nat) : Parse (Bool × Bool) := do
  read
  let (closed, broke) ← firstLine fuel
  if closed then return (true, false)
  if !broke then return (false, false)
  let closed ← rest fuel
  return (closed, true)
where
  firstLine : Nat → Parse (Bool × Bool)
    | 0 => pure (false, false)
    | fuel + 1 => do
      match ← chr with
      | none => pure (false, false)
      | some c =>
        if isLineBreak c then pure (false, true)
        else
          read
          if c = '*' && (← chrIs '/') then
            read
            pure (true, false)
          else firstLine fuel
  rest : Nat → Parse Bool
    | 0 => pure false
    | fuel + 1 => do
      match ← chr with
      | none => pure false
      | some c =>
        read
        if c = '*' && (← chrIs '/') then
          read
          pure true
        else rest fuel

/-- Reads `n` hexadecimal digits at the front of characters. -/
def hexDigits (n : Nat) (cs : List Char) : Option (Nat × List Char) :=
  let ds := cs.take n
  if ds.length = n && ds.all (fun c => (hexValue c).isSome) then some (digitsValue 16 ds, cs.drop n)
  else none

/-- The units a string literal's body stands for, with escapes read; in a
template (`template`) octal escapes are errors. -/
def cook (template : Bool) : Nat → List Char → List Nat → Except String (List Nat)
  | 0, _, acc => .ok acc.reverse
  | _, [], acc => .ok acc.reverse
  | fuel + 1, c :: rest, acc =>
    if c ≠ '\\' then cook template fuel rest ((Str.unitsOf c).reverse ++ acc)
    else
      match rest with
      | [] => .ok acc.reverse
      | e :: after =>
        if e.toNat ≥ 0x80 then
          if e.toNat = 0x2028 || e.toNat = 0x2029 then cook template fuel after acc
          else cook template fuel after ((Str.unitsOf e).reverse ++ acc)
        else if e = 'b' then cook template fuel after (8 :: acc)
        else if e = 'f' then cook template fuel after (12 :: acc)
        else if e = 'n' then cook template fuel after (10 :: acc)
        else if e = 'r' then cook template fuel after (13 :: acc)
        else if e = 't' then cook template fuel after (9 :: acc)
        else if e = 'v' then cook template fuel after (11 :: acc)
        else if e = 'x' then
          match hexDigits 2 after with
          | some (v, more) => cook template fuel more (v :: acc)
          | none => .error "invalid escape: \\x"
        else if e = 'u' then
          match after with
          | '{' :: more =>
            let ds := more.takeWhile (· ≠ '}')
            if more.drop ds.length = [] then .error "unterminated \\u\x7b"
            else if ds.isEmpty then .error "invalid escape: \\u"
            else if !ds.all (fun d => (hexValue d).isSome) then .error "invalid escape: \\u"
            else
              let v := digitsValue 16 ds
              if v > 0x10FFFF then .error "undefined Unicode code-point"
              else
                let us := if 0xD800 ≤ v && v < 0xE000 then [v] else Str.unitsOf (Char.ofNat v)
                cook template fuel (more.drop (ds.length + 1)) (us.reverse ++ acc)
          | _ =>
            match hexDigits 4 after with
            | some (v, more) => cook template fuel more (v :: acc)
            | none => .error "invalid escape: \\u"
        else if e = '0' && !(after.head?.any fun d => '0' ≤ d && d ≤ '7') then
          cook template fuel after (0 :: acc)
        else if '0' ≤ e && e ≤ '7' then
          if template then .error "Octal escape sequences are not allowed in template strings"
          else
            let more := (after.takeWhile fun d => '0' ≤ d && d ≤ '7').take 2
            cook template fuel (after.drop more.length) (digitsValue 8 (e :: more) :: acc)
        else if e = '\r' then
          match after with
          | '\n' :: more => cook template fuel more acc
          | _ => cook template fuel after acc
        else if e = '\n' then cook template fuel after acc
        else cook template fuel after (e.toNat :: acc)

/-- Reads a name at the current character, escapes included: its source text,
its value, and whether it had escapes; or why it is no name. -/
def scanIdentifier (fuel : Nat) : Parse (Except String (String × String × Bool)) := do
  let start := (← get).pos
  go fuel start false []
where
  go : Nat → Nat → Bool → List Char → Parse (Except String (String × String × Bool))
    | 0, start, esc, acc => do
      return .ok (← textBetween start (← get).pos, String.ofList acc.reverse, esc)
    | fuel + 1, start, esc, acc => do
      match ← chr with
      | some c =>
        if !isNamePart c then
          return .ok (← textBetween start (← get).pos, String.ofList acc.reverse, esc)
        if c = '\\' then
          let first := (← get).pos = start
          read
          if !(← chrIs 'u') then
            return .error "Invalid identifier escape character"
          read
          let value ← if ← chrIs '{' then do
              read
              braced fuel none
            else fourHex 4 0
          match value with
          | none => return .error "Invalid Unicode escape sequence"
          | some v =>
            let ch := Char.ofNat v
            if v = 92 || (first && !isNameStart ch) || (!first && !isNamePart ch) || v > 0x10FFFF then
              return .error "Invalid identifier escape value"
            go fuel start true (ch :: acc)
        else
          read
          go fuel start esc (c :: acc)
      | none => return .ok (← textBetween start (← get).pos, String.ofList acc.reverse, esc)
  fourHex : Nat → Nat → Parse (Option Nat)
    | 0, v => pure (some v)
    | n + 1, v => do
      match (← chr).bind hexValue with
      | some d =>
        read
        fourHex n (v * 16 + d)
      | none => pure none
  braced : Nat → Option Nat → Parse (Option Nat)
    | 0, v => pure v
    | fuel + 1, v => do
      match ← chr with
      | some '}' =>
        read
        pure v
      | some c =>
        match hexValue c with
        | some d =>
          read
          let nv := (v.getD 0) * 16 + d
          if nv > 0x10FFFF then pure none else braced fuel (some nv)
        | none => pure none
      | none => pure none

/-- Passes over digits of a base, and, with `sep`, separators between them:
whether it passed over any. -/
def scanMantissa (base : Nat) (sep : Bool) : Nat → Parse Bool
  | 0 => pure false
  | fuel + 1 => do
    match ← chr with
    | some c =>
      if digitValue c < base then
        read
        let _ ← scanMantissa base sep fuel
        pure true
      else if sep && c = '_' && ((← peekChr).any fun d => digitValue d < base) then
        read
        let _ ← scanMantissa base sep fuel
        pure true
      else pure false
    | none => pure false

/-- Reads a number literal at the current character (after a point when
`point`): the token, illegal when the text is no number. A whole number
without a point or exponent may end in `n`, a big integer. -/
def scanNumber (fuel : Nat) (point : Bool) : Parse Tok := do
  let illegal : Parse Tok := pure .illegal
  if point then
    let _ ← scanMantissa 10 true fuel
  else
    if ← chrIs '0' then
      read
      match ← chr with
      | some c =>
        if c = 'x' || c = 'X' || c = 'o' || c = 'O' || c = 'b' || c = 'B' then
          let base := if c = 'x' || c = 'X' then 16 else if c = 'o' || c = 'O' then 8 else 2
          read
          if !(← scanMantissa base true fuel) then return ← illegal
          if ← chrIs 'n' then read
          if (← chr).any fun d => isNameStart d || d.isDigit then return ← illegal
          return .number
        else if c = '.' || c = 'e' || c = 'E' then pure ()
        else if c = 'n' then
          read
          if (← chr).any fun d => isNameStart d || d.isDigit then return ← illegal
          return .number
        else
          let _ ← scanMantissa 8 false fuel
          if (← chr).any fun d => isNameStart d || d.isDigit then return ← illegal
          return .number
      | none => return .number
    let _ ← scanMantissa 10 true fuel
    if ← chrIs 'n' then
      read
      if (← chr).any fun d => isNameStart d || d.isDigit then return ← illegal
      return .number
    if ← chrIs '.' then
      read
      let _ ← scanMantissa 10 true fuel
  if (← chrIs 'e') || (← chrIs 'E') then
    read
    if (← chrIs '-') || (← chrIs '+') then read
    if (← chr).any Char.isDigit then
      read
      let _ ← scanMantissa 10 true fuel
    else return ← illegal
  if (← chr).any fun d => isNameStart d || d.isDigit then return ← illegal
  return .number

/-- Reads the body of a quoted string after its opening quote, up to and
past the closing quote: the body's characters, or none when a line or the
input ends first (then the scanner stands after that line break). -/
def scanQuoted (quote : Char) : Nat → List Char → Parse (Option (List Char))
  | 0, _ => pure none
  | fuel + 1, acc => do
    match ← chr with
    | none => pure none
    | some c =>
      if c = quote then
        read
        pure (some acc.reverse)
      else if c = '\n' || c = '\r' then
        scanNewline
        pure none
      else
        read
        if c = '\\' then
          match ← chr with
          | none => pure none
          | some d =>
            read
            if d = '\r' && (← chrIs '\n') then
              read
              scanQuoted quote fuel ('\n' :: '\r' :: c :: acc)
            else scanQuoted quote fuel (d :: c :: acc)
        else scanQuoted quote fuel (c :: acc)

/-- What a template piece scan found: its raw text, its value or why the
value is bad, whether it ends the literal, and an error that ends the input. -/
structure TemplatePiece where
  raw : String
  cooked : Except String Str
  finished : Bool
  unterminated : Bool

/-- Reads a piece of a template literal at the current character, up to a
backtick or a `${`, both passed over. -/
def scanTemplatePiece (fuel : Nat) : Parse TemplatePiece := do
  let start := (← get).pos
  go fuel start none []
where
  normalize (cs : List Char) : List Char :=
    match cs with
    | [] => []
    | '\r' :: '\n' :: rest => '\n' :: normalize rest
    | '\r' :: rest => '\n' :: normalize rest
    | c :: rest => c :: normalize rest
  unterminated (acc : List Char) (bad : Option String) : TemplatePiece :=
    ⟨String.ofList acc.reverse, (match bad with | some e => .error e | none => .ok Str.empty), true, true⟩
  finish (body : List Char) (bad : Option String) (finished : Bool) : TemplatePiece :=
    let raw := normalize body
    let cooked := match bad with
      | some e => .error e
      | none => (cook true (raw.length + 1) raw []).map Str.ofUnitList
    ⟨String.ofList raw, cooked, finished, false⟩
  go : Nat → Nat → Option String → List Char → Parse TemplatePiece
    | 0, _, _, acc => pure ⟨String.ofList acc.reverse, .error "", true, true⟩
    | fuel + 1, start, bad, acc => do
      match ← chr with
      | none => pure (unterminated acc bad)
      | some c =>
        read
        if c = backtick then pure (finish acc.reverse bad true)
        else if c = '$' && (← chrIs '{') then
          read
          pure (finish acc.reverse bad false)
        else if c = '\\' then
          match ← chr with
          | none => pure (unterminated acc bad)
          | some d =>
            read
            let bad := if bad.isNone && (d = '8' || d = '9') then
                some "\\8 and \\9 are not allowed in template strings." else bad
            if d = '\r' && (← chrIs '\n') then
              read
              go fuel start bad ('\n' :: '\r' :: c :: acc)
            else go fuel start bad (d :: c :: acc)
        else go fuel start bad (c :: acc)

/-- Reads the body of a regular expression literal after its opening slash,
up to and past the closing slash: the pattern, or none when a line or the
input ends first. A slash inside a class or after a backslash does not close it. -/
def scanRegexBody : Nat → Bool → List Char → Parse (Option String)
  | 0, _, _ => pure none
  | fuel + 1, inClass, acc => do
    match ← chr with
    | none => pure none
    | some c =>
      if c = '/' && !inClass then
        read
        pure (some (String.ofList acc.reverse))
      else if isLineBreak c then
        scanNewline
        pure none
      else
        read
        if c = '\\' then
          match ← chr with
          | none => pure none
          | some d =>
            if isLineBreak d then
              scanNewline
              pure none
            else
              read
              scanRegexBody fuel inClass (d :: c :: acc)
        else if c = '[' then scanRegexBody fuel true (c :: acc)
        else if c = ']' then scanRegexBody fuel false (c :: acc)
        else scanRegexBody fuel inClass (c :: acc)

/-- One of two tokens, the second when `=` follows. -/
def switch2 (t0 t1 : String) : Parse Tok := do
  if ← chrIs '=' then
    read
    return .punct t1
  return .punct t0

/-- Whether a keyword token may be a name where the parser stands. -/
def isBindingId (t : Tok) : Parse Bool := do
  let f := (← get).flags
  match t with
  | .ident => return true
  | .word "await" => return !f.allowAwait
  | .word "yield" => return !f.allowYield
  | _ => return t.isUnreservedWord

/-- Reads the next token. -/
def scan : Nat → Parse Unit
  | 0 => modify fun s => { s with tok := .eof, literal := "", parsed := Str.empty }
  | fuel + 1 => do
    modify fun s => { s with implicitSemicolon := false }
    skipWhiteSpace (fuel + 1)
    let start := (← get).pos
    let startOffset ← chrOffset
    let setTok (t : Tok) (insert : Bool) (parsed : Str) : Parse Unit := do
      let lit ← textBetween start (← get).pos
      let stop ← chrOffset
      modify fun s =>
        { s with tok := t, literal := lit, parsed, idx := startOffset, tokEnd := stop, insertSemicolon := insert }
    -- a token that leaves the insertion flag as it was
    let setKeep (t : Tok) (lit parsed : String) : Parse Unit := do
      let stop ← chrOffset
      modify fun s =>
        { s with tok := t, literal := lit, parsed := Str.ofString parsed, idx := startOffset, tokEnd := stop }
    match ← chr with
    | none =>
      if (← get).insertSemicolon then
        modify fun s => { s with implicitSemicolon := true }
      setTok .eof false Str.empty
    | some c =>
      if isNameStart c then
        match ← scanIdentifier (fuel + 1) with
        | .error _ => setTok .illegal false Str.empty
        | .ok (lit, name, esc) =>
          if name.length > 1 then
            match keywordTok name with
            | some t =>
              if esc then
                let t' := if ← isBindingId t then Tok.ident else Tok.escapedWord
                modify fun s => { s with insertSemicolon := true }
                setKeep t' lit name
              else
                match t with
                | .boolean | .null | .word "this" | .word "break" | .word "throw" | .word "yield"
                | .word "return" | .word "continue" | .word "debugger" =>
                  modify fun s => { s with insertSemicolon := true }
                  setKeep t lit name
                | .word "async" =>
                  if ← skipToLineBreak (fuel + 1) then
                    modify fun s => { s with insertSemicolon := true }
                    setKeep .ident lit name
                  else setKeep t lit name
                | _ => setKeep t lit name
            | none =>
              modify fun s => { s with insertSemicolon := true }
              setKeep .ident lit name
          else
            modify fun s => { s with insertSemicolon := true }
            setKeep .ident lit name
      else if c.isDigit then
        let t ← scanNumber (fuel + 1) false
        setTok t true Str.empty
      else
        read
        let punct (p : String) : Parse Unit := setTok (.punct p) false Str.empty
        let closer (p : String) : Parse Unit := setTok (.punct p) true Str.empty
        let punctAfter (p : String) : Parse Unit := do
          read
          setTok (.punct p) false Str.empty
        match c with
        | '\r' | '\n' =>
          modify fun s => { s with insertSemicolon := false, implicitSemicolon := true }
          scanAgain fuel
        | ':' => punct ":"
        | '.' =>
          if (← chr).any Char.isDigit then
            let t ← scanNumber (fuel + 1) true
            setTok t true Str.empty
          else if ← chrIs '.' then
            read
            if ← chrIs '.' then
              read
              punct "..."
            else setTok .illegal false Str.empty
          else punct "."
        | ',' => punct ","
        | ';' => punct ";"
        | '(' => punct "("
        | ')' => closer ")"
        | '[' => punct "["
        | ']' => closer "]"
        | '{' => punct "\x7b"
        | '}' => closer "\x7d"
        | '+' =>
          if ← chrIs '=' then punctAfter "+="
          else if ← chrIs '+' then
            read
            closer "++"
          else punct "+"
        | '-' =>
          if ← chrIs '=' then punctAfter "-="
          else if ← chrIs '-' then
            read
            closer "--"
          else punct "-"
        | '*' =>
          if ← chrIs '*' then
            read
            let t ← switch2 "**" "**="
            setTok t false Str.empty
          else
            let t ← switch2 "*" "*="
            setTok t false Str.empty
        | '/' =>
          if ← chrIs '/' then
            skipLineComment (fuel + 1)
            scanAgain fuel
          else if ← chrIs '*' then
            let (closed, broke) ← skipBlockComment (fuel + 1)
            if !closed then error (← chrOffset) "Unexpected end of input"
            if broke then modify fun s => { s with insertSemicolon := false, implicitSemicolon := true }
            scanAgain fuel
          else
            let t ← switch2 "/" "/="
            setTok t true Str.empty
        | '%' => do
          let t ← switch2 "%" "%="
          setTok t false Str.empty
        | '^' => do
          let t ← switch2 "^" "^="
          setTok t false Str.empty
        | '<' =>
          if ← chrIs '=' then punctAfter "<="
          else if ← chrIs '<' then
            read
            let t ← switch2 "<<" "<<="
            setTok t false Str.empty
          else punct "<"
        | '>' =>
          if ← chrIs '=' then punctAfter ">="
          else if ← chrIs '>' then
            read
            if ← chrIs '=' then punctAfter ">>="
            else if ← chrIs '>' then
              read
              let t ← switch2 ">>>" ">>>="
              setTok t false Str.empty
            else punct ">>"
          else punct ">"
        | '=' =>
          if ← chrIs '>' then
            read
            if (← get).implicitSemicolon then setTok .illegal false Str.empty else punct "=>"
          else if ← chrIs '=' then
            read
            if ← chrIs '=' then punctAfter "==="
            else punct "=="
          else punct "="
        | '!' =>
          if ← chrIs '=' then
            read
            if ← chrIs '=' then punctAfter "!=="
            else punct "!="
          else punct "!"
        | '&' =>
          if ← chrIs '=' then punctAfter "&="
          else if ← chrIs '&' then
            read
            if ← chrIs '=' then punctAfter "&&="
            else punct "&&"
          else punct "&"
        | '|' =>
          if ← chrIs '=' then punctAfter "|="
          else if ← chrIs '|' then
            read
            if ← chrIs '=' then punctAfter "||="
            else punct "||"
          else punct "|"
        | '~' => punct "~"
        | '?' =>
          if (← chrIs '.') && !((← peekChr).any Char.isDigit) then punctAfter "?."
          else if ← chrIs '?' then
            read
            if ← chrIs '=' then punctAfter "??="
            else punct "??"
          else punct "?"
        | '"' | '\'' =>
          match ← scanQuoted c (fuel + 1) [] with
          | none => setTok .illegal true Str.empty
          | some body =>
            match cook false (body.length + 1) body [] with
            | .ok us => setTok .string true (Str.ofUnitList us)
            | .error _ => setTok .illegal true Str.empty
        | '#' =>
          if startOffset = 0 && (← chrIs '!') then
            skipLineComment (fuel + 1)
            scanAgain fuel
          else
            match ← scanIdentifier (fuel + 1) with
            | .ok (lit, name, _) =>
              if lit.isEmpty then setTok .illegal false Str.empty
              else
                modify fun s => { s with insertSemicolon := true }
                setKeep .privateName ("#" ++ lit) name
            | .error _ => setTok .illegal false Str.empty
        | _ =>
          if c = backtick then setTok .backtick false Str.empty
          else if c.toNat = 0x2028 || c.toNat = 0x2029 then
            modify fun s => { s with insertSemicolon := false, implicitSemicolon := true }
            scanAgain fuel
          else
            error startOffset "Unexpected token ILLEGAL"
            setTok .illegal false Str.empty
where
  /-- Goes on scanning after a line break or comment, keeping the flags it set. -/
  scanAgain : Nat → Parse Unit
    | 0 => modify fun s => { s with tok := .eof }
    | fuel + 1 => do
      let implicit := (← get).implicitSemicolon
      scan (fuel + 1)
      if implicit then modify fun s => { s with implicitSemicolon := true }

/-- Moves to the next token. -/
def next : Parse Unit := do
  let s ← get
  set { s with prevEnd := s.tokEnd }
  scan (s.chars.size - s.pos + 4)

/-- What `restore` needs to go back to where the parser stands. -/
def mark : Parse Mark := do
  let s ← get
  return ⟨s.pos, s.insertSemicolon, s.implicitSemicolon, s.tok, s.literal, s.parsed, s.idx, s.tokEnd,
    s.prevEnd, s.errors.size⟩

/-- Goes back to a mark, forgetting the errors found since. -/
def restore (m : Mark) : Parse Unit :=
  modify fun s =>
    { s with
      pos := m.pos
      insertSemicolon := m.insertSemicolon
      implicitSemicolon := m.implicitSemicolon
      tok := m.tok
      literal := m.literal
      parsed := m.parsed
      idx := m.idx
      tokEnd := m.tokEnd
      prevEnd := m.prevEnd
      errors := s.errors.extract 0 m.errorCount }

/-- The token after the current one, without moving; errors found scanning
it are kept. -/
def peek : Parse Tok := do
  let m ← mark
  next
  let s ← get
  let t := s.tok
  restore { m with errorCount := s.errors.size }
  return t

end Parser

/-- A parser at the start of a source, before its first token. -/
def Parser.start (src : String) : Parser :=
  let chars := src.toList.toArray
  let offsets := (chars.foldl (fun (acc : Array Nat × Nat) c => (acc.1.push acc.2, acc.2 + c.utf8Size))
    (#[], 0))
  ⟨chars, offsets.1.push offsets.2, 0, false, false, .eof, "", Str.empty, 0, 0, 0, #[], Flags.top, 0, 0, 0⟩

/-- The line and column of a byte offset in a source: lines from 1, columns
counting bytes from 1; an offset before the source is column 0 of line 1. -/
def placeIn (src : String) (offset : Int) : Nat × Int :=
  if offset < 0 then (1, offset + 1)
  else
    let bs := src.toUTF8
    let n := offset.toNat
    let rec go (i line lineStart : Nat) (fuel : Nat) : Nat × Nat :=
      match fuel with
      | 0 => (line, lineStart)
      | fuel + 1 =>
        if i ≥ n || i ≥ bs.size then (line, lineStart)
        else
          let b := bs.get! i
          if b = 10 then go (i + 1) (line + 1) (i + 1) fuel
          else if b = 13 then
            if i + 1 < bs.size && bs.get! (i + 1) = 10 then
              if i + 1 < n then go (i + 2) (line + 1) (i + 2) fuel else (line, lineStart)
            else go (i + 1) (line + 1) (i + 1) fuel
          else if b = 0xE2 && i + 2 < bs.size && bs.get! (i + 1) = 0x80 &&
              (bs.get! (i + 2) = 0xA8 || bs.get! (i + 2) = 0xA9) then
            if i + 2 < n then go (i + 3) (line + 1) (i + 3) fuel else (line, lineStart)
          else go (i + 1) line lineStart fuel
    let (line, lineStart) := go 0 1 0 (n + 1)
    (line, (n : Int) - lineStart + 1)

end Script

end Userland
