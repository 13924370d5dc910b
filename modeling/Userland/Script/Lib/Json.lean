import Userland.Script.Object

namespace Userland

/-! # JSON

`JSON.parse` reads its text as a stream of tokens, the way a streaming JSON
decoder does: brackets and braces are tokens of their own, and each other
value is scanned to its end and then decoded whole. The decoder's states say
what may come next (a value, a comma, a colon, a key) and its failures are
worded by the state it was in; running out of input between tokens is the
end of input, and running out inside a value is an unexpected end. Once the
value is read, any further token is an error. Strings decode their escapes,
a lone surrogate escape becoming U+FFFD; a number that no double holds is an
error.

`JSON.stringify` writes a value as JSON text: an object's `toJSON` and the
replacer speak for it first, functions and `undefined` are left out (or
written as `null` in arrays), numbers that are not finite are `null`,
control characters and lone surrogates are escaped, and an object met again
inside itself is an error.
-/

namespace Script

namespace Json

open Eval

/-! ## The decoder -/

/-- A decoded JSON value. -/
inductive Tree where
  | null
  | bool (b : Bool)
  | num (x : Float)
  | str (s : String)
  | arr (items : Array Tree)
  | obj (fields : Array (String × Tree))
  deriving Inhabited

/-- What the decoder expects next. -/
inductive TokState where
  | topValue
  | arrayStart
  | arrayValue
  | arrayComma
  | objectStart
  | objectKey
  | objectColon
  | objectValue
  | objectComma
  deriving BEq, Inhabited

/-- A token: a bracket or brace, or a whole value. -/
inductive Token where
  | delim (c : Char)
  | null
  | bool (b : Bool)
  | num (x : Float)
  | str (s : String)
  deriving Inhabited

/-- How decoding failed: the input ended between tokens, or with a message. -/
inductive Failure where
  | eof
  | error (msg : String)
  deriving Inhabited

/-- The decoder: its input, its place, its state and the states it will return to. -/
structure Decoder where
  buf : ByteArray
  pos : Nat
  state : TokState
  stack : List TokState

/-- Whether a byte is JSON whitespace. -/
def isSpace (b : UInt8) : Bool := b == 0x20 || b == 0x09 || b == 0x0A || b == 0x0D

/-- A byte as the decoder quotes it in messages. -/
def quoteByte (b : UInt8) : String :=
  let c := Char.ofNat b.toNat
  if c == '\'' then "'\\''"
  else if c == '"' then "'\"'"
  else if c == '\n' then "'\\n'"
  else if c == '\r' then "'\\r'"
  else if c == '\t' then "'\\t'"
  else if b.toNat == 7 then "'\\a'"
  else if b.toNat == 8 then "'\\b'"
  else if b.toNat == 12 then "'\\f'"
  else if b.toNat == 11 then "'\\v'"
  else if b.toNat == 0x5C then "'\\\\'"
  else if b.toNat < 0x20 || b.toNat == 0x7F then
    let hex := "0123456789abcdef".toList
    "'\\x" ++ String.ofList [hex.getD (b.toNat / 16) '0', hex.getD (b.toNat % 16) '0'] ++ "'"
  else if b.toNat ≥ 0x80 && b.toNat < 0xA0 then
    let hex := "0123456789abcdef".toList
    "'\\u00" ++ String.ofList [hex.getD (b.toNat / 16) '0', hex.getD (b.toNat % 16) '0'] ++ "'"
  else if b.toNat == 0xAD then "'\\u00ad'"
  else if b.toNat == 0xA0 then "'\\u00a0'"
  else "'" ++ c.toString ++ "'"

/-- The failure of a byte in a context. -/
def invalid (b : UInt8) (context : String) : Failure :=
  .error ("invalid character " ++ quoteByte b ++ context)

/-- The next byte that is not whitespace, and its place; none at the end. -/
def peek (d : Decoder) : Option (UInt8 × Nat) := Id.run do
  let mut i := d.pos
  for _ in [0:d.buf.size + 1] do
    match d.buf[i]? with
    | none => return none
    | some b =>
      if isSpace b then i := i + 1
      else return some (b, i)
  return none

/-- The scanner of a single value's bytes. -/
inductive Scan where
  | begin
  | inString
  | escape
  | escapeU (left : Nat)
  | neg
  | one
  | zero
  | dot
  | dot0
  | exp
  | expSign
  | exp0
  /-- Inside a literal: the bytes still expected and the literal's name. -/
  | literal (rest : List Char) (name : String)
  | done
  deriving Inhabited

/-- What a step of the scanner found. -/
inductive ScanStep where
  | next (s : Scan)
  /-- The value ended before this byte. -/
  | finish
  | fail (msg : String)

/-- Whether a byte is a decimal digit. -/
def isDigit (b : UInt8) : Bool := 0x30 ≤ b && b ≤ 0x39

/-- Whether a byte is a hexadecimal digit. -/
def isHex (b : UInt8) : Bool := isDigit b || (0x61 ≤ b && b ≤ 0x66) || (0x41 ≤ b && b ≤ 0x46)

/-- The scanner's step after a number's digits: a fraction, an exponent or the end. -/
def afterZero (b : UInt8) : ScanStep :=
  if b == 0x2E then .next .dot
  else if b == 0x65 || b == 0x45 then .next .exp
  else .finish

/-- One step of the scanner. -/
def scanStep (s : Scan) (b : UInt8) : ScanStep :=
  let fail (ctx : String) : ScanStep := match invalid b (" " ++ ctx) with
    | .error m => .fail m
    | .eof => .fail ""
  match s with
  | .begin =>
    if b == 0x22 then .next .inString
    else if b == 0x2D then .next .neg
    else if b == 0x30 then .next .zero
    else if 0x31 ≤ b && b ≤ 0x39 then .next .one
    else if b == 0x74 then .next (.literal ['r', 'u', 'e'] "true")
    else if b == 0x66 then .next (.literal ['a', 'l', 's', 'e'] "false")
    else if b == 0x6E then .next (.literal ['u', 'l', 'l'] "null")
    else fail "looking for beginning of value"
  | .inString =>
    if b == 0x22 then .next .done
    else if b == 0x5C then .next .escape
    else if b < 0x20 then fail "in string literal"
    else .next .inString
  | .escape =>
    if "bfnrt\\/\"".toList.any (·.toNat == b.toNat) then .next .inString
    else if b == 0x75 then .next (.escapeU 4)
    else fail "in string escape code"
  | .escapeU left =>
    if isHex b then .next (if left ≤ 1 then .inString else .escapeU (left - 1))
    else fail "in \\u hexadecimal character escape"
  | .neg =>
    if b == 0x30 then .next .zero
    else if 0x31 ≤ b && b ≤ 0x39 then .next .one
    else fail "in numeric literal"
  | .one => if isDigit b then .next .one else afterZero b
  | .zero => afterZero b
  | .dot => if isDigit b then .next .dot0 else fail "after decimal point in numeric literal"
  | .dot0 =>
    if isDigit b then .next .dot0
    else if b == 0x65 || b == 0x45 then .next .exp
    else .finish
  | .exp =>
    if b == 0x2B || b == 0x2D then .next .expSign
    else if isDigit b then .next .exp0
    else fail "in exponent of numeric literal"
  | .expSign => if isDigit b then .next .exp0 else fail "in exponent of numeric literal"
  | .exp0 => if isDigit b then .next .exp0 else .finish
  | .literal rest name =>
    match rest with
    | c :: more =>
      if b.toNat == c.toNat then .next (if more.isEmpty then .done else .literal more name)
      else fail ("in literal " ++ name ++ " (expecting " ++ quoteByte c.toNat.toUInt8 ++ ")")
    | [] => .finish
  | .done => .finish

/-- Scans one value from a place: its length in bytes. -/
def readValue (buf : ByteArray) (start : Nat) : Except Failure Nat := Id.run do
  let mut s := Scan.begin
  let mut i := start
  for _ in [0:buf.size - start + 1] do
    match buf[i]? with
    | none =>
      match scanStep s 0x20 with
      | .finish => return .ok (i - start)
      | _ => return .error (.error "unexpected EOF")
    | some b =>
      match scanStep s b with
      | .next s' =>
        s := s'
        i := i + 1
      | .finish => return .ok (i - start)
      | .fail m => return .error (.error m)
  return .error (.error "unexpected EOF")

/-- The value of four hexadecimal digits at a place. -/
def hex4 (bs : List UInt8) : Option Nat :=
  match bs with
  | [a, b, c, d] =>
    [a, b, c, d].foldlM (fun acc x => (hexValue (Char.ofNat x.toNat)).map (acc * 16 + ·)) 0
  | _ => none

/-- The UTF-8 bytes of a code point. -/
def utf8Of (c : Nat) : List UInt8 :=
  (if c < 0x80 then [c]
  else if c < 0x800 then [0xC0 + c / 64, 0x80 + c % 64]
  else if c < 0x10000 then [0xE0 + c / 4096, 0x80 + (c / 64) % 64, 0x80 + c % 64]
  else [0xF0 + c / 262144, 0x80 + (c / 4096) % 64, 0x80 + (c / 64) % 64, 0x80 + c % 64]).map Nat.toUInt8

/-- Decodes the escapes of a string literal's bytes between its quotes. -/
def unquote (bs : List UInt8) : String := Id.run do
  let mut out : Array UInt8 := #[]
  let mut rest := bs
  for _ in [0:bs.length + 1] do
    match rest with
    | [] => break
    | 0x5C :: c :: more =>
      if c == 0x75 then
        match hex4 (more.take 4) with
        | some u =>
          let after := more.drop 4
          if 0xD800 ≤ u && u < 0xE000 then
            let pair := match after with
              | 0x5C :: 0x75 :: tail =>
                match hex4 (tail.take 4) with
                | some lo => if u < 0xDC00 && 0xDC00 ≤ lo && lo < 0xE000 then some (lo, tail.drop 4) else none
                | none => none
              | _ => none
            match pair with
            | some (lo, tail) =>
              out := out ++ (utf8Of (0x10000 + (u - 0xD800) * 0x400 + (lo - 0xDC00))).toArray
              rest := tail
            | none =>
              out := out ++ (utf8Of 0xFFFD).toArray
              rest := after
          else
            out := out ++ (utf8Of u).toArray
            rest := after
        | none =>
          out := out ++ (utf8Of 0xFFFD).toArray
          rest := more
      else
        let ch : UInt8 := match Char.ofNat c.toNat with
          | 'b' => 8 | 'f' => 12 | 'n' => 10 | 'r' => 13 | 't' => 9
          | _ => c
        out := out.push ch
        rest := more
    | b :: more =>
      out := out.push b
      rest := more
  return (String.fromUTF8? (ByteArray.mk out)).getD ""

/-- Decodes a scanned value's bytes. -/
def decodeScalar (bs : List UInt8) : Except Failure Token :=
  match bs with
  | 0x22 :: rest => .ok (.str (unquote (rest.take (rest.length - 1))))
  | 0x74 :: _ => .ok (.bool true)
  | 0x66 :: _ => .ok (.bool false)
  | 0x6E :: _ => .ok .null
  | _ =>
    let text := String.ofList (bs.map fun b => Char.ofNat b.toNat)
    let x := Number.ofString text
    if x.isInf then .error (.error ("json: cannot unmarshal number " ++ text ++ " into Go value of type float64"))
    else .ok (.num x)

/-- The context a failure names for a state. -/
def context : TokState → String
  | .topValue | .arrayStart | .arrayValue | .objectValue => " looking for beginning of value"
  | .arrayComma => " after array element"
  | .objectKey => " looking for beginning of object key string"
  | .objectColon => " after object key"
  | .objectComma => " after object key:value pair"
  | .objectStart => ""

/-- Whether a value may come in a state. -/
def valueAllowed : TokState → Bool
  | .topValue | .arrayStart | .arrayValue | .objectValue => true
  | _ => false

/-- The state after a value ends. -/
def afterValue : TokState → TokState
  | .arrayStart | .arrayValue => .arrayComma
  | .objectValue => .objectComma
  | s => s

/-- Decodes the value at a place: the token and the place after it. -/
def decodeAt (d : Decoder) (at_ : Nat) : Except Failure (Token × Nat) := do
  let n ← readValue d.buf at_
  let tok ← decodeScalar ((d.buf.extract at_ (at_ + n)).toList)
  return (tok, at_ + n)

/-- The next token, and the decoder after it. -/
def nextToken (d : Decoder) : Except Failure (Token × Decoder) := Id.run do
  let mut d := d
  for _ in [0:d.buf.size + 2] do
    match peek d with
    | none => return .error .eof
    | some (b, at_) =>
      let c := Char.ofNat b.toNat
      if c == '[' || c == '{' then
        if !valueAllowed d.state then return .error (invalid b (context d.state))
        let st := if c == '[' then TokState.arrayStart else .objectStart
        return .ok (.delim c, { d with pos := at_ + 1, stack := d.state :: d.stack, state := st })
      else if c == ']' || c == '}' then
        let ok := if c == ']' then d.state == .arrayStart || d.state == .arrayComma
          else d.state == .objectStart || d.state == .objectComma
        if !ok then return .error (invalid b (context d.state))
        let (st, stack) := match d.stack with
          | s :: rest => (s, rest)
          | [] => (TokState.topValue, [])
        return .ok (.delim c, { d with pos := at_ + 1, state := afterValue st, stack })
      else if c == ':' then
        if d.state != .objectColon then return .error (invalid b (context d.state))
        d := { d with pos := at_ + 1, state := .objectValue }
      else if c == ',' then
        if d.state == .arrayComma then d := { d with pos := at_ + 1, state := .arrayValue }
        else if d.state == .objectComma then d := { d with pos := at_ + 1, state := .objectKey }
        else return .error (invalid b (context d.state))
      else if c == '"' && (d.state == .objectStart || d.state == .objectKey) then
        match decodeAt d at_ with
        | .ok (tok, after) => return .ok (tok, { d with pos := after, state := .objectColon })
        | .error e => return .error e
      else
        if !valueAllowed d.state then return .error (invalid b (context d.state))
        match decodeAt d at_ with
        | .ok (tok, after) => return .ok (tok, { d with pos := after, state := afterValue d.state })
        | .error e => return .error e
  return .error .eof

mutual

/-- Decodes the value a token starts. -/
def decodeToken (fuel : Nat) (d : Decoder) (tok : Token) : Except Failure (Tree × Decoder) :=
  match fuel with
  | 0 => .error (.error "nesting too deep")
  | n + 1 =>
    match tok with
    | .delim '{' => decodeObject n d #[]
    | .delim '[' => decodeArray n d #[]
    | .delim c => .error (.error ("Unexpected token (json.Delim): " ++ c.toString))
    | .null => .ok (.null, d)
    | .bool b => .ok (.bool b, d)
    | .num x => .ok (.num x, d)
    | .str s => .ok (.str s, d)

/-- Decodes the rest of an object, after fields already read. -/
def decodeObject (fuel : Nat) (d : Decoder) (fields : Array (String × Tree)) :
    Except Failure (Tree × Decoder) :=
  match fuel with
  | 0 => .error (.error "nesting too deep")
  | n + 1 => do
    let (tok, d) ← nextToken d
    match tok with
    | .delim '}' => return (.obj fields, d)
    | .str key =>
      let (vt, d) ← nextToken d
      let (v, d) ← decodeToken n d vt
      let fields := match fields.findIdx? (·.1 == key) with
        | some i => fields.set! i (key, v)
        | none => fields.push (key, v)
      decodeObject n d fields
    | _ => .error (.error "Unexpected token")

/-- Decodes the rest of an array, after items already read. -/
def decodeArray (fuel : Nat) (d : Decoder) (items : Array Tree) : Except Failure (Tree × Decoder) :=
  match fuel with
  | 0 => .error (.error "nesting too deep")
  | n + 1 => do
    let (tok, d) ← nextToken d
    match tok with
    | .delim ']' => return (.arr items, d)
    | _ =>
      let (v, d) ← decodeToken n d tok
      decodeArray n d (items.push v)

end

/-- How a token prints in the message about text after the value. -/
def tokenText : Token → String
  | .delim c => c.toString
  | .null => "<nil>"
  | .bool b => if b then "true" else "false"
  | .num x => Decimal.generalText x
  | .str s => s

/-- Decodes a whole JSON text, or the message of its failure. -/
def decode (text : String) : Except String Tree :=
  let d : Decoder := ⟨text.toUTF8, 0, .topValue, []⟩
  let fuel := 4 * text.utf8ByteSize + 16
  let first := do
    let (tok, d) ← nextToken d
    decodeToken fuel d tok
  match first with
  | .error .eof => .error "Unexpected end of JSON input (EOF)"
  | .error (.error m) => .error m
  | .ok (v, d) =>
    match nextToken d with
    | .error .eof => .ok v
    | .error (.error _) => .error "Unexpected token at the end: <nil>"
    | .ok (tok, _) => .error ("Unexpected token at the end: " ++ tokenText tok)

/-- Makes script values of a decoded tree. -/
def build (cb : Callbacks) : Nat → Tree → Eval Value
  | 0, _ => return .null
  | n + 1, t => do
    match t with
    | .null => return .null
    | .bool b => return .bool b
    | .num x => return .num x
    | .str s => return Value.ofString s
    | .arr items => newArray (← items.mapM (build cb n))
    | .obj fields =>
      let r ← alloc (Obj.ordinary (some (← intr).objectProto))
      for (k, v) in fields do
        let _ ← createData cb r (keyOf k) (← build cb n v)
      return .obj r

/-- Walks a parsed value bottom up, letting the reviver replace or drop each part. -/
def revive (cb : Callbacks) (reviver : Value) : Nat → Nat → Key → Eval Value
  | 0, _, _ => return .undefined
  | n + 1, holder, name => do
    let v ← get cb holder name
    match v with
    | .obj r =>
      let keys ← if ← isArray v then do
          let len ← lengthOf cb r
          pure ((List.range len).map Key.ofIndex)
        else do
          let mut ks := []
          for k in ← ownKeys cb r do
            if !k.isStr then continue
            match ← getOwn cb r k with
            | some p => if p.enumerable then ks := k :: ks
            | none => pure ()
          pure ks.reverse
      for k in keys do
        let nv ← revive cb reviver n r k
        if nv.isUndefined then
          let _ ← deleteProp cb r k
        else
          let _ ← createData cb r k nv
    | _ => pure ()
    cb.call reviver (.obj holder) [keyValue name, v]

/-- `JSON.parse`. -/
def parse (cb : Callbacks) (args : List Value) : Eval Value := do
  let text ← toStr cb (arg args 0)
  match decode text.lossy with
  | .error m => throwSyntax m
  | .ok tree =>
    let v ← build cb 100000 tree
    let reviver := arg args 1
    if ← isCallable reviver then
      let root ← alloc (Obj.ordinary (some (← intr).objectProto))
      let _ ← createData cb root (keyOf "") v
      revive cb reviver 100000 root (keyOf "")
    else return v

/-! ## The encoder -/

/-- The lower-case hexadecimal digits. -/
def hexDigits : List Char := "0123456789abcdef".toList

/-- A unit as a `\u` escape. -/
def unitEscape (u : Nat) : List Nat :=
  ['\\'.toNat, 'u'.toNat] ++ [u / 4096, (u / 256) % 16, (u / 16) % 16, u % 16].map fun d => (hexDigits.getD d '0').toNat

/-- A string as JSON text. -/
def quote (s : Str) : Str := Id.run do
  let us := s.units
  let mut out : Array Nat := #['"'.toNat]
  let mut i := 0
  for _ in [0:us.size] do
    if i ≥ us.size then break
    let u := us[i]!
    if u == '"'.toNat || u == '\\'.toNat then out := out.push '\\'.toNat |>.push u
    else if u == 8 then out := out ++ #['\\'.toNat, 'b'.toNat]
    else if u == 12 then out := out ++ #['\\'.toNat, 'f'.toNat]
    else if u == 10 then out := out ++ #['\\'.toNat, 'n'.toNat]
    else if u == 13 then out := out ++ #['\\'.toNat, 'r'.toNat]
    else if u == 9 then out := out ++ #['\\'.toNat, 't'.toNat]
    else if u < 0x20 then out := out ++ (unitEscape u).toArray
    else if Str.isHigh u then
      match us[i + 1]? with
      | some lo =>
        if Str.isLow lo then
          out := out.push u |>.push lo
          i := i + 1
        else out := out ++ (unitEscape u).toArray
      | none => out := out ++ (unitEscape u).toArray
    else if Str.isLow u then out := out ++ (unitEscape u).toArray
    else out := out.push u
    i := i + 1
  return Str.ofUnits (out.push '"'.toNat)

/-- What `JSON.stringify` was told: a replacer function, a list of keys, and the indentation step. -/
structure Options where
  replacer : Option Value
  keys : Option (List Key)
  gap : Str

/-- The own enumerable string keys of an object, in order. -/
def enumerableKeys (cb : Callbacks) (r : Nat) : Eval (List Key) := do
  let mut ks := []
  for k in ← ownKeys cb r do
    if !k.isStr then continue
    match ← getOwn cb r k with
    | some p => if p.enumerable then ks := k :: ks
    | none => pure ()
  return ks.reverse

/-- The JSON text of the value under a key of a holder, if it has one; the
objects being written are on `stack`, and `indent` is the current indentation. -/
def serialize (cb : Callbacks) (opts : Options) : Nat → List Nat → Str → Nat → Key → Eval (Option Str)
  | 0, _, _, _, _ => throwRange "Maximum call stack size exceeded"
  | n + 1, stack, indent, holder, key => do
    let mut v ← get cb holder key
    if let .obj _ := v then
      let toJson ← getV cb v (keyOf "toJSON")
      if ← isCallable toJson then v ← cb.call toJson v [keyValue key]
    if let some f := opts.replacer then
      v ← cb.call f (.obj holder) [keyValue key, v]
    if let .obj r := v then
      match (← getObj r).kind with
      | .boxed (.num _) => v := .num (← toNumber cb v)
      | .boxed (.str _) => v := .str (← toStr cb v)
      | .boxed (.bool b) => v := .bool b
      | .boxed (.big n) => v := .big n
      | _ => pure ()
    match v with
    | .big _ => throwType "Do not know how to serialize a BigInt"
    | .null => return some (Str.ofString "null")
    | .bool b => return some (Str.ofString (if b then "true" else "false"))
    | .str s => return some (quote s)
    | .num x => return some (Str.ofString (if x.isNaN || x.isInf then "null" else Number.text x))
    | .obj r =>
      if ← isCallable v then return none
      if stack.contains r then throwType "Converting circular structure to JSON"
      let inner := indent ++ opts.gap
      let stack := r :: stack
      let pretty := !opts.gap.isEmpty
      let sep := if pretty then Str.ofString ",\n" ++ inner else Str.ofString ","
      let wrap (o c : String) (parts : List Str) : Str :=
        if parts.isEmpty then Str.ofString (o ++ c)
        else if pretty then
          Str.ofString (o ++ "\n") ++ inner ++ Str.join sep parts ++ Str.ofString "\n" ++ indent ++ Str.ofString c
        else Str.ofString o ++ Str.join sep parts ++ Str.ofString c
      if ← isArray v then
        let len ← lengthOf cb r
        let mut parts : Array Str := #[]
        for i in [0:len] do
          let t ← serialize cb opts n stack inner r (Key.ofIndex i)
          parts := parts.push (t.getD (Str.ofString "null"))
        return some (wrap "[" "]" parts.toList)
      let keys ← match opts.keys with
        | some ks => pure ks
        | none => enumerableKeys cb r
      let mut parts : Array Str := #[]
      for k in keys do
        match ← serialize cb opts n stack inner r k with
        | some t =>
          let name ← match k with
            | .str s => pure s
            | .sym _ => pure Str.empty
          parts := parts.push (quote name ++ Str.ofString (if pretty then ": " else ":") ++ t)
        | none => pure ()
      return some (wrap "\x7b" "\x7d" parts.toList)
    | _ => return none

/-- `JSON.stringify`. -/
def stringify (cb : Callbacks) (args : List Value) : Eval Value := do
  let rep := arg args 1
  let mut replacer := none
  let mut keys := none
  if ← isCallable rep then replacer := some rep
  else if ← isArray rep then
    let r := rep.ref?.getD 0
    let len ← lengthOf cb r
    let mut ks : Array Key := #[]
    for i in [0:len] do
      let item ← get cb r (Key.ofIndex i)
      let k ← match item with
        | .str s => pure (some (Key.str s))
        | .num _ => pure (some (Key.str (← toStr cb item)))
        | .obj o =>
          match (← getObj o).kind with
          | .boxed (.str _) | .boxed (.num _) => pure (some (Key.str (← toStr cb item)))
          | _ => pure none
        | _ => pure none
      if let some k := k then
        if !ks.contains k then ks := ks.push k
    keys := some ks.toList
  let mut space := arg args 2
  if let .obj o := space then
    match (← getObj o).kind with
    | .boxed (.num _) => space := .num (← toNumber cb space)
    | .boxed (.str _) => space := .str (← toStr cb space)
    | _ => pure ()
  let gap : Str := match space with
    | .num x =>
      let n := if x.isNaN || x < 1 then 0 else if x > 10 then 10 else x.toUInt64.toNat
      Str.ofString (String.ofList (List.replicate n ' '))
    | .str s => s.slice 0 10
    | _ => Str.empty
  let holder ← alloc (Obj.ordinary (some (← intr).objectProto))
  let _ ← createData cb holder (keyOf "") (arg args 0)
  match ← serialize cb ⟨replacer, keys, gap⟩ 100000 [] Str.empty holder (keyOf "") with
  | some s => return .str s
  | none => return .undefined

/-- Runs a function of `JSON`. -/
def run (cb : Callbacks) (f : JsonFn) (args : List Value) : Eval Value :=
  match f with
  | .parse => parse cb args
  | .stringify => stringify cb args

end Json

end Script

end Userland
