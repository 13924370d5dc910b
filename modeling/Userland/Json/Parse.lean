import Userland.Json.Basic
import Userland.Text.Quoted

namespace Userland

/-! # Reading JSON

A reader for one JSON text that stops at the first character which cannot
continue it and names that character and what was expected there, in the words
a strict JSON scanner uses ("invalid character 'x' after array element").
Running out of input inside a value is its own error.

A `\u` escape of a lone surrogate reads as U+FFFD; a pair of escapes that form
a surrogate pair reads as the one character they encode. An integer literal
becomes `Json.int`; a number with a fraction or an exponent keeps its text.
-/

/-- Why a text is not JSON. -/
inductive JsonError where
  /-- The input ended inside a value. -/
  | unexpectedEnd
  /-- Character `c` cannot stand where the reader was `expecting`. -/
  | invalidChar (c : Char) (expecting : String)
  deriving Repr, Inhabited, DecidableEq

namespace JsonError

/-- The first byte of the character's UTF-8 form, read back as a character of
that number: a scanner that works on bytes names that byte. -/
def leadByte (c : Char) : Char :=
  let n := c.toNat
  if n < 0x80 then c
  else if n < 0x800 then Char.ofNat (0xC0 + n / 0x40)
  else if n < 0x10000 then Char.ofNat (0xE0 + n / 0x1000)
  else Char.ofNat (0xF0 + n / 0x40000)

/-- A character between single quotes, escaped as in quoted text. -/
def quoteChar (c : Char) : String :=
  if c = '\'' then "'\\''"
  else if c = '"' then "'\"'"
  else "'" ++ Text.quoteChar c ++ "'"

/-- The message of the error. -/
def message : JsonError → String
  | .unexpectedEnd => "unexpected end of JSON input"
  | .invalidChar c e => "invalid character " ++ quoteChar (leadByte c) ++ " " ++ e

end JsonError

namespace Json

/-- Blanks allowed between tokens. -/
def isBlank (c : Char) : Bool := c = ' ' || c = '\t' || c = '\n' || c = '\r'

/-- Drops leading blanks. -/
def skipBlanks : List Char → List Char
  | c :: r => if isBlank c then skipBlanks r else c :: r
  | [] => []

/-- The value of a hexadecimal digit. -/
def hexVal (c : Char) : Option Nat :=
  if '0' ≤ c && c ≤ '9' then some (c.toNat - '0'.toNat)
  else if 'a' ≤ c && c ≤ 'f' then some (c.toNat - 'a'.toNat + 10)
  else if 'A' ≤ c && c ≤ 'F' then some (c.toNat - 'A'.toNat + 10)
  else none

/-- Result of reading part of the input: a value and the rest. -/
abbrev Step (α : Type) := Except JsonError (α × List Char)

/-- Four hexadecimal digits after `\u`. -/
def readHex4 (cs : List Char) : Step Nat :=
  match cs with
  | a :: b :: c :: d :: r =>
    match hexVal a, hexVal b, hexVal c, hexVal d with
    | some x, some y, some z, some w => .ok (((x * 16 + y) * 16 + z) * 16 + w, r)
    | none, _, _, _ => .error (.invalidChar a "in \\u hexadecimal character escape")
    | _, none, _, _ => .error (.invalidChar b "in \\u hexadecimal character escape")
    | _, _, none, _ => .error (.invalidChar c "in \\u hexadecimal character escape")
    | _, _, _, none => .error (.invalidChar d "in \\u hexadecimal character escape")
  | l =>
    match l.find? (fun c => (hexVal c).isNone) with
    | some c => .error (.invalidChar c "in \\u hexadecimal character escape")
    | none => .error .unexpectedEnd

theorem readHex4_rest {cs : List Char} {v : Nat} {r : List Char}
    (h : readHex4 cs = .ok (v, r)) : r.length < cs.length := by
  unfold readHex4 at h
  split at h
  · split at h <;> simp at h
    obtain ⟨-, rfl⟩ := h
    simp; omega
  · split at h <;> simp at h

/-- Whether a code unit is one half of a surrogate pair. -/
def isSurrogate (u : Nat) : Bool := 0xD800 ≤ u && u < 0xE000

/-- The character of a `\u` escape whose unit `u` is a surrogate, given what follows it:
a low half in a second escape joins it, anything else leaves U+FFFD. -/
def joinSurrogate (u : Nat) (rest : List Char) : Char × List Char :=
  match rest with
  | '\\' :: 'u' :: r =>
    match readHex4 r with
    | .ok (v, r') =>
      if u < 0xDC00 && 0xDC00 ≤ v && v < 0xE000 then
        (Char.ofNat (0x10000 + (u - 0xD800) * 0x400 + (v - 0xDC00)), r')
      else ('\uFFFD', rest)
    | .error _ => ('\uFFFD', rest)
  | _ => ('\uFFFD', rest)

theorem joinSurrogate_rest (u : Nat) (rest : List Char) :
    (joinSurrogate u rest).2.length ≤ rest.length := by
  unfold joinSurrogate
  split
  · rename_i r
    split
    · rename_i v r' h
      have := readHex4_rest h
      split <;> simp
      omega
    · simp
  · simp

/-- The body of a string after its opening quote, up to and past the closing quote. -/
def readString (acc : List Char) : List Char → Step String
  | [] => .error .unexpectedEnd
  | '"' :: r => .ok (String.ofList acc.reverse, r)
  | '\\' :: r =>
    match r with
    | [] => .error .unexpectedEnd
    | e :: r' =>
      if e = 'u' then
        match h : readHex4 r' with
        | .error err => .error err
        | .ok (u, r'') =>
          have := readHex4_rest h
          if isSurrogate u then
            have := joinSurrogate_rest u r''
            readString ((joinSurrogate u r'').1 :: acc) (joinSurrogate u r'').2
          else readString (Char.ofNat u :: acc) r''
      else
        match [('"', '"'), ('\\', '\\'), ('/', '/'), ('b', '\x08'), ('f', '\x0c'),
               ('n', '\n'), ('r', '\r'), ('t', '\t')].lookup e with
        | some c => readString (c :: acc) r'
        | none => .error (.invalidChar e "in string escape code")
  | c :: r =>
    if c.toNat < 0x20 then .error (.invalidChar c "in string literal")
    else readString (c :: acc) r
termination_by cs => cs.length
decreasing_by all_goals simp_all <;> omega

/-- Digits at the front, and the rest. -/
def spanDigits (cs : List Char) : List Char × List Char :=
  (cs.takeWhile Char.isDigit, cs.dropWhile Char.isDigit)

/-- The fraction and exponent part of a number, after its integer digits. -/
def readNumberTail (cs : List Char) : Except JsonError (List Char × List Char) :=
  let frac : Except JsonError (List Char × List Char) :=
    match cs with
    | '.' :: r =>
      match r with
      | [] => .error .unexpectedEnd
      | d :: _ =>
        if d.isDigit then
          let (ds, r') := spanDigits r
          .ok ('.' :: ds, r')
        else .error (.invalidChar d "after decimal point in numeric literal")
    | _ => .ok ([], cs)
  match frac with
  | .error e => .error e
  | .ok (f, r) =>
    match r with
    | e :: r' =>
      if e = 'e' || e = 'E' then
        let (sign, r'') := match r' with
          | '+' :: x => (['+'], x)
          | '-' :: x => (['-'], x)
          | x => ([], x)
        match r'' with
        | [] => .error .unexpectedEnd
        | d :: _ =>
          if d.isDigit then
            let (ds, r3) := spanDigits r''
            .ok (f ++ e :: sign ++ ds, r3)
          else .error (.invalidChar d "in exponent of numeric literal")
      else .ok (f, r)
    | [] => .ok (f, r)

/-- A number starting at its sign or first digit. -/
def readNumber (cs : List Char) : Step Json :=
  let (neg, r) := match cs with
    | '-' :: x => (true, x)
    | x => (false, x)
  match r with
  | [] => .error .unexpectedEnd
  | d :: r' =>
    if !d.isDigit then .error (.invalidChar d "in numeric literal")
    else
      let (intDigits, rest) := if d = '0' then (['0'], r') else spanDigits r
      match readNumberTail rest with
      | .error e => .error e
      | .ok (tail, rest') =>
        let sign := if neg then "-" else ""
        if tail.isEmpty then
          let n : Int := (String.ofList intDigits).toNat!
          .ok (.int (if neg then -n else n), rest')
        else .ok (.num (sign ++ String.ofList (intDigits ++ tail)), rest')

/-- The letters of `true`, `false` or `null` after the first. -/
def readLiteral (name : String) (v : Json) (cs : List Char) : Step Json :=
  let rec go : List Char → List Char → Step Json
    | [], r => .ok (v, r)
    | _ :: _, [] => .error .unexpectedEnd
    | e :: es, c :: r =>
      if c = e then go es r
      else .error (.invalidChar c ("in literal " ++ name ++ " (expecting " ++
        JsonError.quoteChar e ++ ")"))
  go (name.toList.drop 1) cs

mutual

/-- A value after optional blanks. -/
def readValue : Nat → List Char → Step Json
  | 0, _ => .error .unexpectedEnd
  | n + 1, cs =>
    match skipBlanks cs with
    | [] => .error .unexpectedEnd
    | c :: r =>
      if c = '{' then readObject n r
      else if c = '[' then readArray n r
      else if c = '"' then
        match readString [] r with
        | .ok (s, r') => .ok (.str s, r')
        | .error e => .error e
      else if c = 't' then readLiteral "true" (.bool true) r
      else if c = 'f' then readLiteral "false" (.bool false) r
      else if c = 'n' then readLiteral "null" .null r
      else if c = '-' || c.isDigit then readNumber (c :: r)
      else .error (.invalidChar c "looking for beginning of value")

/-- An object after its opening brace. -/
def readObject : Nat → List Char → Step Json
  | 0, _ => .error .unexpectedEnd
  | n + 1, cs =>
    match skipBlanks cs with
    | [] => .error .unexpectedEnd
    | '}' :: r => .ok (.obj [], r)
    | '"' :: r => readMembers n [] r
    | c :: _ => .error (.invalidChar c "looking for beginning of object key string")

/-- Members of an object, each starting after the opening quote of its name. -/
def readMembers : Nat → List (String × Json) → List Char → Step Json
  | 0, _, _ => .error .unexpectedEnd
  | n + 1, acc, cs =>
    match readString [] cs with
    | .error e => .error e
    | .ok (k, r) =>
      match skipBlanks r with
      | [] => .error .unexpectedEnd
      | ':' :: r' =>
        match readValue n r' with
        | .error e => .error e
        | .ok (v, r'') =>
          match skipBlanks r'' with
          | [] => .error .unexpectedEnd
          | ',' :: r3 =>
            match skipBlanks r3 with
            | [] => .error .unexpectedEnd
            | '"' :: r4 => readMembers n ((k, v) :: acc) r4
            | c :: _ => .error (.invalidChar c "looking for beginning of object key string")
          | '}' :: r3 => .ok (.obj ((k, v) :: acc).reverse, r3)
          | c :: _ => .error (.invalidChar c "after object key:value pair")
      | c :: _ => .error (.invalidChar c "after object key")

/-- An array after its opening bracket. -/
def readArray : Nat → List Char → Step Json
  | 0, _ => .error .unexpectedEnd
  | n + 1, cs =>
    match skipBlanks cs with
    | [] => .error .unexpectedEnd
    | ']' :: r => .ok (.arr [], r)
    | r => readElements n [] r

/-- Elements of an array, each starting at its first character or a blank. -/
def readElements : Nat → List Json → List Char → Step Json
  | 0, _, _ => .error .unexpectedEnd
  | n + 1, acc, cs =>
    match readValue n cs with
    | .error e => .error e
    | .ok (v, r) =>
      match skipBlanks r with
      | [] => .error .unexpectedEnd
      | ',' :: r' => readElements n (v :: acc) r'
      | ']' :: r' => .ok (.arr (v :: acc).reverse, r')
      | c :: _ => .error (.invalidChar c "after array element")

end

/-- Reads one value at the front of the text; the rest is returned unread. -/
def readPrefix (cs : List Char) : Step Json :=
  readValue (2 * cs.length + 2) cs

/-- Reads a text that holds exactly one value, with blanks around it. -/
def parse (s : String) : Except JsonError Json :=
  match readPrefix s.toList with
  | .error e => .error e
  | .ok (v, r) =>
    match skipBlanks r with
    | [] => .ok v
    | c :: _ => .error (.invalidChar c "after top-level value")

end Json

end Userland
