import Userland.Text.Quoted
namespace Userland

/-! # Integers in text

A decimal integer is an optional `+` or `-` sign followed by one or more
decimal digits, nothing else: no blanks, no underscores, no other base. Its
value must fit a signed 64-bit word.

An integer literal may also name its base: after the sign, `0x` for
hexadecimal, `0o` for octal, `0b` for binary, or a bare leading `0` for octal.
Single underscores may stand between digits, and after the base's prefix.
-/

namespace Text

/-- The least and greatest values of a signed 64-bit word. -/
def wordMin : Int := -9223372036854775808
def wordMax : Int := 9223372036854775807

/-- The value of a string of decimal digits, if every character is one. -/
def digitsValue (cs : List Char) : Option Nat :=
  if cs.isEmpty || !cs.all Char.isDigit then none
  else some (cs.foldl (fun acc c => acc * 10 + (c.toNat - '0'.toNat)) 0)

/-- The integer a text denotes, if it is a decimal integer that fits a word. -/
def parseInt? (s : String) : Option Int := do
  let (neg, ds) := match s.toList with
    | '-' :: r => (true, r)
    | '+' :: r => (false, r)
    | r => (false, r)
  let v ← digitsValue ds
  let n : Int := if neg then -(v : Int) else v
  if wordMin ≤ n && n ≤ wordMax then some n else none

/-- Whether the underscores of a literal (after its sign) each stand between
two digits, a base prefix counting as a digit. -/
def underscoresFit (cs : List Char) : Bool :=
  let isPrefix := match cs with
    | '0' :: c :: _ => c.toLower = 'x' || c.toLower = 'o' || c.toLower = 'b'
    | _ => false
  let hex := match cs with
    | '0' :: c :: _ => c.toLower = 'x'
    | _ => false
  let body := if isPrefix then cs.drop 2 else cs
  let isDigit (c : Char) : Bool := c.isDigit || (hex && 'a' ≤ c.toLower && c.toLower ≤ 'f')
  -- the class of what was seen last: 0 a digit, 1 an underscore, 2 anything else, 3 nothing
  let last := body.foldl (fun (saw : Option Nat) c =>
    saw.bind fun k =>
      if isDigit c then some 0
      else if c = '_' then (if k = 0 then some 1 else none)
      else if k = 1 then none
      else some 2) (some (if isPrefix then 0 else 3))
  last.isSome && last != some 1

/-- The integer an integer literal denotes, if it is one: an optional sign,
then decimal digits, or `0x`, `0o`, `0b` or a leading `0` for hexadecimal,
octal or binary, with single underscores between digits after a prefix. -/
def literalValue? (s : String) : Option Int := do
  let (neg, cs) := match s.toList with
    | '-' :: r => (true, r)
    | '+' :: r => (false, r)
    | r => (false, r)
  let (base, ds) : Nat × List Char := match cs with
    | '0' :: c :: rest =>
      if rest.length ≥ 1 && c.toLower = 'x' then (16, rest)
      else if rest.length ≥ 1 && c.toLower = 'o' then (8, rest)
      else if rest.length ≥ 1 && c.toLower = 'b' then (2, rest)
      else (8, c :: rest)
    | ['0'] => (8, [])
    | _ => (10, cs)
  if cs.isEmpty then none
  let value ← ds.foldlM (fun (acc : Nat) c =>
    if c = '_' then some acc
    else
      let d := if c.isDigit then c.toNat - '0'.toNat
        else if 'a' ≤ c.toLower && c.toLower ≤ 'z' then c.toLower.toNat - 'a'.toNat + 10 else 99
      if d < base then some (acc * base + d) else none) 0
  if cs.contains '_' && !underscoresFit cs then none
  return if neg then -(value : Int) else value

/-- The integer an integer literal denotes, if it is one and fits a word. -/
def parseLiteral? (s : String) : Option Int :=
  (literalValue? s).filter fun n => wordMin ≤ n && n ≤ wordMax

/-- Why a text is not an integer literal that fits a word, in a number
reader's words. -/
def literalProblem (s : String) : String :=
  match literalValue? s with
  | some _ => "strconv.ParseInt: parsing " ++ quote s ++ ": value out of range"
  | none => "strconv.ParseInt: parsing " ++ quote s ++ ": invalid syntax"

/-- Wraps an integer into a signed 64-bit word, as word arithmetic does. -/
def wrapWord (n : Int) : Int :=
  let m := n % 18446744073709551616
  if m > wordMax then m - 18446744073709551616 else m

end Text

end Userland
