import Userland.Script.Str
import Userland.Script.Number

namespace Userland

/-! # Script values

A script's values are `undefined`, `null`, booleans, numbers, big integers,
strings, symbols, and references to objects on the heap. A symbol is a number naming
an entry of the realm's table of symbols; the first entries are the
well-known symbols every realm has.

Properties are keyed by strings or symbols. A string key that is the
canonical text of a whole number below 2^32 - 1 is an array index: arrays
keep the values under such keys as their items, and every object lists such
keys first, in ascending order, when its keys are asked for.

How running ends early is a `Stop`: a thrown value, which a script can catch,
or an end no script can catch.
-/

namespace Script

/-- A script value. -/
inductive Value where
  | undefined
  | null
  | bool (b : Bool)
  | num (x : Float)
  /-- A big integer, of any size. -/
  | big (n : Int)
  | str (s : Str)
  | sym (id : Nat)
  | obj (ref : Nat)
  deriving Inhabited, Repr

/-- A property key: a string or a symbol. -/
inductive Key where
  | str (s : Str)
  | sym (id : Nat)
  deriving BEq, Hashable, Inhabited, Repr

instance : Coe String Key := ⟨fun s => .str (Str.ofString s)⟩

-- The well-known symbols, by their place in the table of symbols.
namespace WellKnown

/-- `Symbol.asyncIterator`. -/
def asyncIterator : Nat := 0
/-- `Symbol.hasInstance`. -/
def hasInstance : Nat := 1
/-- `Symbol.isConcatSpreadable`. -/
def isConcatSpreadable : Nat := 2
/-- `Symbol.iterator`. -/
def iterator : Nat := 3
/-- `Symbol.match`. -/
def matchSym : Nat := 4
/-- `Symbol.matchAll`. -/
def matchAll : Nat := 5
/-- `Symbol.replace`. -/
def replace : Nat := 6
/-- `Symbol.search`. -/
def search : Nat := 7
/-- `Symbol.species`. -/
def species : Nat := 8
/-- `Symbol.split`. -/
def split : Nat := 9
/-- `Symbol.toPrimitive`. -/
def toPrimitive : Nat := 10
/-- `Symbol.toStringTag`. -/
def toStringTag : Nat := 11
/-- `Symbol.unscopables`. -/
def unscopables : Nat := 12

/-- The names of the well-known symbols, in the order of their places. -/
def names : List String :=
  ["asyncIterator", "hasInstance", "isConcatSpreadable", "iterator", "match", "matchAll", "replace",
    "search", "species", "split", "toPrimitive", "toStringTag", "unscopables"]

end WellKnown

/-- Whether a text is an array index, and which. -/
def indexOfText (s : String) : Option Nat :=
  match s.toList with
  | [] => none
  | ['0'] => some 0
  | '0' :: _ => none
  | cs =>
    if cs.length ≤ 10 && cs.all Char.isDigit then
      let n := cs.foldl (fun n c => n * 10 + (c.toNat - '0'.toNat)) 0
      if n < Nat.pow 2 32 - 1 then some n else none
    else none

namespace Key

/-- The key of an array index. -/
def ofIndex (i : Nat) : Key := .str (Str.ofString (toString i))

/-- The array index a key is, if it is one. -/
def index? : Key → Option Nat
  | .str s => indexOfText s.text
  | .sym _ => none

/-- Whether a key is a string. -/
def isStr : Key → Bool
  | .str _ => true
  | .sym _ => false

end Key

/-- The kinds of errors a script meets. -/
inductive ErrorKind where
  | error
  | typeError
  | rangeError
  | referenceError
  | syntaxError
  | evalError
  | uriError
  /-- An error of the machine that a builtin of the process passes on. -/
  | goError
  deriving Inhabited, Repr, BEq

namespace ErrorKind

/-- The name of errors of the kind. -/
def name : ErrorKind → String
  | .error => "Error"
  | .typeError => "TypeError"
  | .rangeError => "RangeError"
  | .referenceError => "ReferenceError"
  | .syntaxError => "SyntaxError"
  | .evalError => "EvalError"
  | .uriError => "URIError"
  | .goError => "GoError"

/-- Every kind. -/
def all : List ErrorKind :=
  [.error, .typeError, .rangeError, .referenceError, .syntaxError, .evalError, .uriError, .goError]

end ErrorKind

/-- Why running stopped early. -/
inductive Stop where
  /-- A value was thrown; a script can catch it. -/
  | thrown (v : Value)
  /-- The program called `exit` with a code. -/
  | exited (code : Int)
  /-- The process's context ended. -/
  | killed
  /-- Calls nested deeper than allowed. -/
  | overflow
  /-- The steps allowed ran out. -/
  | exhausted
  deriving Inhabited

/-- How a statement ended. -/
inductive Completion where
  | normal
  | breakTo (label : Option String)
  | continueTo (label : Option String)
  | returned (v : Value)
  deriving Inhabited

namespace Value

/-- Whether a value is `undefined` or `null`. -/
def isNullish : Value → Bool
  | .undefined | .null => true
  | _ => false

/-- Whether a value is `undefined`. -/
def isUndefined : Value → Bool
  | .undefined => true
  | _ => false

/-- Whether a value is an object. -/
def isObject : Value → Bool
  | .obj _ => true
  | _ => false

/-- The object a value refers to, if it is one. -/
def ref? : Value → Option Nat
  | .obj r => some r
  | _ => none

/-- Whether a value counts as true. -/
def truthy : Value → Bool
  | .undefined | .null => false
  | .bool b => b
  | .num x => !(x.isNaN || x == 0)
  | .big n => n != 0
  | .str s => !s.isEmpty
  | .sym _ | .obj _ => true

/-- A string value from text. -/
def ofString (s : String) : Value := .str (Str.ofString s)

/-- A number value from a natural number. -/
def ofNat (n : Nat) : Value := .num (Float.ofNat n)

/-- A number value from an integer. -/
def ofInt (n : Int) : Value := .num (Number.ofInt n)

/-- Whether two values are the same by strict equality. -/
def strictEq : Value → Value → Bool
  | .undefined, .undefined | .null, .null => true
  | .bool a, .bool b => a == b
  | .num a, .num b => a == b
  | .big a, .big b => a == b
  | .str a, .str b => a == b
  | .sym a, .sym b => a == b
  | .obj a, .obj b => a == b
  | _, _ => false

/-- Whether two values are the same as keys of maps and sets: like strict
equality, except that NaN is itself. -/
def sameValueZero (a b : Value) : Bool :=
  match a, b with
  | .num x, .num y => x == y || (x.isNaN && y.isNaN)
  | _, _ => strictEq a b

/-- Whether two values are the same value: like `sameValueZero`, and zero
and negative zero differ. -/
def sameValue (a b : Value) : Bool :=
  match a, b with
  | .num x, .num y =>
    (x.isNaN && y.isNaN) || (x == y && Number.signBit x == Number.signBit y)
  | _, _ => strictEq a b

end Value

end Script

end Userland
