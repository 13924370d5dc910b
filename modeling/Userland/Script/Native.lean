import Userland.Script.Frame

namespace Userland

/-! # The builtin functions

Every function a realm provides is a constructor of `Native`, grouped by the
object it belongs to. A builtin function object on the heap names one of
them; calling it runs the code its group gives it. Some carry data: the
level of a console function, the kind of an error constructor, or the
promise and state that a promise's resolving functions act on.
-/

namespace Script

/-- The functions of the process the script runs in. -/
inductive HostFn where
  | input | inputLine | inputAll | inputExact | output | errorOut
  | create | wait | kill | start | pipe | processes | exit | sleep
  | readFile | writeFile | glob
  /-- A console function, sending its arguments as a log entry of a level. -/
  | console (level : String)
  deriving Inhabited

/-- The global functions. -/
inductive GlobalFn where
  | parseInt | parseFloat | isNaN | isFinite
  | encodeURI | encodeURIComponent | decodeURI | decodeURIComponent | escape | unescape
  | eval
  /-- A function that always throws a type error. -/
  | throwTypeError
  /-- A constructor the realm names but does not provide. -/
  | missing (name : String)
  deriving Inhabited

/-- `Object` and `Object.prototype`. -/
inductive ObjectFn where
  | ctor | assign | create | defineProperty | defineProperties | entries | freeze | fromEntries
  | getOwnPropertyDescriptor | getOwnPropertyDescriptors | getOwnPropertyNames
  | getOwnPropertySymbols | getPrototypeOf | is | isExtensible | isFrozen | isSealed | keys
  | preventExtensions | seal | setPrototypeOf | values | hasOwn | groupBy
  | hasOwnProperty | isPrototypeOf | propertyIsEnumerable | toLocaleString | toString | valueOf
  | protoGet | protoSet | defineGetter | defineSetter | lookupGetter | lookupSetter
  deriving Inhabited

/-- `Function` and `Function.prototype`. -/
inductive FunctionFn where
  | ctor | call | apply | bind | toString | hasInstance
  /-- `Function.prototype` itself, which takes anything and gives `undefined`. -/
  | empty
  deriving Inhabited

/-- `Array` and `Array.prototype`. -/
inductive ArrayFn where
  | ctor | isArray | «from» | «of»
  | at | concat | copyWithin | entries | every | fill | filter | find | findIndex | findLast
  | findLastIndex | flat | flatMap | forEach | includes | indexOf | join | keys | lastIndexOf
  | map | pop | push | reduce | reduceRight | reverse | shift | slice | some | sort | splice
  | toLocaleString | toString | unshift | values | toReversed | toSorted | toSpliced | withItem
  deriving Inhabited

/-- `String` and `String.prototype`. -/
inductive StringFn where
  | ctor | fromCharCode | fromCodePoint | raw
  | at | charAt | charCodeAt | codePointAt | concat | endsWith | includes | indexOf | lastIndexOf
  | localeCompare | «match» | matchAll | normalize | padEnd | padStart | «repeat» | replace
  | replaceAll | search | slice | split | startsWith | substr | substring | toLowerCase
  | toUpperCase | toString | trim | trimEnd | trimStart | valueOf | iterator | isWellFormed
  | toWellFormed
  deriving Inhabited

/-- `Number` and `Number.prototype`. -/
inductive NumberFn where
  | ctor | isFinite | isInteger | isNaN | isSafeInteger
  | toExponential | toFixed | toLocaleString | toPrecision | toString | valueOf
  deriving Inhabited

/-- `Boolean` and `Boolean.prototype`. -/
inductive BooleanFn where
  | ctor | toString | valueOf
  deriving Inhabited

/-- `Symbol` and `Symbol.prototype`. -/
inductive SymbolFn where
  | ctor | «for» | keyFor | toString | valueOf | description | toPrimitive
  deriving Inhabited

/-- `BigInt` and `BigInt.prototype`. -/
inductive BigIntFn where
  | ctor | asIntN | asUintN | toString | toLocaleString | valueOf
  deriving Inhabited

/-- `Math`. -/
inductive MathFn where
  | abs | acos | acosh | asin | asinh | atan | atanh | atan2 | cbrt | ceil | clz32 | cos | cosh
  | exp | expm1 | floor | fround | hypot | imul | log | log1p | log10 | log2 | max | min | pow
  | random | round | sign | sin | sinh | sqrt | tan | tanh | trunc
  deriving Inhabited

/-- `JSON`. -/
inductive JsonFn where
  | parse | stringify
  deriving Inhabited

/-- `RegExp` and `RegExp.prototype`. -/
inductive RegExpFn where
  | ctor | exec | test | toString | compile
  | source | flags | global | ignoreCase | multiline | sticky | unicode | dotAll | hasIndices
  | «match» | matchAll | replace | search | split
  deriving Inhabited

/-- `Map` and `Map.prototype`. -/
inductive MapFn where
  | ctor | groupBy | get | set | has | delete | clear | forEach | size | keys | values | entries
  deriving Inhabited

/-- `Set` and `Set.prototype`. -/
inductive SetFn where
  | ctor | add | has | delete | clear | forEach | size | values | entries
  deriving Inhabited

/-- `WeakMap`, `WeakSet` and their prototypes. -/
inductive WeakFn where
  | mapCtor | mapGet | mapSet | mapHas | mapDelete
  | setCtor | setAdd | setHas | setDelete
  deriving Inhabited

/-- `Date` and `Date.prototype`. -/
inductive DateFn where
  | ctor | now | parse | utc
  | getTime | valueOf | getTimezoneOffset
  /-- A getter of a field; `utc` for the universal time. -/
  | getField (field : Nat) (utc : Bool)
  /-- A setter of fields from a first field on, at most `count` of them. -/
  | setFields (first count : Nat) (utc : Bool)
  | setTime
  | toISOString | toJSON | toString | toDateString | toTimeString | toUTCString
  | toLocaleString | toLocaleDateString | toLocaleTimeString | toPrimitive
  | getYear | setYear
  deriving Inhabited

/-- `Promise`, `Promise.prototype` and the functions promises make. -/
inductive PromiseFn where
  | ctor | resolve | reject | all | allSettled | any | race | withResolvers
  | «then» | «catch» | «finally»
  /-- Resolves or rejects a promise once; the cell says whether it already was. -/
  | settle (promise : Nat) (cell : Nat) (reject : Bool)
  /-- The executor that takes the resolving functions of a new capability, kept in a cell. -/
  | capture (cell : Nat)
  /-- `finally`'s handler on fulfilment or rejection, with the callback and constructor. -/
  | thenFinally (onFinally ctor : Value) (reject : Bool)
  /-- Gives a value, or throws it. -/
  | constant (v : Value) (throws : Bool)
  /-- An element of `all`, `allSettled` or `any`: where its result goes. -/
  | element (kind : Nat) (index : Nat) (values : Nat) (remaining : Nat) (done : Nat)
      (resolve reject : Value)
  deriving Inhabited

/-- `Reflect`. -/
inductive ReflectFn where
  | apply | construct | defineProperty | deleteProperty | get | getOwnPropertyDescriptor
  | getPrototypeOf | has | isExtensible | ownKeys | preventExtensions | set | setPrototypeOf
  deriving Inhabited

/-- `Proxy`. -/
inductive ProxyFn where
  | ctor | revocable
  /-- Revokes a proxy. -/
  | revoke (proxy : Nat)
  deriving Inhabited

/-- The methods of iterators and generators. -/
inductive IterFn where
  /-- `[Symbol.iterator]() { return this }`. -/
  | self
  | arrayNext | mapNext | setNext | stringNext | regexpNext
  | genNext | genReturn | genThrow
  deriving Inhabited

/-- A builtin function. -/
inductive Native where
  | host (f : HostFn)
  | global (f : GlobalFn)
  | object (f : ObjectFn)
  | function (f : FunctionFn)
  | array (f : ArrayFn)
  | string (f : StringFn)
  | number (f : NumberFn)
  | boolean (f : BooleanFn)
  | symbol (f : SymbolFn)
  | bigint (f : BigIntFn)
  /-- The constructor of errors of a kind. -/
  | error (k : ErrorKind)
  | errorToString
  | math (f : MathFn)
  | json (f : JsonFn)
  | regexp (f : RegExpFn)
  | map (f : MapFn)
  | set (f : SetFn)
  | weak (f : WeakFn)
  | date (f : DateFn)
  | promise (f : PromiseFn)
  | reflect (f : ReflectFn)
  | proxy (f : ProxyFn)
  | iter (f : IterFn)
  /-- Takes up a suspended asynchronous function when what it awaits settles. -/
  | asyncResume (m : Machine) (promise : Nat) (mode : ResumeMode)
  deriving Inhabited

end Script

end Userland
