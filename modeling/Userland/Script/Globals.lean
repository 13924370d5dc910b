import Userland.Script.Object

namespace Userland

/-! # The global environment of a script

Before a script runs, its realm holds the intrinsic objects (the prototypes
of every kind of object, the global object, and a few functions the machine
uses itself) and its global object has:

* the standard constructors and namespaces, with their methods;
* `require`, `process`, `module` and `exports` as `undefined`, so that a script
  cannot reach past its process;
* the process's values `pid`, `args` and `cwd`, its functions `input`,
  `inputLine`, `inputAll`, `inputExact`, `output`, `error`, `create`, `wait`,
  `kill`, `start`, `pipe`, `list`, `exit`, `sleep`, `readFile`, `writeFile` and
  `glob`, and `console` when the host has one.

The properties of builtins are writable and configurable but not enumerable,
so that loops over keys see only what a script adds; what the process gives
its script is set as assignment sets it.
-/

namespace Script

namespace Globals

open Eval

/-- Sets a property as builtins have it. -/
def hide (r : Nat) (k : Key) (v : Value) : Eval Unit :=
  modifyObj r fun o => { o with props := o.props.insert k (Property.hidden v) }

/-- Sets a property nothing may change. -/
def fix (r : Nat) (k : Key) (v : Value) : Eval Unit :=
  modifyObj r fun o => { o with props := o.props.insert k (Property.fixed v) }

/-- Sets a property that may only be deleted, such as `Symbol.toStringTag`. -/
def tag (r : Nat) (name : String) : Eval Unit :=
  modifyObj r fun o => { o with props := o.props.insert (symKey WellKnown.toStringTag) (Property.readOnly (Value.ofString name)) }

/-- Sets a builtin function as a property, and gives it. -/
def method (r : Nat) (name : String) (n : Native) (len : Nat) : Eval Value := do
  let f ← newNative n name len false
  hide r (keyOf name) f
  return f

/-- Sets builtin functions as properties. -/
def methods (r : Nat) (ms : List (String × Native × Nat)) : Eval Unit := do
  for (name, n, len) in ms do
    let _ ← method r name n len

/-- Sets a builtin function under a well-known symbol, named after it. -/
def symMethod (r : Nat) (sym : Nat) (n : Native) (len : Nat) : Eval Unit := do
  let name := "[Symbol." ++ (WellKnown.names.getD sym "") ++ "]"
  let f ← newNative n name len false
  hide r (symKey sym) f

/-- Sets an accessor property with a builtin getter. -/
def getter (r : Nat) (name : String) (n : Native) : Eval Unit := do
  let g ← newNative n ("get " ++ name) 0 false
  modifyObj r fun o => { o with props := o.props.insert (keyOf name) ⟨.accessor g .undefined, false, true⟩ }

/-- Makes a constructor tied to its prototype both ways. -/
def ctor (n : Native) (name : String) (len : Nat) (proto : Nat) : Eval Nat := do
  let f ← newNative n name len true
  let r := f.ref?.getD 0
  fix r (keyOf "prototype") (.obj proto)
  hide proto (keyOf "constructor") f
  return r

/-- The methods of `Object.prototype`. -/
def objectProtoMethods : List (String × Native × Nat) :=
  [("hasOwnProperty", .object .hasOwnProperty, 1), ("isPrototypeOf", .object .isPrototypeOf, 1),
   ("propertyIsEnumerable", .object .propertyIsEnumerable, 1),
   ("toLocaleString", .object .toLocaleString, 0), ("toString", .object .toString, 0),
   ("valueOf", .object .valueOf, 0), ("__defineGetter__", .object .defineGetter, 2),
   ("__defineSetter__", .object .defineSetter, 2), ("__lookupGetter__", .object .lookupGetter, 1),
   ("__lookupSetter__", .object .lookupSetter, 1)]

/-- The functions of `Object`. -/
def objectStatics : List (String × Native × Nat) :=
  [("assign", .object .assign, 2), ("create", .object .create, 2),
   ("defineProperty", .object .defineProperty, 3), ("defineProperties", .object .defineProperties, 2),
   ("entries", .object .entries, 1), ("freeze", .object .freeze, 1),
   ("fromEntries", .object .fromEntries, 1),
   ("getOwnPropertyDescriptor", .object .getOwnPropertyDescriptor, 2),
   ("getOwnPropertyDescriptors", .object .getOwnPropertyDescriptors, 1),
   ("getOwnPropertyNames", .object .getOwnPropertyNames, 1),
   ("getOwnPropertySymbols", .object .getOwnPropertySymbols, 1),
   ("getPrototypeOf", .object .getPrototypeOf, 1), ("is", .object .is, 2),
   ("isExtensible", .object .isExtensible, 1), ("isFrozen", .object .isFrozen, 1),
   ("isSealed", .object .isSealed, 1), ("keys", .object .keys, 1),
   ("preventExtensions", .object .preventExtensions, 1), ("seal", .object .seal, 1),
   ("setPrototypeOf", .object .setPrototypeOf, 2), ("values", .object .values, 1),
   ("hasOwn", .object .hasOwn, 2), ("groupBy", .object .groupBy, 2)]

/-- The methods of `Array.prototype`, but `values`. -/
def arrayMethods : List (String × Native × Nat) :=
  [("at", .array .at, 1), ("concat", .array .concat, 1), ("copyWithin", .array .copyWithin, 2),
   ("entries", .array .entries, 0), ("every", .array .every, 1), ("fill", .array .fill, 1),
   ("filter", .array .filter, 1), ("find", .array .find, 1), ("findIndex", .array .findIndex, 1),
   ("findLast", .array .findLast, 1), ("findLastIndex", .array .findLastIndex, 1),
   ("flat", .array .flat, 0), ("flatMap", .array .flatMap, 1), ("forEach", .array .forEach, 1),
   ("includes", .array .includes, 1), ("indexOf", .array .indexOf, 1), ("join", .array .join, 1),
   ("keys", .array .keys, 0), ("lastIndexOf", .array .lastIndexOf, 1), ("map", .array .map, 1),
   ("pop", .array .pop, 0), ("push", .array .push, 1), ("reduce", .array .reduce, 1),
   ("reduceRight", .array .reduceRight, 1), ("reverse", .array .reverse, 0),
   ("shift", .array .shift, 0), ("slice", .array .slice, 2), ("some", .array .some, 1),
   ("sort", .array .sort, 1), ("splice", .array .splice, 2),
   ("toLocaleString", .array .toLocaleString, 0), ("toString", .array .toString, 0),
   ("unshift", .array .unshift, 1), ("toReversed", .array .toReversed, 0),
   ("toSorted", .array .toSorted, 1), ("toSpliced", .array .toSpliced, 2),
   ("with", .array .withItem, 2)]

/-- The methods of `String.prototype`, but the trimming ones. -/
def stringMethods : List (String × Native × Nat) :=
  [("at", .string .at, 1), ("charAt", .string .charAt, 1), ("charCodeAt", .string .charCodeAt, 1),
   ("codePointAt", .string .codePointAt, 1), ("concat", .string .concat, 1),
   ("endsWith", .string .endsWith, 1), ("includes", .string .includes, 1),
   ("indexOf", .string .indexOf, 1), ("lastIndexOf", .string .lastIndexOf, 1),
   ("localeCompare", .string .localeCompare, 1), ("match", .string .match, 1),
   ("matchAll", .string .matchAll, 1), ("normalize", .string .normalize, 0),
   ("padEnd", .string .padEnd, 1), ("padStart", .string .padStart, 1),
   ("repeat", .string .repeat, 1), ("replace", .string .replace, 2),
   ("replaceAll", .string .replaceAll, 2), ("search", .string .search, 1),
   ("slice", .string .slice, 2), ("split", .string .split, 2),
   ("startsWith", .string .startsWith, 1), ("substr", .string .substr, 2),
   ("substring", .string .substring, 2), ("toLowerCase", .string .toLowerCase, 0),
   ("toUpperCase", .string .toUpperCase, 0), ("toLocaleLowerCase", .string .toLowerCase, 0),
   ("toLocaleUpperCase", .string .toUpperCase, 0), ("toString", .string .toString, 0),
   ("trim", .string .trim, 0), ("valueOf", .string .valueOf, 0),
   ("isWellFormed", .string .isWellFormed, 0), ("toWellFormed", .string .toWellFormed, 0)]

/-- The methods of `Number.prototype`. -/
def numberMethods : List (String × Native × Nat) :=
  [("toExponential", .number .toExponential, 1), ("toFixed", .number .toFixed, 1),
   ("toLocaleString", .number .toLocaleString, 0), ("toPrecision", .number .toPrecision, 1),
   ("toString", .number .toString, 1), ("valueOf", .number .valueOf, 0)]

/-- The functions of `Number`, but the parsing ones. -/
def numberStatics : List (String × Native × Nat) :=
  [("isFinite", .number .isFinite, 1), ("isInteger", .number .isInteger, 1),
   ("isNaN", .number .isNaN, 1), ("isSafeInteger", .number .isSafeInteger, 1)]

/-- The constants of `Number`. -/
def numberConstants : List (String × Float) :=
  [("MAX_SAFE_INTEGER", 9007199254740991), ("MIN_SAFE_INTEGER", -9007199254740991),
   ("MAX_VALUE", 1.7976931348623157e308), ("MIN_VALUE", 5e-324),
   ("EPSILON", 2.220446049250313e-16), ("POSITIVE_INFINITY", Number.infinity),
   ("NEGATIVE_INFINITY", -Number.infinity), ("NaN", Number.nan)]

/-- The functions of `Math`. -/
def mathFunctions : List (String × MathFn × Nat) :=
  [("abs", .abs, 1), ("acos", .acos, 1), ("acosh", .acosh, 1), ("asin", .asin, 1),
   ("asinh", .asinh, 1), ("atan", .atan, 1), ("atanh", .atanh, 1), ("atan2", .atan2, 2),
   ("cbrt", .cbrt, 1), ("ceil", .ceil, 1), ("clz32", .clz32, 1), ("cos", .cos, 1),
   ("cosh", .cosh, 1), ("exp", .exp, 1), ("expm1", .expm1, 1), ("floor", .floor, 1),
   ("fround", .fround, 1), ("hypot", .hypot, 2), ("imul", .imul, 2), ("log", .log, 1),
   ("log1p", .log1p, 1), ("log10", .log10, 1), ("log2", .log2, 1), ("max", .max, 2),
   ("min", .min, 2), ("pow", .pow, 2), ("random", .random, 0), ("round", .round, 1),
   ("sign", .sign, 1), ("sin", .sin, 1), ("sinh", .sinh, 1), ("sqrt", .sqrt, 1),
   ("tan", .tan, 1), ("tanh", .tanh, 1), ("trunc", .trunc, 1)]

/-- The constants of `Math`. -/
def mathConstants : List (String × Float) :=
  [("E", 2.718281828459045), ("LN10", 2.302585092994046), ("LN2", 0.6931471805599453),
   ("LOG10E", 0.4342944819032518), ("LOG2E", 1.4426950408889634), ("PI", 3.141592653589793),
   ("SQRT1_2", 0.7071067811865476), ("SQRT2", 1.4142135623730951)]

/-- The functions of `Reflect`. -/
def reflectFunctions : List (String × Native × Nat) :=
  [("apply", .reflect .apply, 3), ("construct", .reflect .construct, 2),
   ("defineProperty", .reflect .defineProperty, 3),
   ("deleteProperty", .reflect .deleteProperty, 2), ("get", .reflect .get, 2),
   ("getOwnPropertyDescriptor", .reflect .getOwnPropertyDescriptor, 2),
   ("getPrototypeOf", .reflect .getPrototypeOf, 1), ("has", .reflect .has, 2),
   ("isExtensible", .reflect .isExtensible, 1), ("ownKeys", .reflect .ownKeys, 1),
   ("preventExtensions", .reflect .preventExtensions, 1), ("set", .reflect .set, 3),
   ("setPrototypeOf", .reflect .setPrototypeOf, 2)]

/-- The getters and setters of `Date.prototype` by field: the field's
place, its name, and how many fields its setter takes at most. -/
def dateFields : List (Nat × String × Nat) :=
  [(0, "FullYear", 3), (1, "Month", 2), (2, "Date", 1), (3, "Hours", 4), (4, "Minutes", 3),
   (5, "Seconds", 2), (6, "Milliseconds", 1)]

/-- The other methods of `Date.prototype`. -/
def dateMethods : List (String × Native × Nat) :=
  [("getTime", .date .getTime, 0), ("valueOf", .date .valueOf, 0),
   ("getTimezoneOffset", .date .getTimezoneOffset, 0), ("getDay", .date (.getField 7 false), 0),
   ("getUTCDay", .date (.getField 7 true), 0), ("setTime", .date .setTime, 1),
   ("toISOString", .date .toISOString, 0), ("toJSON", .date .toJSON, 1),
   ("toString", .date .toString, 0), ("toDateString", .date .toDateString, 0),
   ("toTimeString", .date .toTimeString, 0), ("toUTCString", .date .toUTCString, 0),
   ("toGMTString", .date .toUTCString, 0), ("toLocaleString", .date .toLocaleString, 0),
   ("toLocaleDateString", .date .toLocaleDateString, 0),
   ("toLocaleTimeString", .date .toLocaleTimeString, 0), ("getYear", .date .getYear, 0),
   ("setYear", .date .setYear, 1)]

/-- The functions of the process, by their global names. -/
def processFunctions : List (String × HostFn × Nat) :=
  [("input", .input, 1), ("inputLine", .inputLine, 0), ("inputAll", .inputAll, 0),
   ("inputExact", .inputExact, 1), ("output", .output, 1), ("error", .errorOut, 1),
   ("create", .create, 3), ("wait", .wait, 1), ("kill", .kill, 1), ("start", .start, 1),
   ("pipe", .pipe, 2), ("list", .processes, 0), ("exit", .exit, 1), ("sleep", .sleep, 1),
   ("readFile", .readFile, 1), ("writeFile", .writeFile, 2), ("glob", .glob, 1)]

/-- The constructors a script may name but not use. -/
def absentConstructors : List String :=
  ["ArrayBuffer", "SharedArrayBuffer", "DataView", "Int8Array", "Uint8Array",
   "Uint8ClampedArray", "Int16Array", "Uint16Array", "Int32Array", "Uint32Array", "Float32Array",
   "Float64Array", "BigInt64Array", "BigUint64Array"]

/-- Makes the intrinsic objects and records their places. -/
def intrinsics : Eval Unit := do
  let objectProto ← alloc (Obj.ordinary none)
  let functionProto ← alloc (Obj.ofKind (.func (.native (.function .empty) false)) (some objectProto))
  let plain : Eval Nat := alloc (Obj.ordinary (some objectProto))
  let arrayProto ← alloc (Obj.ofKind (.array #[]) (some objectProto))
  let stringProto ← alloc (Obj.ofKind (.boxed (.str Str.empty)) (some objectProto))
  let numberProto ← alloc (Obj.ofKind (.boxed (.num 0)) (some objectProto))
  let booleanProto ← alloc (Obj.ofKind (.boxed (.bool false)) (some objectProto))
  let symbolProto ← plain
  let bigintProto ← plain
  let errorProto ← plain
  let mut errorProtos := #[errorProto]
  for _ in ErrorKind.all.tail do
    errorProtos := errorProtos.push (← alloc (Obj.ordinary (some errorProto)))
  let iteratorProto ← plain
  let sub : Eval Nat := alloc (Obj.ordinary (some iteratorProto))
  let arrayIterProto ← sub
  let mapIterProto ← sub
  let setIterProto ← sub
  let stringIterProto ← sub
  let regexpIterProto ← sub
  let generatorProto ← sub
  let generatorFunctionProto ← alloc (Obj.ordinary (some functionProto))
  let asyncFunctionProto ← alloc (Obj.ordinary (some functionProto))
  let promiseProto ← plain
  let regexpProto ← plain
  let dateProto ← plain
  let mapProto ← plain
  let setProto ← plain
  let weakMapProto ← plain
  let weakSetProto ← plain
  let globalObject ← plain
  modifyRealm fun s => { s with intr := ⟨objectProto, functionProto, arrayProto, stringProto, numberProto,
    booleanProto, symbolProto, errorProtos, iteratorProto, arrayIterProto, mapIterProto, setIterProto,
    stringIterProto, regexpIterProto, generatorProto, generatorFunctionProto, asyncFunctionProto,
    promiseProto, 0, regexpProto, dateProto, mapProto, setProto, weakMapProto, weakSetProto, globalObject,
    0, 0, bigintProto⟩ }
  modifyObj functionProto fun o => { o with props := PropMap.ofList [(lengthKey, Property.readOnly (Value.ofNat 0)), (keyOf "name", Property.readOnly (Value.ofString ""))] }
  let values ← newNative (.array .values) "values" 0 false
  let thrower ← newNative (.global .throwTypeError) "" 0 false
  modifyRealm fun s => { s with intr := { s.intr with
    arrayValues := values.ref?.getD 0, throwTypeError := thrower.ref?.getD 0 } }

/-- Fills the prototypes with their methods. -/
def prototypes : Eval Unit := do
  let i ← intr
  methods i.objectProto objectProtoMethods
  let pg ← newNative (.object .protoGet) "get __proto__" 0 false
  let ps ← newNative (.object .protoSet) "set __proto__" 1 false
  modifyObj i.objectProto fun o => { o with props := o.props.insert (keyOf "__proto__") ⟨.accessor pg ps, false, true⟩ }
  methods i.functionProto [("call", .function .call, 1), ("apply", .function .apply, 2),
    ("bind", .function .bind, 1), ("toString", .function .toString, 0)]
  let hi ← newNative (.function .hasInstance) "[Symbol.hasInstance]" 1 false
  modifyObj i.functionProto fun o => { o with props := o.props.insert (symKey WellKnown.hasInstance) (Property.fixed hi) }
  methods i.arrayProto arrayMethods
  hide i.arrayProto (keyOf "values") (.obj i.arrayValues)
  hide i.arrayProto (symKey WellKnown.iterator) (.obj i.arrayValues)
  modifyObj i.arrayProto fun o => { o with props := o.props.insert lengthKey ⟨.data (Value.ofNat 0) true, false, false⟩ }
  methods i.stringProto stringMethods
  let trimStart ← method i.stringProto "trimStart" (.string .trimStart) 0
  let trimEnd ← method i.stringProto "trimEnd" (.string .trimEnd) 0
  hide i.stringProto (keyOf "trimLeft") trimStart
  hide i.stringProto (keyOf "trimRight") trimEnd
  symMethod i.stringProto WellKnown.iterator (.string .iterator) 0
  modifyObj i.stringProto fun o => { o with props := o.props.insert lengthKey (Property.fixed (Value.ofNat 0)) }
  methods i.numberProto numberMethods
  methods i.booleanProto [("toString", .boolean .toString, 0), ("valueOf", .boolean .valueOf, 0)]
  methods i.symbolProto [("toString", .symbol .toString, 0), ("valueOf", .symbol .valueOf, 0)]
  getter i.symbolProto "description" (.symbol .description)
  let tp ← newNative (.symbol .toPrimitive) "[Symbol.toPrimitive]" 1 false
  modifyObj i.symbolProto fun o => { o with props := o.props.insert (symKey WellKnown.toPrimitive) (Property.readOnly tp) }
  tag i.symbolProto "Symbol"
  methods i.bigintProto [("toString", .bigint .toString, 0), ("toLocaleString", .bigint .toLocaleString, 0),
    ("valueOf", .bigint .valueOf, 0)]
  tag i.bigintProto "BigInt"
  for (k, p) in ErrorKind.all.zip i.errorProtos.toList do
    hide p (keyOf "name") (Value.ofString k.name)
    hide p (keyOf "message") (Value.ofString "")
  let _ ← method (i.errorProtos.getD 0 0) "toString" .errorToString 0
  symMethod i.iteratorProto WellKnown.iterator (.iter .self) 0
  for (p, n, t) in [(i.arrayIterProto, IterFn.arrayNext, "Array Iterator"), (i.mapIterProto, .mapNext, "Map Iterator"),
      (i.setIterProto, .setNext, "Set Iterator"), (i.stringIterProto, .stringNext, "String Iterator"),
      (i.regexpIterProto, .regexpNext, "RegExp String Iterator")] do
    let _ ← method p "next" (.iter n) 0
    tag p t
  methods i.generatorProto [("next", .iter .genNext, 1), ("return", .iter .genReturn, 1),
    ("throw", .iter .genThrow, 1)]
  tag i.generatorProto "Generator"
  modifyObj i.generatorProto fun o => { o with props := o.props.insert (keyOf "constructor") (Property.readOnly (.obj i.generatorFunctionProto)) }
  modifyObj i.generatorFunctionProto fun o => { o with props := o.props.insert (keyOf "prototype") (Property.readOnly (.obj i.generatorProto)) }
  tag i.generatorFunctionProto "GeneratorFunction"
  tag i.asyncFunctionProto "AsyncFunction"
  methods i.promiseProto [("then", .promise .then, 2), ("catch", .promise .catch, 1),
    ("finally", .promise .finally, 1)]
  tag i.promiseProto "Promise"
  methods i.regexpProto [("exec", .regexp .exec, 1), ("test", .regexp .test, 1),
    ("toString", .regexp .toString, 0), ("compile", .regexp .compile, 2)]
  for (name, n) in [("source", RegExpFn.source), ("flags", .flags), ("global", .global),
      ("ignoreCase", .ignoreCase), ("multiline", .multiline), ("sticky", .sticky), ("unicode", .unicode),
      ("dotAll", .dotAll), ("hasIndices", .hasIndices)] do
    getter i.regexpProto name (.regexp n)
  symMethod i.regexpProto WellKnown.matchSym (.regexp .match) 1
  symMethod i.regexpProto WellKnown.matchAll (.regexp .matchAll) 1
  symMethod i.regexpProto WellKnown.replace (.regexp .replace) 2
  symMethod i.regexpProto WellKnown.search (.regexp .search) 1
  symMethod i.regexpProto WellKnown.split (.regexp .split) 2
  for (field, name, count) in dateFields do
    let _ ← method i.dateProto ("get" ++ name) (.date (.getField field false)) 0
    let _ ← method i.dateProto ("getUTC" ++ name) (.date (.getField field true)) 0
    let _ ← method i.dateProto ("set" ++ name) (.date (.setFields field count false)) count
    let _ ← method i.dateProto ("setUTC" ++ name) (.date (.setFields field count true)) count
  methods i.dateProto dateMethods
  let dp ← newNative (.date .toPrimitive) "[Symbol.toPrimitive]" 1 false
  modifyObj i.dateProto fun o => { o with props := o.props.insert (symKey WellKnown.toPrimitive) (Property.readOnly dp) }
  methods i.mapProto [("get", .map .get, 1), ("set", .map .set, 2), ("has", .map .has, 1),
    ("delete", .map .delete, 1), ("clear", .map .clear, 0), ("forEach", .map .forEach, 1),
    ("keys", .map .keys, 0), ("values", .map .values, 0)]
  let entries ← method i.mapProto "entries" (.map .entries) 0
  hide i.mapProto (symKey WellKnown.iterator) entries
  getter i.mapProto "size" (.map .size)
  tag i.mapProto "Map"
  methods i.setProto [("add", .set .add, 1), ("has", .set .has, 1), ("delete", .set .delete, 1),
    ("clear", .set .clear, 0), ("forEach", .set .forEach, 1), ("entries", .set .entries, 0)]
  let setValues ← method i.setProto "values" (.set .values) 0
  hide i.setProto (keyOf "keys") setValues
  hide i.setProto (symKey WellKnown.iterator) setValues
  getter i.setProto "size" (.set .size)
  tag i.setProto "Set"
  methods i.weakMapProto [("get", .weak .mapGet, 1), ("set", .weak .mapSet, 2), ("has", .weak .mapHas, 1),
    ("delete", .weak .mapDelete, 1)]
  tag i.weakMapProto "WeakMap"
  methods i.weakSetProto [("add", .weak .setAdd, 1), ("has", .weak .setHas, 1), ("delete", .weak .setDelete, 1)]
  tag i.weakSetProto "WeakSet"

/-- Puts the standard constructors, namespaces and functions on the global object. -/
def standard : Eval Unit := do
  let i ← intr
  let g := i.globalObject
  let bind (name : String) (v : Value) : Eval Unit := hide g (keyOf name) v
  fix g (keyOf "undefined") .undefined
  fix g (keyOf "NaN") (.num Number.nan)
  fix g (keyOf "Infinity") (.num Number.infinity)
  bind "globalThis" (.obj g)
  let object ← ctor (.object .ctor) "Object" 1 i.objectProto
  methods object objectStatics
  bind "Object" (.obj object)
  let function ← ctor (.function .ctor) "Function" 1 i.functionProto
  bind "Function" (.obj function)
  let array ← ctor (.array .ctor) "Array" 1 i.arrayProto
  methods array [("isArray", .array .isArray, 1), ("from", .array .from, 1), ("of", .array .of, 0)]
  bind "Array" (.obj array)
  let string ← ctor (.string .ctor) "String" 1 i.stringProto
  methods string [("fromCharCode", .string .fromCharCode, 1), ("fromCodePoint", .string .fromCodePoint, 1),
    ("raw", .string .raw, 1)]
  bind "String" (.obj string)
  let number ← ctor (.number .ctor) "Number" 1 i.numberProto
  methods number numberStatics
  for (name, x) in numberConstants do fix number (keyOf name) (.num x)
  let parseFloat ← method number "parseFloat" (.global .parseFloat) 1
  let parseInt ← method number "parseInt" (.global .parseInt) 2
  bind "parseFloat" parseFloat
  bind "parseInt" parseInt
  bind "Number" (.obj number)
  bind "Boolean" (.obj (← ctor (.boolean .ctor) "Boolean" 1 i.booleanProto))
  let symbol ← ctor (.symbol .ctor) "Symbol" 0 i.symbolProto
  methods symbol [("for", .symbol .for, 1), ("keyFor", .symbol .keyFor, 1)]
  for (name, k) in WellKnown.names.zipIdx do fix symbol (keyOf name) (.sym k)
  bind "Symbol" (.obj symbol)
  let bigint ← ctor (.bigint .ctor) "BigInt" 1 i.bigintProto
  methods bigint [("asIntN", .bigint .asIntN, 2), ("asUintN", .bigint .asUintN, 2)]
  bind "BigInt" (.obj bigint)
  let errorCtor ← ctor (.error .error) "Error" 1 (i.errorProtos.getD 0 0)
  bind "Error" (.obj errorCtor)
  for (k, p) in (ErrorKind.all.zip i.errorProtos.toList).tail do
    if k == .goError then continue
    let c ← ctor (.error k) k.name 1 p
    modifyObj c fun o => { o with proto := some errorCtor }
    bind k.name (.obj c)
  let iterCtor ← newNative (.global (.missing "Iterator")) "Iterator" 0 true
  hide i.iteratorProto (keyOf "constructor") iterCtor
  let math ← alloc (Obj.ordinary (some i.objectProto))
  for (name, f, len) in mathFunctions do
    let _ ← method math name (.math f) len
  for (name, x) in mathConstants do fix math (keyOf name) (.num x)
  tag math "Math"
  bind "Math" (.obj math)
  let json ← alloc (Obj.ordinary (some i.objectProto))
  methods json [("parse", .json .parse, 2), ("stringify", .json .stringify, 3)]
  tag json "JSON"
  bind "JSON" (.obj json)
  let reflect ← alloc (Obj.ordinary (some i.objectProto))
  methods reflect reflectFunctions
  tag reflect "Reflect"
  bind "Reflect" (.obj reflect)
  let proxy ← newNative (.proxy .ctor) "Proxy" 2 true
  let proxyRef := proxy.ref?.getD 0
  methods proxyRef [("revocable", .proxy .revocable, 2)]
  bind "Proxy" proxy
  let promise ← ctor (.promise .ctor) "Promise" 1 i.promiseProto
  methods promise [("resolve", .promise .resolve, 1), ("reject", .promise .reject, 1),
    ("all", .promise .all, 1), ("allSettled", .promise .allSettled, 1), ("any", .promise .any, 1),
    ("race", .promise .race, 1), ("withResolvers", .promise .withResolvers, 0)]
  modifyRealm fun s => { s with intr := { s.intr with promiseCtor := promise } }
  bind "Promise" (.obj promise)
  let regexp ← ctor (.regexp .ctor) "RegExp" 2 i.regexpProto
  bind "RegExp" (.obj regexp)
  let date ← ctor (.date .ctor) "Date" 7 i.dateProto
  methods date [("now", .date .now, 0), ("parse", .date .parse, 1), ("UTC", .date .utc, 7)]
  bind "Date" (.obj date)
  let map ← ctor (.map .ctor) "Map" 0 i.mapProto
  methods map [("groupBy", .map .groupBy, 2)]
  bind "Map" (.obj map)
  bind "Set" (.obj (← ctor (.set .ctor) "Set" 0 i.setProto))
  bind "WeakMap" (.obj (← ctor (.weak .mapCtor) "WeakMap" 0 i.weakMapProto))
  bind "WeakSet" (.obj (← ctor (.weak .setCtor) "WeakSet" 0 i.weakSetProto))
  for (name, f, len) in [("isNaN", GlobalFn.isNaN, 1), ("isFinite", .isFinite, 1),
      ("encodeURI", .encodeURI, 1), ("encodeURIComponent", .encodeURIComponent, 1),
      ("decodeURI", .decodeURI, 1), ("decodeURIComponent", .decodeURIComponent, 1),
      ("escape", .escape, 1), ("unescape", .unescape, 1), ("eval", .eval, 1)] do
    bind name (← newNative (.global f) name len false)
  for name in absentConstructors do
    bind name (← newNative (.global (.missing name)) name 0 true)

/-- Puts what the process gives its script on the global object. -/
def process : Eval Unit := do
  let i ← intr
  let g := i.globalObject
  let set (name : String) (v : Value) : Eval Unit :=
    modifyObj g fun o => { o with props := o.props.insert (keyOf name) (Property.plain v) }
  for name in ["require", "process", "module", "exports"] do set name .undefined
  let h ← host
  let pc := h.pc
  set "pid" (Value.ofNat pc.pid)
  set "args" (← newArray (pc.args.map Value.ofString).toArray)
  set "cwd" (Value.ofString pc.cwd)
  for (name, f, len) in processFunctions do set name (← newNative (.host f) name len false)
  if h.console then
    let console ← alloc (Obj.ordinary (some i.objectProto))
    for level in ["log", "info", "warn", "error"] do
      let f ← newNative (.host (.console level)) level 0 false
      modifyObj console fun o => { o with props := o.props.insert (keyOf level) (Property.plain f) }
      set "console" (.obj console)

/-- Sets up a fresh realm: the intrinsics, their methods, then the global object. -/
def setup : Eval Unit := do
  intrinsics
  prototypes
  standard
  process

end Globals

/-- A realm with nothing in it yet but the global scope and the well-known
symbols, for a host. -/
def Realm.empty (h : Host) : Realm :=
  { objects := #[], scopes := #[⟨#[], none, .global⟩],
    symbols := (WellKnown.names.map fun n => some (Str.ofString ("Symbol." ++ n))).toArray,
    registry := [], cells := #[], jobs := #[], nextJob := 0, templates := [], ticks := 0,
    random := 0x2545F4914F6CDD1D, intr := default, host := h }

end Script

end Userland
