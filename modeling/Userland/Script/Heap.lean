import Userland.Script.Native
import Userland.Script.Regex
import Userland.Worker.Context
import Std.Data.HashMap

namespace Userland

/-! # The heap and the realm

Objects and scopes live in arrays of the realm and are named by their
places; nothing is ever freed, so a place stays valid as long as the realm.

An object has its kind (ordinary, array, function, wrapper of a primitive,
map, promise, generator, proxy and the others a realm makes), its own
properties in the order they were added, its prototype, whether properties
may be added, and the private elements classes put on it.

A property holds a value, with whether it may be written, or a getter and a
setter; either kind says whether it is enumerable and whether it may be
deleted or changed. An array keeps its items apart from its properties as
long as they are plain values; once an item needs other attributes, as when
the array is frozen, its items become ordinary properties.

A scope binds names to values, each mutable or constant and possibly not yet
initialized, and points to the scope around it. A function's scope also
holds what the call gives it: `this`, the function, `new.target` and the
home object that `super` starts from.

Scripts run in `Eval`: the realm is its state, the process's own steps lie
under it, and a `Stop` ends it early.
-/

namespace Script

/-- What a property holds: a value, with whether it may be written, or a
getter and a setter, `undefined` when missing. -/
inductive Slot where
  | data (v : Value) (writable : Bool)
  | accessor (getter setter : Value)
  deriving Inhabited

/-- A property: what it holds, whether it is enumerable and whether it may be
deleted or changed. -/
structure Property where
  slot : Slot
  enumerable : Bool
  configurable : Bool
  deriving Inhabited

namespace Property

/-- A property as assignment makes it: writable, enumerable and configurable. -/
def plain (v : Value) : Property := ⟨.data v true, true, true⟩

/-- A property as builtins have it: writable and configurable, not enumerable. -/
def hidden (v : Value) : Property := ⟨.data v true, false, true⟩

/-- A property nothing may change. -/
def fixed (v : Value) : Property := ⟨.data v false, false, false⟩

/-- A property that may not be written or enumerated, only deleted. -/
def readOnly (v : Value) : Property := ⟨.data v false, false, true⟩

end Property

/-- An object's own properties, keeping the order they were added in. -/
structure PropMap where
  order : Array Key
  table : Std.HashMap Key Property

instance : Inhabited PropMap := ⟨⟨#[], {}⟩⟩

namespace PropMap

/-- No properties. -/
def empty : PropMap := ⟨#[], {}⟩

/-- The property under a key. -/
def find? (m : PropMap) (k : Key) : Option Property := m.table.get? k

/-- Whether there is a property under a key. -/
def contains (m : PropMap) (k : Key) : Bool := m.table.contains k

/-- Sets the property under a key, keeping its place if it was there. -/
def insert (m : PropMap) (k : Key) (p : Property) : PropMap :=
  if m.table.contains k then { m with table := m.table.insert k p }
  else ⟨m.order.push k, m.table.insert k p⟩

/-- Removes the property under a key. -/
def erase (m : PropMap) (k : Key) : PropMap :=
  if m.table.contains k then ⟨m.order.filter (· != k), m.table.erase k⟩ else m

/-- The properties from a list, in its order. -/
def ofList (ps : List (Key × Property)) : PropMap :=
  ps.foldl (fun m (k, p) => m.insert k p) empty

/-- The keys and properties in the order they were added. -/
def toList (m : PropMap) : List (Key × Property) :=
  m.order.toList.filterMap fun k => (m.table.get? k).map (k, ·)

end PropMap

/-- A value as a key of a map or a set: values that are the same by
`sameValueZero` have the same key. -/
inductive TableKey where
  | undefined
  | null
  | bool (b : Bool)
  | num (bits : UInt64)
  | big (n : Int)
  | str (s : Str)
  | sym (id : Nat)
  | obj (ref : Nat)
  deriving BEq, Hashable, Inhabited

/-- The key a value has in maps and sets: all NaNs are one, and zero is negative zero. -/
def TableKey.of : Value → TableKey
  | .undefined => .undefined
  | .null => .null
  | .bool b => .bool b
  | .num x => if x.isNaN then .num 0x7ff8000000000000 else if x == 0 then .num 0 else .num x.toBits
  | .big n => .big n
  | .str s => .str s
  | .sym i => .sym i
  | .obj r => .obj r

/-- The entries of a map or set in the order they were added. A deleted
entry leaves a gap, so iterators keep their places. -/
structure Table where
  entries : Array (Option (Value × Value))
  index : Std.HashMap TableKey Nat
  count : Nat

instance : Inhabited Table := ⟨⟨#[], {}, 0⟩⟩

namespace Table

/-- No entries. -/
def empty : Table := ⟨#[], {}, 0⟩

/-- The value under a key. -/
def find? (t : Table) (k : Value) : Option Value := do
  let i ← t.index.get? (TableKey.of k)
  let (_, v) ← (t.entries[i]?).join
  return v

/-- Whether a key is present. -/
def contains (t : Table) (k : Value) : Bool := t.index.contains (TableKey.of k)

/-- Sets the value under a key, keeping the key's place if it was there. A
negative zero key is stored as zero. -/
def insert (t : Table) (k v : Value) : Table :=
  let k := match k with
    | .num x => if x == 0 then Value.num 0 else k
    | _ => k
  match t.index.get? (TableKey.of k) with
  | some i => { t with entries := t.entries.set! i (some (k, v)) }
  | none =>
    ⟨t.entries.push (some (k, v)), t.index.insert (TableKey.of k) t.entries.size, t.count + 1⟩

/-- Removes a key; whether it was present. -/
def erase (t : Table) (k : Value) : Table × Bool :=
  match t.index.get? (TableKey.of k) with
  | some i => (⟨t.entries.set! i none, t.index.erase (TableKey.of k), t.count - 1⟩, true)
  | none => (t, false)

/-- Removes every key, leaving gaps. -/
def clear (t : Table) : Table := ⟨t.entries.map fun _ => none, {}, 0⟩

/-- The entries present, in order. -/
def toList (t : Table) : List (Value × Value) := t.entries.toList.filterMap id

end Table

/-- Which view of a collection an iterator walks. -/
inductive IterKind where
  | keys
  | values
  | entries
  deriving Inhabited, BEq

/-- A function that waits for a promise to settle, and the promise it settles in turn. -/
structure Capability where
  promise : Value
  resolve : Value
  reject : Value
  deriving Inhabited

/-- What is done when a promise settles: a handler to call, none to pass the
value on, and the capability its result settles. -/
structure Reaction where
  handler : Option Value
  capability : Option Capability
  deriving Inhabited

/-- Where a promise stands. -/
inductive PromiseState where
  | pending
  | fulfilled (v : Value)
  | rejected (v : Value)
  deriving Inhabited

/-- Where a generator stands. -/
inductive GenState where
  /-- Waiting, with the machine to go on with; `started` once its body has run. -/
  | suspended (m : Machine) (started : Bool)
  | running
  | finished
  deriving Inhabited

/-- A compiled regular expression with its source text and flags. -/
structure RegExpData where
  source : Str
  flags : String
  compiled : Regex.Compiled
  deriving Inhabited

/-- What a class constructor keeps: whether it extends another class, the
fields and private methods it puts on instances, the class's scope, its
prototype, and whether the constructor is the one a class gets when it
writes none. -/
structure ClassData where
  derived : Bool
  fields : Array FieldDef
  privMethods : Array PrivMethod
  scope : Nat
  home : Nat
  implicit : Bool
  deriving Inhabited

/-- A function literal closed over the scope it was made in. -/
structure Closure where
  func : Func
  env : Nat
  strict : Bool
  /-- The object whose prototype `super` starts from. -/
  home : Option Nat
  cls : Option ClassData
  deriving Inhabited

/-- What a function object runs. -/
inductive Callable where
  | closure (c : Closure)
  /-- A builtin; `ctor` when it may be called with `new`. -/
  | native (n : Native) (ctor : Bool)
  /-- A function bound to `this` and leading arguments. -/
  | bound (target thisVal : Value) (args : List Value)
  deriving Inhabited

/-- What an object is, beyond its properties. -/
inductive ObjKind where
  | ordinary
  /-- An array with its items, `none` for a hole. -/
  | array (items : Array (Option Value))
  /-- An array whose items are ordinary properties, with its length and whether that is writable. -/
  | slowArray (length : Nat) (lengthWritable : Bool)
  | func (c : Callable)
  /-- A wrapper of a string, number, boolean or symbol. -/
  | boxed (v : Value)
  | error
  /-- The arguments of a call; the names of the parameters its items stand for. -/
  | arguments (env : Nat) (mapped : Array (Option String))
  | regexp (r : RegExpData)
  | date (t : Float)
  | map (t : Table)
  | set (t : Table)
  | weakMap (t : Table)
  | weakSet (t : Table)
  | promise (state : PromiseState) (reactions : Array (Reaction × Reaction)) (handled : Bool)
  | generator (state : GenState)
  /-- A proxy; `callable` and `ctor` as its target was when it was made. -/
  | proxy (target handler : Nat) (revoked callable ctor : Bool)
  | arrayIter (target : Value) (index : Nat) (kind : IterKind) (done : Bool)
  | mapIter (table : Nat) (index : Nat) (kind : IterKind) (done : Bool)
  | setIter (table : Nat) (index : Nat) (kind : IterKind) (done : Bool)
  | stringIter (s : Str) (pos : Nat) (done : Bool)
  | regexpIter (rx : Value) (s : Str) (global unicode done : Bool)
  deriving Inhabited

/-- A private element of an object: the brand of the class that made it, its name, and what it holds. -/
structure PrivElem where
  brand : Nat
  name : String
  slot : Slot
  deriving Inhabited

/-- An object. -/
structure Obj where
  kind : ObjKind
  props : PropMap
  proto : Option Nat
  extensible : Bool
  privs : Array PrivElem
  deriving Inhabited

namespace Obj

/-- An ordinary object with a prototype and no properties. -/
def ordinary (proto : Option Nat) : Obj := ⟨.ordinary, PropMap.empty, proto, true, #[]⟩

/-- An object of a kind with a prototype and no properties. -/
def ofKind (k : ObjKind) (proto : Option Nat) : Obj := ⟨k, PropMap.empty, proto, true, #[]⟩

/-- Whether the object can be called. -/
def callable (o : Obj) : Bool :=
  match o.kind with
  | .func _ => true
  | .proxy _ _ _ c _ => c
  | _ => false

/-- Whether the object can be called with `new`. -/
def isCtor (o : Obj) : Bool :=
  match o.kind with
  | .func (.closure c) =>
    match c.func.info.kind with
    | .plain => !c.func.info.generator && !c.func.info.async
    | .classCtor _ => true
    | _ => false
  | .func (.native _ b) => b
  | .func (.bound ..) => true
  | .proxy _ _ _ _ b => b
  | _ => false

end Obj

/-- How a name is bound. -/
inductive BindingMode where
  | mutable
  | const
  /-- The name of a function expression inside it: assigning it does nothing, or fails in strict code. -/
  | fnName
  deriving Inhabited, BEq

/-- A name's binding: its value, how it is bound, and whether it is initialized yet. -/
structure Binding where
  name : String
  value : Value
  mode : BindingMode
  ready : Bool
  deriving Inhabited

/-- What a call gives a function's scope: `this` (none until a derived
constructor calls `super`), the function, `new.target` and the home object. -/
structure CallContext where
  thisVal : Option Value
  func : Value
  newTarget : Value
  home : Option Nat
  deriving Inhabited

/-- What a scope is. -/
inductive ScopeKind where
  | global
  | function (cc : CallContext)
  | block
  /-- The scope of `with (o)`: names are properties of the object. -/
  | withObj (o : Nat)
  /-- A class body; the scope's place is the brand of its private names. -/
  | classBody (names : List String)
  deriving Inhabited

/-- A scope. -/
structure Scope where
  vars : Array Binding
  parent : Option Nat
  kind : ScopeKind
  deriving Inhabited

/-- The objects the realm makes before a script runs, by their places. -/
structure Intrinsics where
  objectProto : Nat
  functionProto : Nat
  arrayProto : Nat
  stringProto : Nat
  numberProto : Nat
  booleanProto : Nat
  symbolProto : Nat
  errorProtos : Array Nat
  iteratorProto : Nat
  arrayIterProto : Nat
  mapIterProto : Nat
  setIterProto : Nat
  stringIterProto : Nat
  regexpIterProto : Nat
  generatorProto : Nat
  generatorFunctionProto : Nat
  asyncFunctionProto : Nat
  promiseProto : Nat
  promiseCtor : Nat
  regexpProto : Nat
  dateProto : Nat
  mapProto : Nat
  setProto : Nat
  weakMapProto : Nat
  weakSetProto : Nat
  globalObject : Nat
  arrayValues : Nat
  throwTypeError : Nat
  bigintProto : Nat
  deriving Inhabited

/-- The process a script runs in: its context, whether it has a console, and
how deep calls may nest (0 for no limit). -/
structure Host where
  pc : ProcessContext
  console : Bool
  maxDepth : Nat
  deriving Inhabited

/-- Work left for when the script's own run ends. -/
inductive Job where
  /-- Calls a reaction's handler with a promise's value. -/
  | reaction (r : Reaction) (arg : Value) (reject : Bool)
  /-- Resolves a promise by calling a thenable's `then`. -/
  | thenable (promise : Nat) (thenable thenFn : Value)
  deriving Inhabited

/-- Everything a script's run holds. -/
structure Realm where
  objects : Array Obj
  scopes : Array Scope
  /-- The descriptions of the symbols, by their numbers. -/
  symbols : Array (Option Str)
  /-- The symbols `Symbol.for` made, by their keys. -/
  registry : List (Str × Nat)
  /-- Cells of state that builtin functions share. -/
  cells : Array Value
  jobs : Array Job
  nextJob : Nat
  /-- The strings objects of tagged templates, by their places. -/
  templates : List (Nat × Value)
  /-- The steps taken so far, so that a long run looks now and then whether its process ended. -/
  ticks : Nat
  random : UInt64
  intr : Intrinsics
  host : Host
  deriving Inhabited

/-- How scripts run. -/
abbrev Eval := ExceptT Stop (StateT Realm Proc)

namespace Eval

variable {α : Type}

/-- Runs a process step. -/
def proc (p : Proc α) : Eval α := ExceptT.lift (StateT.lift p)

/-- Runs a task step. -/
def task (p : Prog α) : Eval α := proc (Proc.lift p)

/-- The realm. -/
def realm : Eval Realm := ExceptT.lift get

/-- Changes the realm. -/
def modifyRealm (f : Realm → Realm) : Eval Unit := ExceptT.lift (modify f)

/-- The host. -/
def host : Eval Host := return (← realm).host

/-- The intrinsic objects. -/
def intr : Eval Intrinsics := return (← realm).intr

/-- Stops running. -/
def stop (s : Stop) : Eval α := throw s

/-- Throws a value. -/
def throwValue (v : Value) : Eval α := throw (.thrown v)

/-- An object on the heap. -/
def getObj (r : Nat) : Eval Obj := return (← realm).objects[r]?.getD default

/-- Replaces an object on the heap. -/
def setObj (r : Nat) (o : Obj) : Eval Unit :=
  modifyRealm fun s => { s with objects := s.objects.set! r o }

/-- Changes an object on the heap. -/
def modifyObj (r : Nat) (f : Obj → Obj) : Eval Unit :=
  modifyRealm fun s => { s with objects := s.objects.modify r f }

/-- Changes the items of an array that keeps them in place. The object lets
go of its items before they change, so that they change without a copy. -/
def modifyItems (r : Nat) (f : Array (Option Value) → Array (Option Value)) : Eval Unit :=
  modifyObj r fun o =>
    match o.kind with
    | .array items =>
      let o := { o with kind := .ordinary }
      { o with kind := .array (f items) }
    | _ => o

/-- Changes the ordinary properties of an object. The object lets go of them
before they change, so that they change without a copy. -/
def modifyProps (r : Nat) (f : PropMap → PropMap) : Eval Unit :=
  modifyObj r fun o =>
    let props := o.props
    let o := { o with props := PropMap.empty }
    { o with props := f props }

/-- Puts an object on the heap. -/
def alloc (o : Obj) : Eval Nat := do
  let r := (← realm).objects.size
  modifyRealm fun s => { s with objects := s.objects.push o }
  return r

/-- A scope. -/
def getScope (i : Nat) : Eval Scope := return (← realm).scopes[i]?.getD default

/-- Changes a scope. -/
def modifyScope (i : Nat) (f : Scope → Scope) : Eval Unit :=
  modifyRealm fun s => { s with scopes := s.scopes.modify i f }

/-- Makes a scope. -/
def newScope (sc : Scope) : Eval Nat := do
  let i := (← realm).scopes.size
  modifyRealm fun s => { s with scopes := s.scopes.push sc }
  return i

/-- Makes a cell holding a value. -/
def newCell (v : Value) : Eval Nat := do
  let i := (← realm).cells.size
  modifyRealm fun s => { s with cells := s.cells.push v }
  return i

/-- The value in a cell. -/
def getCell (i : Nat) : Eval Value := return (← realm).cells[i]?.getD .undefined

/-- Sets the value in a cell. -/
def setCell (i : Nat) (v : Value) : Eval Unit :=
  modifyRealm fun s => { s with cells := s.cells.set! i v }

/-- Adds a job to run after the script. -/
def enqueue (j : Job) : Eval Unit := modifyRealm fun s => { s with jobs := s.jobs.push j }

/-- Makes a symbol with a description. -/
def newSymbol (desc : Option Str) : Eval Nat := do
  let i := (← realm).symbols.size
  modifyRealm fun s => { s with symbols := s.symbols.push desc }
  return i

/-- The description of a symbol. -/
def symbolDescription (i : Nat) : Eval (Option Str) := return ((← realm).symbols[i]?).join

/-- An ordinary object with a prototype and properties. -/
def newObjectWith (proto : Option Nat) (props : List (Key × Property)) : Eval Value := do
  return .obj (← alloc ⟨.ordinary, PropMap.ofList props, proto, true, #[]⟩)

/-- A plain object with properties made as assignment makes them. -/
def newObject (props : List (String × Value)) : Eval Value := do
  newObjectWith (some (← intr).objectProto) (props.map fun (k, v) => ((k : Key), Property.plain v))

/-- An array of values. -/
def newArray (items : Array Value) : Eval Value := do
  return .obj (← alloc (Obj.ofKind (.array (items.map some)) (some (← intr).arrayProto)))

/-- The prototype of errors of a kind. -/
def errorProto (k : ErrorKind) : Eval Nat := do
  let i := (← intr).errorProtos
  let at_ := match k with
    | .error => 0 | .typeError => 1 | .rangeError => 2 | .referenceError => 3
    | .syntaxError => 4 | .evalError => 5 | .uriError => 6 | .goError => 7
  return i[at_]?.getD 0

/-- An error object of a kind with a message. -/
def newError (k : ErrorKind) (msg : String) : Eval Value := do
  let proto ← errorProto k
  return .obj (← alloc ⟨.error, PropMap.ofList [("message", Property.hidden (.str (Str.ofString msg)))],
    some proto, true, #[]⟩)

/-- Throws an error of a kind with a message. -/
def throwKind (k : ErrorKind) (msg : String) : Eval α := do
  throwValue (← newError k msg)

/-- Throws a type error. -/
def throwType (msg : String) : Eval α := throwKind .typeError msg

/-- Throws a range error. -/
def throwRange (msg : String) : Eval α := throwKind .rangeError msg

/-- Throws a reference error. -/
def throwReference (msg : String) : Eval α := throwKind .referenceError msg

/-- Throws a syntax error. -/
def throwSyntax (msg : String) : Eval α := throwKind .syntaxError msg

/-- Throws the error of the machine that a builtin of the process passes on. -/
def throwFault (f : Fault) : Eval α := throwKind .goError f.message

/-- A builtin function object. -/
def newNative (n : Native) (name : String) (length : Nat) (ctor : Bool) : Eval Value := do
  let props : List (Key × Property) :=
    [("length", Property.readOnly (Value.ofNat length)), ("name", Property.readOnly (Value.ofString name))]
  return .obj (← alloc ⟨.func (.native n ctor), PropMap.ofList props, some (← intr).functionProto, true, #[]⟩)

end Eval

end Script

end Userland
