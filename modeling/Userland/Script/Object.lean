import Userland.Script.Heap
import Userland.Script.BigInteger

namespace Userland

/-! # Objects and conversions

The operations every part of a script's run shares: reading, writing,
defining and deleting properties, listing keys, walking prototypes, and
converting values to primitives, numbers, strings, keys and objects.

Properties are found on the object, then along its prototypes. Arrays and
string wrappers have their items as properties, the arguments object of a
sloppy function reads and writes its parameters, and a proxy asks its
handler. A property's getter and setter are calls; so are the `valueOf` and
`toString` that converting an object asks for, and a proxy's traps. Those
calls go through `Callbacks`, which the machine provides, so that this
module stays below it.

Walks along prototypes are bounded: setting a prototype refuses cycles, and
every walk stops after a fixed number of steps in any case.
-/

namespace Script

open Eval

/-- How the machine is called back: calling a function with `this` and
arguments, and constructing with arguments and `new.target`. -/
structure Callbacks where
  call : Value → Value → List Value → Eval Value
  construct : Value → List Value → Value → Eval Value

/-- The most prototypes a walk visits. -/
def chainLimit : Nat := 100000

/-- The key `length`. -/
def lengthKey : Key := .str (Str.ofString "length")

/-- The argument at a place, `undefined` when missing. -/
def arg (args : List Value) (i : Nat) : Value := args.getD i .undefined

/-- A value from a float. -/
def ofFloat (x : Float) : Value := .num x

/-- A value from a boolean. -/
def ofBool (b : Bool) : Value := .bool b

/-- A key from text. -/
def keyOf (s : String) : Key := .str (Str.ofString s)

/-- A well-known symbol as a key. -/
def symKey (i : Nat) : Key := .sym i

/-! ## Bindings by scope -/

/-- The value bound to a name in one scope. -/
def readBinding (sc : Nat) (name : String) : Eval (Option Value) := do
  return ((← getScope sc).vars.find? (·.name == name)).map (·.value)

/-- Sets the value bound to a name in one scope, if it is bound there. -/
def writeBinding (sc : Nat) (name : String) (v : Value) : Eval Unit :=
  modifyScope sc fun s =>
    match s.vars.findIdx? (·.name == name) with
    | some i => { s with vars := s.vars.modify i fun b => { b with value := v } }
    | none => s

/-! ## Texts for messages -/

/-- How a key reads in a message. -/
def keyText (k : Key) : Eval String := do
  match k with
  | .str s => return s.text
  | .sym i =>
    match ← symbolDescription i with
    | some d => return "Symbol(" ++ d.text ++ ")"
    | none => return "Symbol()"

/-! ## Own properties -/

/-- The unit of a string at an index, as a string. -/
def unitString (s : Str) (i : Nat) : Str := s.slice i (i + 1)

/-- An own property of an object that is not a proxy. -/
def ownPropertyOf (o : Obj) (k : Key) : Eval (Option Property) := do
  match o.kind with
  | .array items =>
    match k.index? with
    | some i =>
      match items[i]? with
      | some (some v) => return some (Property.plain v)
      | _ => return none
    | none =>
      if k == lengthKey then return some ⟨.data (Value.ofNat items.size) true, false, false⟩
      return o.props.find? k
  | .slowArray len w =>
    if k == lengthKey then return some ⟨.data (Value.ofNat len) w, false, false⟩
    return o.props.find? k
  | .boxed (.str s) =>
    if k == lengthKey then return some (Property.fixed (Value.ofNat s.length))
    match k.index? with
    | some i =>
      if i < s.length then return some ⟨.data (.str (unitString s i)) false, true, false⟩
      return o.props.find? k
    | none => return o.props.find? k
  | .arguments env mapped =>
    match o.props.find? k with
    | some p =>
      match k.index?, p.slot with
      | some i, .data _ w =>
        match mapped[i]? with
        | some (some name) =>
          match ← readBinding env name with
          | some v => return some { p with slot := .data v w }
          | none => return some p
        | _ => return some p
      | _, _ => return some p
    | none => return none
  | _ => return o.props.find? k

/-! ## Descriptors -/

/-- A property descriptor as `defineProperty` takes it: each field may be missing. -/
structure Descriptor where
  value : Option Value
  writable : Option Bool
  getter : Option Value
  setter : Option Value
  enumerable : Option Bool
  configurable : Option Bool
  deriving Inhabited

namespace Descriptor

/-- Whether the descriptor has a getter or setter. -/
def isAccessor (d : Descriptor) : Bool := d.getter.isSome || d.setter.isSome

/-- Whether the descriptor has a value or says whether it is writable. -/
def isData (d : Descriptor) : Bool := d.value.isSome || d.writable.isSome

/-- The descriptor of a plain data property with a value. -/
def plain (v : Value) : Descriptor := ⟨some v, some true, none, none, some true, some true⟩

/-- The descriptor that sets only a value. -/
def valueOnly (v : Value) : Descriptor := ⟨some v, none, none, none, none, none⟩

/-- The property a descriptor makes where there was none. -/
def toProperty (d : Descriptor) : Property :=
  if d.isAccessor then
    ⟨.accessor (d.getter.getD .undefined) (d.setter.getD .undefined), d.enumerable.getD false,
      d.configurable.getD false⟩
  else ⟨.data (d.value.getD .undefined) (d.writable.getD false), d.enumerable.getD false,
    d.configurable.getD false⟩

end Descriptor

/-- Whether two values are the same object or the same primitive, for descriptor checks. -/
def sameSlotValue (a b : Value) : Bool := Value.sameValue a b

/-- Applies a descriptor to a property that exists: the new property, or none
when the change is not allowed. -/
def applyDescriptor (cur : Property) (d : Descriptor) : Option Property :=
  let enumOk := match d.enumerable with
    | some e => e == cur.enumerable
    | none => true
  if !cur.configurable && (d.configurable == some true || !enumOk) then none
  else
    let enumerable := d.enumerable.getD cur.enumerable
    let configurable := d.configurable.getD cur.configurable
    if !d.isAccessor && !d.isData then some { cur with enumerable, configurable }
    else
      match cur.slot with
      | .data v w =>
        if d.isAccessor then
          if !cur.configurable then none
          else some ⟨.accessor (d.getter.getD .undefined) (d.setter.getD .undefined), enumerable, configurable⟩
        else
          if !cur.configurable && !w then
            if d.writable == some true then none
            else match d.value with
              | some nv => if sameSlotValue nv v then some cur else none
              | none => some cur
          else some ⟨.data (d.value.getD v) (d.writable.getD w), enumerable, configurable⟩
      | .accessor g s =>
        if d.isData then
          if !cur.configurable then none
          else some ⟨.data (d.value.getD .undefined) (d.writable.getD false), enumerable, configurable⟩
        else
          let sameG := match d.getter with
            | some ng => sameSlotValue ng g
            | none => true
          let sameS := match d.setter with
            | some ns => sameSlotValue ns s
            | none => true
          if !cur.configurable && (!sameG || !sameS) then none
          else some ⟨.accessor (d.getter.getD g) (d.setter.getD s), enumerable, configurable⟩

/-! ## Arrays -/

/-- The most items an array keeps in place; an index past it makes the array keep its items as properties. -/
def denseLimit : Nat := 50000000

/-- Turns an array's items into ordinary properties. -/
def toSlowArray (r : Nat) : Eval Unit := do
  let o ← getObj r
  match o.kind with
  | .array items =>
    let itemProps := (List.range items.size).filterMap fun i =>
      match items[i]? with
      | some (some v) => some (Key.ofIndex i, Property.plain v)
      | _ => none
    let props := itemProps.foldl (fun m (k, p) => m.insert k p) PropMap.empty
    let props := o.props.toList.foldl (fun m (k, p) => m.insert k p) props
    setObj r { o with kind := .slowArray items.size true, props }
  | _ => pure ()

/-- The items of an array after setting its length, dropping or adding holes. -/
def resizeItems (items : Array (Option Value)) (n : Nat) : Array (Option Value) :=
  if n == items.size then items
  else if n < items.size then dropLast (items.size - n) items
  else items ++ Array.replicate (n - items.size) none
where
  /-- An array without its last `k` items. -/
  dropLast : Nat → Array (Option Value) → Array (Option Value)
    | 0, a => a
    | k + 1, a => dropLast k a.pop

/-- The length of a slow array after deleting its items from a new length on:
deletion stops above an item that may not be deleted. -/
def truncateSlow (props : PropMap) (len newLen : Nat) : PropMap × Nat :=
  let keys := props.order.toList.filterMap fun k => k.index?.bind fun i =>
    if newLen ≤ i && i < len then some i else none
  let sorted := (keys.mergeSort (fun a b => a ≥ b))
  sorted.foldl (fun (m, l) i =>
    if l ≤ i then (m, l)
    else match m.find? (Key.ofIndex i) with
      | some p => if p.configurable then (m.erase (Key.ofIndex i), l) else (m, max l (i + 1))
      | none => (m, l)) (props, newLen)

/-! ## Proxies -/

/-- Throws the error of an operation on a revoked proxy. -/
def revokedError {α : Type} (op : String) : Eval α :=
  throwType ("Cannot perform '" ++ op ++ "' on a proxy that has been revoked")

/-- The trap of a proxy's handler, if it has one. -/
def trapOf (cb : Callbacks) (handler : Nat) (name : String) (fuel : Nat) : Eval (Option Value) := do
  let rec find : Nat → Nat → Eval Value
    | 0, _ => pure .undefined
    | n + 1, r => do
      let o ← getObj r
      match o.props.find? (keyOf name) with
      | some ⟨.data v _, _, _⟩ => return v
      | some ⟨.accessor g _, _, _⟩ => if g.isUndefined then return .undefined else cb.call g (.obj handler) []
      | none =>
        match o.proto with
        | some p => find n p
        | none => return .undefined
  let t ← find fuel handler
  if t.isNullish then return none
  return some t

/-! ## Reading properties -/

/-- The text of a primitive value, for messages. -/
def primitiveText (v : Value) : String :=
  match v with
  | .undefined => "undefined"
  | .null => "null"
  | .bool b => if b then "true" else "false"
  | .num x => Number.text x
  | .big n => toString n
  | .str s => s.text
  | .sym _ => "Symbol()"
  | .obj _ => "[object Object]"

/-- Converts a key to the value a proxy's trap receives. -/
def keyValue (k : Key) : Value :=
  match k with
  | .str s => .str s
  | .sym i => .sym i

mutual

/-- The own property of an object under a key, asking a proxy's handler. -/
def ownProperty (cb : Callbacks) (fuel : Nat) (r : Nat) (k : Key) : Eval (Option Property) := do
  let o ← getObj r
  match o.kind with
  | .proxy target handler revoked _ _ =>
    if revoked then revokedError "getOwnPropertyDescriptor"
    match fuel with
    | 0 => return none
    | n + 1 =>
      match ← trapOf cb handler "getOwnPropertyDescriptor" chainLimit with
      | none => ownProperty cb n target k
      | some t =>
        let d ← cb.call t (.obj handler) [.obj target, keyValue k]
        match d with
        | .undefined => return none
        | .obj dr => return some (Descriptor.toProperty (← toDescriptor cb n dr))
        | _ => throwType "getOwnPropertyDescriptor trap result is neither object nor undefined"
  | _ => ownPropertyOf o k

/-- Reads a descriptor object. -/
def toDescriptor (cb : Callbacks) (fuel : Nat) (r : Nat) : Eval Descriptor := do
  match fuel with
  | 0 => return ⟨none, none, none, none, none, none⟩
  | n + 1 =>
  let field (name : String) : Eval (Option Value) := do
    if ← hasProperty cb n r (keyOf name) then return some (← getFrom cb n r (keyOf name) (.obj r))
    return none
  let enumerable := (← field "enumerable").map Value.truthy
  let configurable := (← field "configurable").map Value.truthy
  let value ← field "value"
  let writable := (← field "writable").map Value.truthy
  let getter ← field "get"
  let setter ← field "set"
  let callableOk (v : Option Value) : Eval Bool := do
    match v with
    | none | some .undefined => return true
    | some (.obj f) => return (← getObj f).callable
    | some _ => return false
  if !(← callableOk getter) then
    throwType ("Getter must be a function: " ++ (match getter with | some v => primitiveText v | none => ""))
  if !(← callableOk setter) then
    throwType ("Setter must be a function: " ++ (match setter with | some v => primitiveText v | none => ""))
  if (getter.isSome || setter.isSome) && (value.isSome || writable.isSome) then
    throwType "Invalid property descriptor. Cannot both specify accessors and a value or writable attribute"
  return ⟨value, writable, getter, setter, enumerable, configurable⟩

/-- Whether an object has a property, its own or along its prototypes. -/
def hasProperty (cb : Callbacks) (fuel : Nat) (r : Nat) (k : Key) : Eval Bool := do
  match fuel with
  | 0 => return false
  | n + 1 =>
    let o ← getObj r
    match o.kind with
    | .proxy target handler revoked _ _ =>
      if revoked then revokedError "has"
      match ← trapOf cb handler "has" chainLimit with
      | none => hasProperty cb n target k
      | some t => return (← cb.call t (.obj handler) [.obj target, keyValue k]).truthy
    | _ =>
      if (← ownPropertyOf o k).isSome then return true
      match o.proto with
      | some p => hasProperty cb n p k
      | none => return false

/-- Reads a property of an object with a receiver for getters. -/
def getFrom (cb : Callbacks) (fuel : Nat) (r : Nat) (k : Key) (recv : Value) : Eval Value := do
  match fuel with
  | 0 => return .undefined
  | n + 1 =>
    let o ← getObj r
    match o.kind with
    | .proxy target handler revoked _ _ =>
      if revoked then revokedError "get"
      match ← trapOf cb handler "get" chainLimit with
      | none => getFrom cb n target k recv
      | some t => cb.call t (.obj handler) [.obj target, keyValue k, recv]
    | _ =>
      match ← ownPropertyOf o k with
      | some p =>
        match p.slot with
        | .data v _ => return v
        | .accessor g _ => if g.isUndefined then return .undefined else cb.call g recv []
      | none =>
        match o.proto with
        | some p => getFrom cb n p k recv
        | none => return .undefined

end

/-- Reads a property of an object. -/
def get (cb : Callbacks) (r : Nat) (k : Key) : Eval Value := getFrom cb chainLimit r k (.obj r)

/-- Whether an object has a property. -/
def has (cb : Callbacks) (r : Nat) (k : Key) : Eval Bool := hasProperty cb chainLimit r k

/-- An own property of an object. -/
def getOwn (cb : Callbacks) (r : Nat) (k : Key) : Eval (Option Property) := ownProperty cb chainLimit r k

/-! ## Defining, writing and deleting -/

/-- Defines a property among an object's ordinary properties, given the one
under the key now and whether the object takes new ones: whether it was allowed. -/
def defineAmong (r : Nat) (cur : Option Property) (extensible : Bool) (k : Key) (d : Descriptor) :
    Eval Bool := do
  match cur with
  | some c =>
    match applyDescriptor c d with
    | some p => modifyProps r (·.insert k p); return true
    | none => return false
  | none =>
    if !extensible then return false
    modifyProps r (·.insert k d.toProperty)
    return true

/-- Defines a property among an object's ordinary properties: whether it was allowed. -/
@[inline] def defineProps (r : Nat) (o : Obj) (k : Key) (d : Descriptor) : Eval Bool :=
  defineAmong r (o.props.find? k) o.extensible k d

/-- Defines an own property of an array that keeps its items as properties. -/
def defineSlow (r : Nat) (o : Obj) (len : Nat) (lw : Bool) (k : Key) (d : Descriptor) : Eval Bool := do
  if k == lengthKey then
    let cur : Property := ⟨.data (Value.ofNat len) lw, false, false⟩
    match applyDescriptor cur d with
    | none => return false
    | some ⟨.data v w, _, _⟩ =>
      let n := match v with
        | .num x => Number.toUint32 x
        | _ => len
      if n < len then
        if !lw then return false
        let (props, l) := truncateSlow o.props len n
        setObj r { o with kind := .slowArray l w, props }
        return l == n
      setObj r { o with kind := .slowArray n (w && lw) }
      return true
    | some _ => return false
  match k.index? with
  | some i =>
    if i ≥ len && !lw then return false
    let ok ← defineProps r o k d
    if ok && i ≥ len then
      modifyObj r fun o => match o.kind with
        | .slowArray _ w => { o with kind := .slowArray (i + 1) w }
        | _ => o
    return ok
  | none => defineProps r o k d

/-- Turns an array into one that keeps its items as properties, then defines a property on it. -/
def defineAfterSlowing (r : Nat) (k : Key) (d : Descriptor) : Eval Bool := do
  toSlowArray r
  let o ← getObj r
  match o.kind with
  | .slowArray len lw => defineSlow r o len lw k d
  | _ => defineProps r o k d

/-- Defines an own property of an object that is not a proxy: whether it was allowed. -/
def defineOrdinary (r : Nat) (k : Key) (d : Descriptor) : Eval Bool := do
  let o ← getObj r
  match o.kind with
  | .array items =>
    match k.index? with
    | some i =>
      let plainDesc := !d.isAccessor && d.writable != some false && d.enumerable != some false &&
        d.configurable != some false
      match items[i]? with
      | some (some v) =>
        if plainDesc then
          modifyItems r (·.set! i (some (d.value.getD v)))
          return true
        defineAfterSlowing r k d
      | _ =>
        if !o.extensible then return false
        if plainDesc && d.writable == some true && d.enumerable == some true && d.configurable == some true &&
            i < items.size + denseLimit then
          modifyItems r fun items =>
            let items := if i < items.size then items else resizeItems items (i + 1)
            items.set! i (some (d.value.getD .undefined))
          return true
        defineAfterSlowing r k d
    | none =>
      if k == lengthKey then
        let cur : Property := ⟨.data (Value.ofNat items.size) true, false, false⟩
        match applyDescriptor cur d with
        | none => return false
        | some ⟨.data v w, _, _⟩ =>
          let n := match v with
            | .num x => Number.toUint32 x
            | _ => items.size
          modifyItems r (resizeItems · n)
          if !w then
            toSlowArray r
            modifyObj r fun o => match o.kind with
              | .slowArray l _ => { o with kind := .slowArray l false }
              | _ => o
          return true
        | some _ => return false
      defineProps r o k d
  | .slowArray len lw => defineSlow r o len lw k d
  | .boxed (.str s) =>
    if k == lengthKey then
      return (applyDescriptor (Property.fixed (Value.ofNat s.length)) d).isSome
    match k.index? with
    | some i =>
      if i < s.length then
        return (applyDescriptor ⟨.data (.str (unitString s i)) false, true, false⟩ d).isSome
      defineProps r o k d
    | none => defineProps r o k d
  | .arguments env mapped =>
    match k.index? with
    | some i =>
      match mapped[i]? with
      | some (some name) =>
        if let some v := d.value then writeBinding env name v
        let cur ← ownPropertyOf o k
        let o := match cur with
          | some p => { o with props := o.props.insert k p }
          | none => o
        let ok ← defineProps r o k d
        if ok && (d.isAccessor || d.writable == some false) then
          modifyObj r fun o => { o with kind := .arguments env (mapped.set! i none) }
        return ok
      | _ => defineProps r o k d
    | none => defineProps r o k d
  | _ => defineProps r o k d

/-- Defines an own property of an object, asking a proxy's handler. -/
def defineOwn (cb : Callbacks) (r : Nat) (k : Key) (d : Descriptor) : Eval Bool := do
  let rec go : Nat → Nat → Eval Bool
    | 0, _ => return false
    | n + 1, r => do
      let o ← getObj r
      match o.kind with
      | .proxy target handler revoked _ _ =>
        if revoked then revokedError "defineProperty"
        match ← trapOf cb handler "defineProperty" chainLimit with
        | none => go n target
        | some t =>
          let dv ← descriptorObject d
          return (← cb.call t (.obj handler) [.obj target, keyValue k, dv]).truthy
      | _ => defineOrdinary r k d
  go chainLimit r
where
  descriptorObject (d : Descriptor) : Eval Value := do
    let fields : List (String × Option Value) :=
      [("value", d.value), ("writable", d.writable.map ofBool), ("get", d.getter), ("set", d.setter),
       ("enumerable", d.enumerable.map ofBool), ("configurable", d.configurable.map ofBool)]
    newObject (fields.filterMap fun (k, v) => v.map (k, ·))

/-- Sets an own data property as assignment does: plain attributes when new. -/
def createData (cb : Callbacks) (r : Nat) (k : Key) (v : Value) : Eval Bool :=
  defineOwn cb r k (Descriptor.plain v)

/-- Writes the value of an own data property that exists and is writable. -/
def writeOwnData (r : Nat) (k : Key) (v : Value) : Eval Unit := do
  let o ← getObj r
  match o.kind with
  | .array _ =>
    match k.index? with
    | some i => modifyItems r (·.set! i (some v))
    | none =>
      if k == lengthKey then
        let _ ← defineOrdinary r k (Descriptor.valueOnly v)
      else
        match o.props.find? k with
        | some p => modifyProps r (·.insert k { p with slot := .data v true })
        | none => pure ()
  | .slowArray .. =>
    if k == lengthKey then
      let _ ← defineOrdinary r k (Descriptor.valueOnly v)
    else
      match o.props.find? k with
      | some p => modifyProps r (·.insert k { p with slot := .data v true })
      | none => pure ()
  | .arguments env mapped =>
    match k.index? with
    | some i =>
      match mapped[i]? with
      | some (some name) => writeBinding env name v
      | _ => pure ()
    | none => pure ()
    match o.props.find? k with
    | some p => modifyProps r (·.insert k { p with slot := .data v true })
    | none => pure ()
  | _ =>
    match o.props.find? k with
    | some p => modifyProps r (·.insert k { p with slot := .data v true })
    | none => pure ()

/-- Sets a property on the receiver of an assignment that found no setter:
whether it was allowed. -/
def setOnReceiver (cb : Callbacks) (r : Nat) (k : Key) (v : Value) : Eval Bool := do
  match ← getOwn cb r k with
  | some p =>
    match p.slot with
    | .accessor .. => return false
    | .data _ w =>
      if !w then return false
      let o ← getObj r
      match o.kind with
      | .proxy .. => defineOwn cb r k (Descriptor.valueOnly v)
      | _ => writeOwnData r k v; return true
  | none => createData cb r k v

/-- Assigns a property of an object with a receiver: whether it was allowed. -/
def setFrom (cb : Callbacks) (fuel : Nat) (r : Nat) (k : Key) (v : Value) (recv : Value) : Eval Bool := do
  match fuel with
  | 0 => return false
  | n + 1 =>
    let o ← getObj r
    match o.kind with
    | .proxy target handler revoked _ _ =>
      if revoked then revokedError "set"
      match ← trapOf cb handler "set" chainLimit with
      | none => setFrom cb n target k v recv
      | some t => return (← cb.call t (.obj handler) [.obj target, keyValue k, v, recv]).truthy
    | _ =>
      match ← ownPropertyOf o k with
      | some p =>
        match p.slot with
        | .data _ w =>
          if !w then return false
          match recv with
          | .obj rr =>
            if rr == r then writeOwnData r k v; return true
            setOnReceiver cb rr k v
          | _ => return false
        | .accessor _ s =>
          if s.isUndefined then return false
          let _ ← cb.call s recv [v]
          return true
      | none =>
        match o.proto with
        | some p => setFrom cb n p k v recv
        | none =>
          match recv with
          | .obj rr =>
            if rr == r then
              match o.kind with
              | .array items =>
                match k.index? with
                | some i =>
                  if o.extensible && i < items.size + denseLimit then
                    modifyItems r fun items =>
                      let items := if i < items.size then items else resizeItems items (i + 1)
                      items.set! i (some v)
                    return true
                  createData cb rr k v
                | none => createData cb rr k v
              | .ordinary | .func _ | .error =>
                if !o.extensible then return false
                modifyProps r (·.insert k (Property.plain v))
                return true
              | _ => createData cb rr k v
            else setOnReceiver cb rr k v
          | _ => return false

/-- Assigns a property of an object: whether it was allowed. -/
def set (cb : Callbacks) (r : Nat) (k : Key) (v : Value) : Eval Bool := setFrom cb chainLimit r k v (.obj r)

/-- Deletes an own property: whether it is gone. -/
def deleteProp (cb : Callbacks) (r : Nat) (k : Key) : Eval Bool := do
  let rec go : Nat → Nat → Eval Bool
    | 0, _ => return false
    | n + 1, r => do
      let o ← getObj r
      match o.kind with
      | .proxy target handler revoked _ _ =>
        if revoked then revokedError "deleteProperty"
        match ← trapOf cb handler "deleteProperty" chainLimit with
        | none => go n target
        | some t => return (← cb.call t (.obj handler) [.obj target, keyValue k]).truthy
      | .array items =>
        match k.index? with
        | some i =>
          if i < items.size then
            modifyItems r (·.set! i none)
          return true
        | none =>
          if k == lengthKey then return false
          plainDelete r o k
      | .slowArray .. => if k == lengthKey then return false else plainDelete r o k
      | .boxed (.str s) =>
        if k == lengthKey then return false
        match k.index? with
        | some i => if i < s.length then return false else plainDelete r o k
        | none => plainDelete r o k
      | .arguments env mapped =>
        let ok ← plainDelete r o k
        if ok then
          match k.index? with
          | some i =>
            if i < mapped.size then
              modifyObj r fun o => { o with kind := .arguments env (mapped.set! i none) }
          | none => pure ()
        return ok
      | _ => plainDelete r o k
  go chainLimit r
where
  plainDelete (r : Nat) (o : Obj) (k : Key) : Eval Bool := do
    match o.props.find? k with
    | some p =>
      if !p.configurable then return false
      modifyProps r (·.erase k)
      return true
    | none => return true

/-! ## Keys -/

/-- Keys in the order objects list them: array indices ascending, then other
strings in the order they were added, then symbols in that order. -/
def orderKeys (ks : List Key) : List Key :=
  let indexed := ks.filterMap fun k => k.index?.map (·, k)
  let sorted := (indexed.mergeSort (fun a b => a.1 ≤ b.1)).map (·.2)
  let strs := ks.filter fun k => k.isStr && k.index?.isNone
  let syms := ks.filter fun k => !k.isStr
  sorted ++ strs ++ syms

/-- The own keys of an object that is not a proxy. -/
def ownKeysOf (o : Obj) : List Key :=
  let propKeys := o.props.order.toList
  match o.kind with
  | .array items =>
    let idx := (List.range items.size).filter fun i => (items[i]?.join).isSome
    idx.map Key.ofIndex ++ [lengthKey] ++ orderKeys propKeys
  | .slowArray .. =>
    let ks := orderKeys propKeys
    let idx := ks.filter fun k => k.index?.isSome
    idx ++ [lengthKey] ++ ks.filter fun k => k.index?.isNone
  | .boxed (.str s) =>
    (List.range s.length).map Key.ofIndex ++ [lengthKey] ++ orderKeys propKeys
  | _ => orderKeys propKeys

/-- The own keys of an object, asking a proxy's handler. -/
def ownKeys (cb : Callbacks) (r : Nat) : Eval (List Key) := do
  let rec go : Nat → Nat → Eval (List Key)
    | 0, _ => return []
    | n + 1, r => do
      let o ← getObj r
      match o.kind with
      | .proxy target handler revoked _ _ =>
        if revoked then revokedError "ownKeys"
        match ← trapOf cb handler "ownKeys" chainLimit with
        | none => go n target
        | some t =>
          let res ← cb.call t (.obj handler) [.obj target]
          match res with
          | .obj rr =>
            let len ← get cb rr lengthKey
            let count := match len with
              | .num x => if x.isNaN || x ≤ 0 then 0 else (Number.toInteger x).toNat
              | _ => 0
            (List.range count).mapM fun i => do
              match ← get cb rr (Key.ofIndex i) with
              | .str s => return Key.str s
              | .sym s => return Key.sym s
              | v => throwType (primitiveText v ++ " is not a valid property name")
          | _ => throwType "CreateListFromArrayLike called on non-object"
      | _ => return ownKeysOf o
  go chainLimit r

/-! ## Prototypes and extensibility -/

/-- The prototype of an object, asking a proxy's handler. -/
def getProto (cb : Callbacks) (r : Nat) : Eval (Option Nat) := do
  let rec go : Nat → Nat → Eval (Option Nat)
    | 0, _ => return none
    | n + 1, r => do
      let o ← getObj r
      match o.kind with
      | .proxy target handler revoked _ _ =>
        if revoked then revokedError "getPrototypeOf"
        match ← trapOf cb handler "getPrototypeOf" chainLimit with
        | none => go n target
        | some t =>
          match ← cb.call t (.obj handler) [.obj target] with
          | .obj p => return some p
          | .null => return none
          | _ => throwType "getPrototypeOf trap returned neither object nor null"
      | _ => return o.proto
  go chainLimit r

/-- Whether an object lies on another's chain of prototypes, the object itself included. -/
def onChain (start target : Nat) : Eval Bool := do
  let rec go : Nat → Option Nat → Eval Bool
    | 0, _ => return false
    | _, none => return false
    | n + 1, some r => do
      if r == target then return true
      let o ← getObj r
      match o.kind with
      | .proxy .. => return false
      | _ => go n o.proto
  go chainLimit (some start)

/-- Sets the prototype of an object: whether it was allowed. -/
def setProto (cb : Callbacks) (r : Nat) (p : Option Nat) : Eval Bool := do
  let rec go : Nat → Nat → Eval Bool
    | 0, _ => return false
    | n + 1, r => do
      let o ← getObj r
      match o.kind with
      | .proxy target handler revoked _ _ =>
        if revoked then revokedError "setPrototypeOf"
        match ← trapOf cb handler "setPrototypeOf" chainLimit with
        | none => go n target
        | some t =>
          let pv := match p with
            | some q => Value.obj q
            | none => .null
          return (← cb.call t (.obj handler) [.obj target, pv]).truthy
      | _ =>
        if o.proto == p then return true
        if !o.extensible then return false
        match p with
        | some q => if ← onChain q r then return false
        | none => pure ()
        setObj r { o with proto := p }
        return true
  go chainLimit r

/-- Whether properties may be added to an object. -/
def isExtensible (cb : Callbacks) (r : Nat) : Eval Bool := do
  let rec go : Nat → Nat → Eval Bool
    | 0, _ => return false
    | n + 1, r => do
      let o ← getObj r
      match o.kind with
      | .proxy target handler revoked _ _ =>
        if revoked then revokedError "isExtensible"
        match ← trapOf cb handler "isExtensible" chainLimit with
        | none => go n target
        | some t => return (← cb.call t (.obj handler) [.obj target]).truthy
      | _ => return o.extensible
  go chainLimit r

/-- Stops properties being added to an object: whether it was allowed. -/
def preventExtensions (cb : Callbacks) (r : Nat) : Eval Bool := do
  let rec go : Nat → Nat → Eval Bool
    | 0, _ => return false
    | n + 1, r => do
      let o ← getObj r
      match o.kind with
      | .proxy target handler revoked _ _ =>
        if revoked then revokedError "preventExtensions"
        match ← trapOf cb handler "preventExtensions" chainLimit with
        | none => go n target
        | some t => return (← cb.call t (.obj handler) [.obj target]).truthy
      | .array _ =>
        toSlowArray r
        modifyObj r fun o => { o with extensible := false }
        return true
      | _ =>
        setObj r { o with extensible := false }
        return true
  go chainLimit r

/-! ## Kinds of values -/

/-- Whether a value can be called. -/
def isCallable (v : Value) : Eval Bool := do
  match v with
  | .obj r => return (← getObj r).callable
  | _ => return false

/-- Whether a value can be called with `new`. -/
def isConstructor (v : Value) : Eval Bool := do
  match v with
  | .obj r => return (← getObj r).isCtor
  | _ => return false

/-- Whether a value is an array, looking through proxies. -/
def isArray (v : Value) : Eval Bool := do
  let rec go : Nat → Value → Eval Bool
    | 0, _ => return false
    | n + 1, v => do
      match v with
      | .obj r =>
        let o ← getObj r
        match o.kind with
        | .array _ | .slowArray .. => return true
        | .proxy target _ revoked _ _ =>
          if revoked then revokedError "IsArray"
          go n (.obj target)
        | _ => return false
      | _ => return false
  go chainLimit v

/-- The `typeof` of a value. -/
def typeOf (v : Value) : Eval String := do
  match v with
  | .undefined => return "undefined"
  | .null => return "object"
  | .bool _ => return "boolean"
  | .num _ => return "number"
  | .big _ => return "bigint"
  | .str _ => return "string"
  | .sym _ => return "symbol"
  | .obj r => return if (← getObj r).callable then "function" else "object"

/-! ## Objects of primitives -/

/-- The prototype a primitive's properties come from. -/
def primitiveProto (v : Value) : Eval (Option Nat) := do
  let i ← intr
  match v with
  | .bool _ => return some i.booleanProto
  | .num _ => return some i.numberProto
  | .big _ => return some i.bigintProto
  | .str _ => return some i.stringProto
  | .sym _ => return some i.symbolProto
  | _ => return none

/-- Converts a value to an object, wrapping primitives; `undefined` and `null` fail. -/
def toObject (v : Value) : Eval Nat := do
  match v with
  | .obj r => return r
  | .undefined | .null => throwType "Cannot convert undefined or null to object"
  | _ => alloc (Obj.ofKind (.boxed v) (← primitiveProto v))

/-- Reads a property of any value: a primitive's come from its prototype,
with the primitive as receiver; `undefined` and `null` have none. -/
def getV (cb : Callbacks) (v : Value) (k : Key) : Eval Value := do
  match v with
  | .obj r => get cb r k
  | .str s =>
    if k == lengthKey then return Value.ofNat s.length
    match k.index? with
    | some i => if i < s.length then return .str (unitString s i) else fromProto
    | none => fromProto
  | .undefined | .null => do throwType ("Cannot read property '" ++ (← keyText k) ++ "' of undefined")
  | _ => fromProto
where
  fromProto : Eval Value := do
    match ← primitiveProto v with
    | some p => getFrom cb chainLimit p k v
    | none => return .undefined

/-- The method of a value under a key: none when missing; not callable fails. -/
def getMethod (cb : Callbacks) (v : Value) (k : Key) : Eval (Option Value) := do
  let f ← getV cb v k
  if f.isNullish then return none
  if ← isCallable f then return some f
  throwType ((← keyText k) ++ " is not a function")

/-! ## Conversions -/

/-- Which primitive a conversion prefers. -/
inductive Hint where
  | string
  | number
  | default
  deriving BEq

/-- The text of a hint, as `Symbol.toPrimitive` receives it. -/
def Hint.text : Hint → String
  | .string => "string"
  | .number => "number"
  | .default => "default"

/-- Converts an object to a primitive by its `valueOf` and `toString`, in the
order the hint asks: `toString` first for strings. -/
def ordinaryToPrimitive (cb : Callbacks) (r : Nat) (hint : Hint) : Eval Value := do
  let order := if hint == .string then ["toString", "valueOf"] else ["valueOf", "toString"]
  let rec tryAll : List String → Eval Value
    | [] => throwType "Cannot convert object to primitive value"
    | m :: rest => do
      let f ← get cb r (keyOf m)
      if ← isCallable f then
        let res ← cb.call f (.obj r) []
        if !res.isObject then return res
      tryAll rest
  tryAll order

/-- Converts a value to a primitive: `Symbol.toPrimitive` if the object has
it, else `valueOf` and `toString` in the order the hint asks. -/
def toPrimitive (cb : Callbacks) (v : Value) (hint : Hint) : Eval Value := do
  match v with
  | .obj r =>
    match ← getMethod cb v (symKey WellKnown.toPrimitive) with
    | some f =>
      let res ← cb.call f v [Value.ofString hint.text]
      if res.isObject then throwType "Cannot convert object to primitive value"
      return res
    | none => ordinaryToPrimitive cb r hint
  | _ => return v

/-- The number of a primitive. -/
def primitiveNumber (v : Value) : Eval Float := do
  match v with
  | .undefined => return Number.nan
  | .null => return 0
  | .bool b => return if b then 1 else 0
  | .num x => return x
  | .big _ => throwType "Cannot convert a BigInt value to a number"
  | .str s => return Number.ofString s.text
  | .sym _ => throwType "Cannot convert a Symbol value to a number"
  | .obj _ => return Number.nan

/-- Converts a value to a number. -/
def toNumber (cb : Callbacks) (v : Value) : Eval Float := do
  match v with
  | .num x => return x
  | .obj _ => primitiveNumber (← toPrimitive cb v .number)
  | _ => primitiveNumber v

/-- Converts a value to a numeric value: a big integer stays one, anything
else becomes a number. -/
def toNumeric (cb : Callbacks) (v : Value) : Eval Value := do
  match v with
  | .num _ | .big _ => return v
  | .obj _ =>
    match ← toPrimitive cb v .number with
    | .big n => return .big n
    | p => return .num (← primitiveNumber p)
  | _ => return .num (← primitiveNumber v)

/-- The string of a primitive. -/
def primitiveStr (v : Value) : Eval Str := do
  match v with
  | .str s => return s
  | .sym _ => throwType "Cannot convert a Symbol value to a string"
  | _ => return Str.ofString (primitiveText v)

/-- Converts a value to a string. -/
def toStr (cb : Callbacks) (v : Value) : Eval Str := do
  match v with
  | .str s => return s
  | .obj _ => primitiveStr (← toPrimitive cb v .string)
  | _ => primitiveStr v

/-- Converts a value to text, a lone surrogate becoming U+FFFD. -/
def toText (cb : Callbacks) (v : Value) : Eval String := return (← toStr cb v).lossy

/-- Converts a value to a property key. -/
def toPropertyKey (cb : Callbacks) (v : Value) : Eval Key := do
  match v with
  | .str s => return .str s
  | .sym i => return .sym i
  | .num x => return .str (Str.ofString (Number.text x))
  | .obj _ =>
    match ← toPrimitive cb v .string with
    | .sym i => return .sym i
    | p => return .str (← primitiveStr p)
  | _ => return .str (← primitiveStr v)

/-- Converts a value to a whole number, truncating; NaN is 0 and infinities stay. -/
def toIntegerOrInf (cb : Callbacks) (v : Value) : Eval Float := do
  let x ← toNumber cb v
  if x.isNaN then return 0
  if x.isInf then return x
  let t := if x < 0 then -((-x).floor) else x.floor
  return if t == 0 then 0 else t

/-- Converts a value to a length: a whole number from 0 to 2^53 - 1. -/
def toLength (cb : Callbacks) (v : Value) : Eval Nat := do
  let x ← toIntegerOrInf cb v
  if x ≤ 0 then return 0
  if x ≥ 9007199254740991 then return 9007199254740991
  return x.toUInt64.toNat

/-- Converts a value to a signed 32-bit integer. -/
def toInt32 (cb : Callbacks) (v : Value) : Eval Int := return Number.toInt32 (← toNumber cb v)

/-- Converts a value to an unsigned 32-bit integer. -/
def toUint32 (cb : Callbacks) (v : Value) : Eval Nat := return Number.toUint32 (← toNumber cb v)

/-- A relative index clamped to a length: negative counts from the end. -/
def relativeIndex (x : Float) (len : Nat) : Nat :=
  if x < 0 then
    let r := Float.ofNat len + x
    if r ≤ 0 then 0 else r.toUInt64.toNat
  else if x ≥ Float.ofNat len then len else x.toUInt64.toNat

/-- Converts a value to a callable function, with the errors of builtins that take callbacks. -/
def toCallable (cb : Callbacks) (v : Value) : Eval Value := do
  match v with
  | .obj r =>
    if (← getObj r).callable then return v
    throwType ("Value is not callable: " ++ (← toText cb v))
  | _ => throwType ("Value is not an object: " ++ (← toText cb v))

/-- The length of an array-like object. -/
def lengthOf (cb : Callbacks) (r : Nat) : Eval Nat := do
  let o ← getObj r
  match o.kind with
  | .array items => return items.size
  | .slowArray len _ => return len
  | _ => toLength cb (← get cb r lengthKey)

/-! ## Equality and comparison -/

/-- Whether two values are equal by `==`. -/
def looseEq (cb : Callbacks) (a b : Value) : Eval Bool := do
  let rec go : Nat → Value → Value → Eval Bool
    | 0, _, _ => return false
    | n + 1, a, b => do
      match a, b with
      | .undefined, .undefined | .null, .null | .undefined, .null | .null, .undefined => return true
      | .num x, .num y => return x == y
      | .str x, .str y => return x == y
      | .bool x, .bool y => return x == y
      | .sym x, .sym y => return x == y
      | .obj x, .obj y => return x == y
      | .num x, .str s => return x == Number.ofString s.text
      | .str s, .num y => return Number.ofString s.text == y
      | .big x, .big y => return x == y
      | .big x, .num y | .num y, .big x => return Big.compareFloat x y == some .eq
      | .big x, .str s | .str s, .big x => return Big.ofText s.text == some x
      | .bool x, _ => go n (.num (if x then 1 else 0)) b
      | _, .bool y => go n a (.num (if y then 1 else 0))
      | .obj _, .num _ | .obj _, .str _ | .obj _, .sym _ | .obj _, .big _ =>
        go n (← toPrimitive cb a .default) b
      | .num _, .obj _ | .str _, .obj _ | .sym _, .obj _ | .big _, .obj _ =>
        go n a (← toPrimitive cb b .default)
      | _, _ => return false
  go 8 a b

/-- Whether one string comes before another by their code points, a lone
surrogate counting as U+FFFD. -/
def strLess (a b : Str) : Bool := Str.compare a b == .lt

/-- `a < b`, none when either is NaN; `leftFirst` says which is converted first. -/
def lessThan (cb : Callbacks) (a b : Value) (leftFirst : Bool) : Eval (Option Bool) := do
  let (pa, pb) ← if leftFirst then do
      let x ← toPrimitive cb a .number
      let y ← toPrimitive cb b .number
      pure (x, y)
    else do
      let y ← toPrimitive cb b .number
      let x ← toPrimitive cb a .number
      pure (x, y)
  match pa, pb with
  | .str x, .str y => return some (strLess x y)
  | .big x, .big y => return some (x < y)
  | .big x, .str s => return (Big.ofText s.text).map fun y => x < y
  | .str s, .big y => return (Big.ofText s.text).map fun x => x < y
  | .big x, _ => return (Big.compareFloat x (← primitiveNumber pb)).map (· == .lt)
  | _, .big y => return (Big.compareFloat y (← primitiveNumber pa)).map (· == .gt)
  | _, _ =>
    let x ← primitiveNumber pa
    let y ← primitiveNumber pb
    if x.isNaN || y.isNaN then return none
    return some (x < y)

/-! ## Iterators -/

/-- Reads an iterator's result: whether it is done, and its value. -/
def iterResult (cb : Callbacks) (res : Value) : Eval (Bool × Value) := do
  match res with
  | .obj r =>
    let done := (← get cb r (keyOf "done")).truthy
    if done then return (true, .undefined)
    return (false, ← get cb r (keyOf "value"))
  | _ => throwType ("Iterator result " ++ (← toText cb res) ++ " is not an object")

/-- Gets the iterator of a value from its `Symbol.iterator` method. -/
def getIterator (cb : Callbacks) (v : Value) : Eval IterRecord := do
  let m ← match v with
    | .undefined | .null => pure none
    | _ => getMethod cb v (symKey WellKnown.iterator)
  match m with
  | none => throwType "object is not iterable"
  | some f =>
    let it ← cb.call f v []
    if !it.isObject then throwType ("Result of the Symbol.iterator method is not an object")
    let next ← getV cb it (keyOf "next")
    return ⟨it, next, false⟩

/-- Steps an iterator: the next value, or none when it is done. -/
def iterStep (cb : Callbacks) (it : IterRecord) : Eval (Option Value) := do
  if !(← isCallable it.next) then throwType "Value is not an object: undefined"
  let res ← cb.call it.next it.iter []
  match ← iterResult cb res with
  | (true, _) => return none
  | (false, v) => return some v

/-- Closes an iterator that is left before its end, calling its `return`. -/
def iterClose (cb : Callbacks) (it : IterRecord) : Eval Unit := do
  match ← getMethod cb it.iter (keyOf "return") with
  | some f =>
    let res ← cb.call f it.iter []
    if !res.isObject then throwType ("Iterator result " ++ (← toText cb res) ++ " is not an object")
  | none => pure ()

/-- Every value an iterable gives, in order; at most `limit` of them. -/
def iterateToList (cb : Callbacks) (v : Value) : Eval (Array Value) := do
  let it ← getIterator cb v
  let rec go : Nat → Array Value → Eval (Array Value)
    | 0, acc => return acc
    | n + 1, acc => do
      match ← iterStep cb it with
      | some x => go n (acc.push x)
      | none => return acc
  go 100000000 #[]

/-- A result object of an iterator. -/
def iterResultObject (v : Value) (done : Bool) : Eval Value :=
  newObject [("value", v), ("done", .bool done)]

end Script

end Userland
