import Userland.Script.Dynamic

namespace Userland

/-! # One step of the machine

`step` takes what the machine does now and the innermost frame and gives the
next machine, or the end of the activation.

* Evaluating an expression either gives its value at once (a literal, a
  name, a function) or pushes a frame and evaluates a part.
* A value given to a frame goes on with what the frame waits for: the other
  operand, the next argument, the property, the place to store into.
* A statement ends with a completion; `break` and `continue` end loops whose
  labels they name, `try` runs its `finally` before passing a completion on,
  and a `return` leaves the function.
* A thrown value unwinds frames: `try` takes it, `finally` runs, `for...of`
  and array patterns close their iterators, and blocks put the scope back.
  An error thrown while a step runs is thrown into the machine the same way.
* `yield` and `await` end the step with the machine as it stands, to be taken
  up again with a value, a thrown value or a `return`.
-/

namespace Script

open Eval

namespace Exec

/-- The name a simple pattern binds, which an anonymous function bound to it takes. -/
def patternName : Pattern → Option Str
  | .name n _ => some (Str.ofString n)
  | _ => none

/-- Evaluating an expression that takes a name when it is an anonymous function. -/
def namedOrEval (e : Expr) (name : Option Str) : Control :=
  match name with
  | some n => .named e n
  | none => .eval e

/-- The test of a case of a `switch`. -/
def caseTest : Case → Option Expr
  | .mk t _ => t

/-- The statements of the cases of a `switch` from one on. -/
def casesFrom (cases : List Case) (i : Nat) : List Stmt := caseStatements (cases.drop i)

/-- A function expression's value: a named function expression sees its own
name in a scope of its own; an anonymous one takes the name it is given. -/
def functionValue (m : Machine) (f : Func) (inferred : Option Str) : Eval Value := do
  match f.name, f.info.kind with
  | some n, .plain =>
    let sc ← newScope ⟨#[], some m.scope, .block⟩
    let fn ← makeClosure f sc m.strict none (Str.ofString n) none
    declareIn sc n fn .fnName true
    return fn
  | some n, _ => makeClosure f m.scope m.strict none (Str.ofString n) none
  | none, _ => makeClosure f m.scope m.strict none (inferred.getD Str.empty) none

/-- The keys a `for...in` loop visits: the enumerable string keys of the
object and its prototypes, each once, a key hidden by a nearer object's
property not visited. -/
def forInKeys (cb : Callbacks) (r : Nat) : Eval (List Key) := do
  let rec go : Nat → Option Nat → Array Key → Array Key → Eval (Array Key)
    | 0, _, _, out => return out
    | _, none, _, out => return out
    | n + 1, some o, seen, out => do
      let mut seen := seen
      let mut out := out
      for k in ← ownKeys cb o do
        if k.isStr && !seen.contains k then
          seen := seen.push k
          match ← getOwn cb o k with
          | some p => if p.enumerable then out := out.push k
          | none => pure ()
      go n (← getProto cb o) seen out
  return (← go chainLimit (some r) #[] #[]).toList

/-- Every value an iterator has left. -/
def drain (cb : Callbacks) (it : IterRecord) : Eval (Array Value) := do
  let rec go : Nat → Array Value → Eval (Array Value)
    | 0, acc => return acc
    | n + 1, acc => do
      match ← iterStep cb it with
      | some x => go n (acc.push x)
      | none => return acc
  go 100000000 #[]

/-- Closes an iterator because of a thrown value, ignoring what closing throws. -/
def closeQuietly (cb : Callbacks) (it : IterRecord) : Eval Unit := do
  tryCatch (iterClose cb it) fun s =>
    match s with
    | .thrown _ => pure ()
    | _ => throw s

/-- Opens a block's scope if it declares anything and runs its statements. -/
def blockStart (m : Machine) (body : List Stmt) : Eval Step := do
  let sc ← enterBlock m.scope body m.strict
  if sc == m.scope then return m.goTo (.execList body)
  return .next { m with scope := sc, control := .execList body, frames := .restore m.scope :: m.frames }

/-- Runs a `finally` block holding back what it interrupted, or goes on with that when there is none. -/
def finallyStart (m : Machine) (fin : Option (List Stmt)) (pending : Pending) (sc : Nat) : Eval Step := do
  match fin with
  | some f => blockStart { m with frames := .finallyBlock pending sc m.result :: m.frames } f
  | none =>
    match pending with
    | .finish c => return m.finishC c
    | .raise v => return m.goTo (.raise v)

/-- Starts a `catch` block with the thrown value. -/
def catchStart (m : Machine) (param : Option Pattern) (handler : List Stmt) (v : Value) : Eval Step := do
  match param with
  | none => blockStart m handler
  | some p =>
    let cs ← newScope ⟨#[], some m.scope, .block⟩
    for (n, _) in p.names do declareIn cs n .undefined .mutable false
    return .next { m with scope := cs, control := .bind p v .init, frames := .catchBound handler :: m.frames }

/-- Binds the target of a `for...in` or `for...of` turn: in a scope of the
turn's own when the loop declares it with `let` or `const`. -/
def bindTarget (m : Machine) (kind : Option DeclKind) (target : Pattern) (v : Value) (outer : Nat)
    (frame : Frame) : Eval Step := do
  match kind with
  | some .blockScoped | some .const =>
    let sc ← newScope ⟨#[], some outer, .block⟩
    let mode := if kind == some .const then BindingMode.const else .mutable
    for (n, _) in target.names do declareIn sc n .undefined mode false
    return .next { m with scope := sc, control := .bind target v .init, frames := frame :: m.frames }
  | _ => return .next { m with scope := outer, control := .bind target v .assign, frames := frame :: m.frames }

/-- The next turn of a `for...in` loop: the next key still present. -/
def forInNext (m : Machine) (cb : Callbacks) (obj : Value) (kind : Option DeclKind) (target : Pattern)
    (body : Stmt) (outer : Nat) (labels : List String) : List Key → Eval Step
  | [] => return .next { m with scope := outer, control := .finish .normal }
  | k :: rest => do
    let present ← match obj with
      | .obj r => has cb r k
      | _ => pure false
    if !present then forInNext m cb obj kind target body outer labels rest
    else
      bindTarget m kind target (keyValue k) outer (.loopBind (.forIn rest obj kind target body outer) labels)

/-- The next turn of a `for...of` loop: the iterator's next value. -/
def forOfNext (m : Machine) (cb : Callbacks) (it : IterRecord) (kind : Option DeclKind) (target : Pattern)
    (body : Stmt) (outer : Nat) (labels : List String) : Eval Step := do
  match ← iterStep cb it with
  | none => return .next { m with scope := outer, control := .finish .normal }
  | some x => bindTarget m kind target x outer (.loopBind (.forOf it kind target body outer) labels)

/-- Starts a turn of a loop: its test, or its body when it has none. -/
def loopTurn (m : Machine) (cb : Callbacks) (l : Loop) (labels : List String) : Eval Step := do
  match l with
  | .whileLoop t _ => return m.push (.loopTest l labels) t
  | .doWhile b _ => return m.pushDo (.loopBody l labels) (.exec b)
  | .forLoop test _ body _ =>
    match test with
    | some t => return m.push (.loopTest l labels) t
    | none => return m.pushDo (.loopBody l labels) (.exec body)
  | .forIn keys obj kind target body outer => forInNext m cb obj kind target body outer labels keys
  | .forOf it kind target body outer => forOfNext m cb it kind target body outer labels

/-- Goes on with a loop after its body ran to its end or met a `continue`. -/
def loopContinue (m : Machine) (cb : Callbacks) (l : Loop) (labels : List String) : Eval Step := do
  match l with
  | .whileLoop t _ => return m.push (.loopTest l labels) t
  | .doWhile _ t => return m.push (.loopTest l labels) t
  | .forLoop _ update _ perTurn =>
    let m ← if perTurn.isEmpty then pure m else do pure { m with scope := ← copyScope m.scope }
    match update with
    | some u => return m.push (.loopUpdate l labels) u
    | none => loopTurn m cb l labels
  | .forIn _ _ _ _ _ outer | .forOf _ _ _ _ outer => loopTurn { m with scope := outer } cb l labels

/-- What a loop does with its body's completion. -/
def loopAfterBody (m : Machine) (cb : Callbacks) (l : Loop) (labels : List String) (c : Completion) :
    Eval Step := do
  let isContinue := match c with
    | .normal => true
    | .continueTo none => true
    | .continueTo (some lb) => labels.contains lb
    | _ => false
  let isBreak := match c with
    | .breakTo none => true
    | .breakTo (some lb) => labels.contains lb
    | _ => false
  if isContinue then loopContinue m cb l labels
  else
    let m := match l with
      | .forIn _ _ _ _ _ outer | .forOf _ _ _ _ outer => { m with scope := outer }
      | _ => m
    match l with
    | .forOf it .. => iterClose cb it
    | _ => pure ()
    if isBreak then return m.finishC .normal else return m.finishC c

/-- Looks for the case of a `switch` whose test equals the value, from a place on. -/
def caseSearch (m : Machine) (disc : Value) (cases : List Case) : List Case → Nat → Eval Step
  | [], _ =>
    match cases.findIdx? (fun c => (caseTest c).isNone) with
    | some d => return m.goTo (.execList (casesFrom cases d))
    | none => return m.finishC .normal
  | c :: rest, i =>
    match caseTest c with
    | some t => return m.push (.caseTest disc i cases) t
    | none => caseSearch m disc cases rest (i + 1)

/-! ## Literals -/

/-- Goes on with an array literal's items. -/
def arrayItems (m : Machine) (acc : Array (Option Value)) : List (Option Arg) → Eval Step
  | [] => do return m.giveV (.obj (← alloc (Obj.ofKind (.array acc) (some (← intr).arrayProto))))
  | none :: rest => arrayItems m (acc.push none) rest
  | some (.plain e _) :: rest => return m.push (.array acc false rest) e
  | some (.spread e _) :: rest => return m.push (.array acc true rest) e

/-- Defines a method of an object literal. -/
def defineObjectMethod (cb : Callbacks) (m : Machine) (o : Nat) (k : Key) (kind : MethodKind) (f : Func) :
    Eval Unit := do
  let name ← functionNameOf k (methodPrefix kind)
  let fn ← makeClosure f m.scope m.strict (some o) name none
  defineMethod cb o k kind fn true

/-- Goes on with an object literal's members. -/
def objectMembers (m : Machine) (cb : Callbacks) (o : Nat) : List Member → Eval Step
  | [] => return m.giveV (.obj o)
  | mem :: rest => do
    match mem with
    | .field (.name s) value _ =>
      if s.text == "__proto__" then return m.push (.objectProto o rest) value
      else return m.pushDo (.objectValue o (.str s) rest) (.named value s)
    | .field (.computed ke) _ _ => return m.push (.objectKey o mem rest) ke
    | .short name _ _ _ =>
      let v ← readName cb m.scope name
      let _ ← createData cb o (keyOf name) v
      objectMembers m cb o rest
    | .method (.name s) kind f =>
      defineObjectMethod cb m o (.str s) kind f
      objectMembers m cb o rest
    | .method (.computed ke) _ _ => return m.push (.objectKey o mem rest) ke
    | .spread e _ => return m.push (.objectSpread o rest) e

/-! ## Calls -/

/-- Goes on with a call's arguments. -/
def argsNext (ops : Ops) (m : Machine) (c : Callee) (done : Array Value) : List Arg → Eval Step
  | [] => do
    let cb := ops.cb
    let args := done.toList
    match c with
    | .call f t =>
      checkCallable cb f
      return m.giveV (← ops.call f t args)
    | .construct f =>
      checkConstructor cb f
      return m.giveV (← ops.construct f args f)
    | .missing name => throwType ("Object has no member '" ++ name ++ "'")
    | .unresolved name => throwReference (name ++ " is not defined")
    | .direct => return m.giveV (← Dynamic.direct ops m.scope m.strict args)
    | .superCall =>
      match ← callScope m.scope with
      | some (i, cc) =>
        let parent ← match cc.func with
          | .obj fr => getProto cb fr
          | _ => pure none
        let pv := match parent with
          | some p => Value.obj p
          | none => .null
        if !(← isConstructor pv) then
          throwType ("Super constructor " ++ (← toText cb pv) ++ " of anonymous class is not a constructor")
        let res ← ops.construct pv args cc.newTarget
        bindThis i res
        ops.initFields cc.func res
        return m.giveV res
      | none => throwSyntax "'super' keyword unexpected here"
  | .plain e _ :: rest => return m.push (.args c done false rest) e
  | .spread e _ :: rest => return m.push (.args c done true rest) e

/-! ## Places -/

/-- Does with a place what an expression asks. -/
def useRef (ops : Ops) (m : Machine) (r : Ref) (use : RefUse) : Eval Step := do
  let cb := ops.cb
  match use with
  | .get => return m.giveV (← getRef cb m r)
  | .assign value name => return m.pushDo (.put r) (namedOrEval value name)
  | .compound op value =>
    let old ← getRef cb m r
    return m.push (.compound op r old) value
  | .logical op value name =>
    let cur ← getRef cb m r
    let short := match op with
      | .and => !cur.truthy
      | .or => cur.truthy
      | .coalesce => !cur.isNullish
    if short then return m.giveV cur
    return m.pushDo (.put r) (namedOrEval value name)
  | .update inc before =>
    let old ← getRef cb m r
    match ← toNumeric cb old with
    | .big n =>
      let nv := if inc then n + 1 else n - 1
      putRef cb m r (.big nv)
      return m.giveV (.big (if before then nv else n))
    | x =>
      let n := match x with | .num f => f | _ => 0
      let nv := if inc then n + 1 else n - 1
      putRef cb m r (.num nv)
      return m.giveV (.num (if before then nv else n))
  | .call args opt =>
    let c ← methodCallee cb m r
    if opt then
      match c with
      | .call f _ => if f.isNullish then return m.goTo .shortCircuit
      | .missing _ => return m.goTo .shortCircuit
      | _ => pure ()
    argsNext ops m c #[] args
  | .tagged t subs =>
    let c ← methodCallee cb m r
    let tobj ← templateObject t
    argsNext ops m c #[tobj] (subs.map fun e => Arg.plain e 0)
  | .delete =>
    match r with
    | .prop base k =>
      if base.isNullish then throwType "Cannot convert undefined or null to object"
      let o ← toObject base
      let ok ← deleteProp cb o k
      if !ok && m.strict then
        throwType ("Cannot delete property '" ++ (← keyText k) ++ "' of " ++ (← toText cb base))
      return m.giveV (.bool ok)
    | .superProp .. => throwReference "Unsupported reference to 'super'"
    | _ => return m.giveV (.bool true)
  | .put v =>
    putRef cb m r v
    return m.giveV v

/-- Finds the place an assignment, update or delete names, then does what it asks. -/
def refStart (ops : Ops) (m : Machine) (target : Expr) (use : RefUse) : Eval Step := do
  match target with
  | .ident name _ => useRef ops m (.name name) use
  | .member obj name opt => return m.push (.base (.named name) opt use) obj
  | .index obj key opt => return m.push (.base (.indexed key) opt use) obj
  | .privateMember obj name opt => return m.push (.base (.priv name) opt use) obj
  | .superMember name => useRef ops m (.superProp (← thisOf m.scope) (keyOf name)) use
  | .superIndex key => return m.push (.superKey use) key
  | .chain inner => refStart ops { m with frames := .chain :: m.frames } inner use
  | _ => throwReference "Invalid left-hand side in assignment"

/-- `delete` of an expression. -/
def deleteStart (ops : Ops) (m : Machine) (target : Expr) : Eval Step := do
  let cb := ops.cb
  match target with
  | .member .. | .index .. | .superMember .. | .superIndex .. | .chain .. => refStart ops m target .delete
  | .ident name _ =>
    match ← resolve cb m.scope name with
    | .binding .. => return m.giveV (.bool false)
    | .withProp o => return m.giveV (.bool (← deleteProp cb o (keyOf name)))
    | .globalProp => return m.giveV (.bool (← deleteProp cb (← intr).globalObject (keyOf name)))
    | .missing => return m.giveV (.bool true)
  | _ => return m.push (.unary .delete) target

/-! ## Patterns -/

/-- Goes on with an array pattern's items. -/
def arrayPatternNext (m : Machine) (cb : Callbacks) (it : IterRecord) (rest : Option Pattern) (mode : BindMode) :
    List (Option (Pattern × Option Expr)) → Eval Step
  | [] => do
    match rest with
    | none =>
      if !it.done then iterClose cb it
      return m.giveV .undefined
    | some rp =>
      let vals ← if it.done then pure #[] else drain cb it
      let arr ← newArray vals
      return m.goTo (.bind rp arr mode)
  | none :: more => do
    let it ← if it.done then pure it else do
      match ← iterStep cb it with
      | some _ => pure it
      | none => pure { it with done := true }
    arrayPatternNext m cb it rest mode more
  | some (p, dflt) :: more => do
    let (v, it) ← if it.done then pure (Value.undefined, it) else do
      match ← iterStep cb it with
      | some x => pure (x, it)
      | none => pure (Value.undefined, { it with done := true })
    let m := { m with frames := .arrayPattern it more rest mode :: m.frames }
    match v, dflt with
    | .undefined, some d => return m.pushDo (.bindDefault p mode) (namedOrEval d (patternName p))
    | _, _ => return m.goTo (.bind p v mode)

/-- Binds one property of an object pattern. -/
def objectPatternProp (m : Machine) (cb : Callbacks) (src : Value) (used : Array Key) (k : Key) (p : Pattern)
    (dflt : Option Expr) (more : List (PropKey × Pattern × Option Expr)) (rest : Option Pattern)
    (mode : BindMode) : Eval Step := do
  let v ← getV cb src k
  let m := { m with frames := .objectPattern src (used.push k) more rest mode :: m.frames }
  match v, dflt with
  | .undefined, some d => return m.pushDo (.bindDefault p mode) (namedOrEval d (patternName p))
  | _, _ => return m.goTo (.bind p v mode)

/-- Goes on with an object pattern's properties. -/
def objectPatternNext (m : Machine) (cb : Callbacks) (src : Value) (used : Array Key)
    (props : List (PropKey × Pattern × Option Expr)) (rest : Option Pattern) (mode : BindMode) : Eval Step := do
  match props with
  | [] =>
    match rest with
    | none => return m.giveV .undefined
    | some rp =>
      let o ← alloc (Obj.ordinary (some (← intr).objectProto))
      copyDataProperties cb o src used
      return m.goTo (.bind rp (.obj o) mode)
  | (key, p, dflt) :: more =>
    match key with
    | .name s => objectPatternProp m cb src used (.str s) p dflt more rest mode
    | .computed e => return m.push (.patternKey src used p dflt more rest mode) e

/-- Puts a value into a pattern. -/
def bindStep (ops : Ops) (m : Machine) (p : Pattern) (v : Value) (mode : BindMode) : Eval Step := do
  let cb := ops.cb
  match p with
  | .name n _ =>
    match mode with
    | .init => initName m.scope n v
    | .assign => assignName cb m.scope n v m.strict
    return m.giveV .undefined
  | .target e _ => refStart ops m e (.put v)
  | .array items rest =>
    let it ← getIterator cb v
    arrayPatternNext m cb it rest mode items
  | .object props rest =>
    if v.isNullish then
      throwType ("Cannot destructure '" ++ primitiveText v ++ "' as it is " ++ primitiveText v ++ ".")
    objectPatternNext m cb v #[] props rest mode

/-- Goes on binding a function's parameters. -/
def paramsNext (m : Machine) (items : List (Pattern × Option Expr)) (rest : Option Pattern) (args : List Value) :
    Eval Step := do
  match items with
  | [] =>
    match rest with
    | some rp => return m.goTo (.bind rp (← newArray args.toArray) .init)
    | none => return m.giveV .undefined
  | (p, dflt) :: more =>
    let a := args.headD .undefined
    let m := { m with frames := .params more rest args.tail :: m.frames }
    match a, dflt with
    | .undefined, some d => return m.pushDo (.bindDefault p .init) (namedOrEval d (patternName p))
    | _, _ => return m.goTo (.bind p a .init)

/-! ## Classes -/

/-- Runs an initializer expression of a class as a function of its own, with
`this`, the home object and the function it belongs to. -/
def runInit (ops : Ops) (parent : Nat) (thisV : Value) (home : Nat) (func : Value) (e : Expr) (name : Str) :
    Eval Value := do
  let sc ← newScope ⟨#[], some parent, .function ⟨some thisV, func, .undefined, some home⟩⟩
  match ← ops.run ⟨.named e name, [.returnValue], sc, true, .undefined⟩ with
  | .returned v => return v
  | .threw v => throwValue v
  | _ => return .undefined

/-- Defines a field on an object: a property, or a private element of the class's brand. -/
def defineField (cb : Callbacks) (brand : Nat) (target : Value) (k : FieldKey) (v : Value) : Eval Unit := do
  match target with
  | .obj r =>
    match k with
    | .key key =>
      let ok ← defineOwn cb r key (Descriptor.plain v)
      if !ok then throwType ("Cannot redefine property: " ++ (← keyText key))
    | .priv n => addPrivElem r ⟨brand, n, .data v true⟩
  | _ => pure ()

/-- Puts a class's private methods and fields on a new instance. -/
def initFieldsWith (ops : Ops) (ctor thisV : Value) : Eval Unit := do
  match ctor, thisV with
  | .obj fr, .obj tr =>
    match (← getObj fr).kind with
    | .func (.closure c) =>
      match c.cls with
      | some d =>
        installPrivMethods d.scope tr d.privMethods
        for fd in d.fields do
          let v ← match fd.init with
            | some e => runInit ops d.scope thisV d.home ctor e (← fieldName fd.key)
            | none => pure .undefined
          defineField ops.cb d.scope thisV fd.key v
      | none => pure ()
    | _ => pure ()
  | _, _ => pure ()

/-- Adds a member of a class being made, with its key when computed. -/
def classMember (cb : Callbacks) (b : ClassBuild) (mem : ClassMember) (computed : Option Key) :
    Eval ClassBuild := do
  let keyOfProp (pk : PropKey) : Key := match pk with
    | .name s => .str s
    | .computed _ => computed.getD (.str Str.empty)
  match mem with
  | .method static key kind f =>
    let target := if static then b.ctor else b.proto
    match key with
    | .priv n =>
      let pre := methodPrefix kind
      let fname := Str.ofString ((if pre.isEmpty then "" else pre ++ " ") ++ "#" ++ n)
      let fn ← makeClosure f b.scope true (some target) fname none
      if static then return { b with staticPriv := b.staticPriv.push ⟨n, kind, fn⟩ }
      return { b with privMethods := b.privMethods.push ⟨n, kind, fn⟩ }
    | .prop pk =>
      let k := keyOfProp pk
      let fname ← functionNameOf k (methodPrefix kind)
      let fn ← makeClosure f b.scope true (some target) fname none
      defineMethod cb target k kind fn false
      return b
  | .field static key init =>
    let fk := match key with
      | .priv n => FieldKey.priv n
      | .prop pk => .key (keyOfProp pk)
    let fd : FieldDef := ⟨fk, init⟩
    if static then return { b with statics := b.statics.push (.field fd) }
    return { b with fields := b.fields.push fd }
  | .block body vars => return { b with statics := b.statics.push (.block body vars) }

/-- Ends making a class: keeps its fields on the constructor, binds the
class's own name, and runs its static fields and blocks in order. -/
def classFinish (ops : Ops) (m : Machine) (b : ClassBuild) : Eval Step := do
  let cb := ops.cb
  modifyObj b.ctor fun o =>
    match o.kind with
    | .func (.closure c) =>
      { o with kind := .func (.closure { c with cls := c.cls.map fun d =>
        { d with fields := b.fields, privMethods := b.privMethods } }) }
    | _ => o
  installPrivMethods b.scope b.ctor b.staticPriv
  modifyScope b.scope fun s => { s with vars := s.vars.map fun v => { v with value := .obj b.ctor, ready := true } }
  let fv := Value.obj b.ctor
  for si in b.statics do
    match si with
    | .field fd =>
      let v ← match fd.init with
        | some e => runInit ops b.scope fv b.ctor fv e (← fieldName fd.key)
        | none => pure .undefined
      defineField cb b.scope fv fd.key v
    | .block body vars =>
      let sc ← newScope ⟨#[], some b.scope, .function ⟨some fv, fv, .undefined, some b.ctor⟩⟩
      for v in vars do declareNew sc v .undefined
      let bsc ← enterBlock sc body true
      match ← ops.run ⟨.execList body, [], bsc, true, .undefined⟩ with
      | .threw v => throwValue v
      | _ => pure ()
  return m.giveV fv

/-- Goes on with a class's members. -/
def classMembers (ops : Ops) (m : Machine) (b : ClassBuild) : List ClassMember → Eval Step
  | [] => classFinish ops m b
  | mem :: rest => do
    match mem with
    | .method _ (.prop (.computed e)) _ _ => return m.push (.classKey b mem rest) e
    | .field _ (.prop (.computed e)) _ => return m.push (.classKey b mem rest) e
    | _ =>
      let b ← classMember ops.cb b mem none
      classMembers ops m b rest

/-- Makes a class's constructor and prototype once what it extends is known. -/
def classSetup (ops : Ops) (m : Machine) (c : Class) (name : Str) (outer : Nat) (heritage : Option Value) :
    Eval Step := do
  let cb := ops.cb
  let i ← intr
  let (protoParent, ctorParent) ← match heritage with
    | none => pure (some i.objectProto, i.functionProto)
    | some .null => pure (none, i.functionProto)
    | some h => do
      if !(← isConstructor h) then
        throwType ("Class extends value " ++ (← toText cb h) ++ " is not a constructor or null")
      match ← getV cb h (keyOf "prototype") with
      | .obj p => pure (some p, h.ref?.getD i.functionProto)
      | .null => pure (none, h.ref?.getD i.functionProto)
      | pv => throwType ("Class extends value does not have valid prototype property " ++ (← toText cb pv))
  let proto ← alloc (Obj.ordinary protoParent)
  let derived := heritage.isSome
  let ctorFunc := match c.ctor with
    | some f => Func.mk f.name f.params f.rest f.body { f.info with kind := .classCtor derived } f.vars c.source
    | none => implicitCtor derived c.source
  let data : ClassData := ⟨derived, #[], #[], m.scope, proto, c.ctor.isNone⟩
  let fv ← makeClosure ctorFunc m.scope true (some proto) name (some data)
  let fr := fv.ref?.getD 0
  modifyObj fr fun o =>
    { o with proto := some ctorParent, props := o.props.insert (keyOf "prototype") (Property.fixed (.obj proto)) }
  modifyObj proto fun o => { o with props := o.props.insert (keyOf "constructor") (Property.hidden fv) }
  classMembers ops m ⟨fr, proto, m.scope, outer, #[], #[], #[], #[]⟩ c.members

/-- Starts making a class: its scope, with its own name not yet initialized, then what it extends. -/
def classStart (ops : Ops) (m : Machine) (c : Class) (name : Str) : Eval Step := do
  let outer := m.scope
  let cs ← newScope ⟨#[], some outer, .classBody (classPrivateNames c.members)⟩
  if let some n := c.name then declareIn cs n .undefined .const false
  let m := { m with scope := cs, frames := .restore outer :: m.frames }
  match c.heritage with
  | some h => return m.push (.classHeritage c name outer) h
  | none => classSetup ops m c name outer none

/-! ## Generators -/

/-- Handles what an inner iterator of `yield*` gave. -/
def delegateResult (cb : Callbacks) (m : Machine) (it : IterRecord) (mode : ResumeMode) (res : Value) :
    Eval Step := do
  match res with
  | .obj r =>
    let done := (← get cb r (keyOf "done")).truthy
    if done then
      let value ← get cb r (keyOf "value")
      if mode == .ret then return m.finishC (.returned value)
      return m.giveV value
    return .done (.delegated res { m with frames := .delegating it :: m.frames })
  | _ => throwType ("Iterator result " ++ (← toText cb res) ++ " is not an object")

/-- Passes a resumption of the generator on to the inner iterator of `yield*`. -/
def delegateStep (cb : Callbacks) (m : Machine) (it : IterRecord) (mode : ResumeMode) (received : Value) :
    Eval Step := do
  match mode with
  | .ret =>
    match ← getMethod cb it.iter (keyOf "return") with
    | none => return m.finishC (.returned received)
    | some f => delegateResult cb m it mode (← cb.call f it.iter [received])
  | .throw =>
    match ← getMethod cb it.iter (keyOf "throw") with
    | some f => delegateResult cb m it mode (← cb.call f it.iter [received])
    | none =>
      iterClose cb it
      throwType "The iterator does not provide a 'throw' method"
  | .next => delegateResult cb m it mode (← cb.call it.next it.iter [received])

/-! ## Expressions -/

/-- Evaluates an expression. -/
def evalExpr (ops : Ops) (m : Machine) (e : Expr) : Eval Step := do
  let cb := ops.cb
  match e with
  | .num x => return m.giveV (.num x)
  | .bigint n => return m.giveV (.big n)
  | .str s => return m.giveV (.str s)
  | .bool b => return m.giveV (.bool b)
  | .null => return m.giveV .null
  | .template texts subs =>
    match texts, subs with
    | t :: ts, s :: ss => return m.push (.template t ts ss) s
    | t :: _, [] => return m.giveV (.str t)
    | [], _ => return m.giveV (.str Str.empty)
  | .tagged tag cooked raw subs site =>
    let t : TemplateSite := ⟨cooked, raw, site⟩
    match tag with
    | .member obj name _ => return m.push (.base (.named name) false (.tagged t subs)) obj
    | .index obj key _ => return m.push (.base (.indexed key) false (.tagged t subs)) obj
    | .privateMember obj name _ => return m.push (.base (.priv name) false (.tagged t subs)) obj
    | _ => return m.push (.tagCallee t subs) tag
  | .regex pattern flags _ => return m.giveV (← RegExp.create (Str.ofString pattern) flags)
  | .ident name _ => return m.giveV (← readName cb m.scope name)
  | .this => return m.giveV (← thisOf m.scope)
  | .array items => arrayItems m #[] items
  | .object members =>
    let o ← alloc (Obj.ordinary (some (← intr).objectProto))
    objectMembers m cb o members
  | .function f => return m.giveV (← functionValue m f none)
  | .klass c => classStart ops m c (Str.ofString (c.name.getD ""))
  | .unary op arg =>
    match op, arg with
    | .typeOf, .ident name _ =>
      match ← lookupName cb m.scope name with
      | some v => return m.giveV (Value.ofString (← typeOf v))
      | none => return m.giveV (Value.ofString "undefined")
    | .delete, target => deleteStart ops m target
    | _, _ => return m.push (.unary op) arg
  | .update inc before target => refStart ops m target (.update inc before)
  | .binary op l r => return m.push (.binaryLeft op r) l
  | .logical op l r => return m.push (.logical op r) l
  | .cond t y n => return m.push (.cond y n) t
  | .assign none target value =>
    match target with
    | .ident name _ => return m.pushDo (.put (.name name)) (.named value (Str.ofString name))
    | _ => refStart ops m target (.assign value none)
  | .assign (some op) target value => refStart ops m target (.compound op value)
  | .assignLogical op target value =>
    let name := match target with
      | .ident n _ => some (Str.ofString n)
      | _ => none
    refStart ops m target (.logical op value name)
  | .destructure p value => return m.push (.destructure p) value
  | .seq l r => return m.push (.seq r) l
  | .member obj name opt => return m.push (.base (.named name) opt .get) obj
  | .index obj key opt => return m.push (.base (.indexed key) opt .get) obj
  | .privateMember obj name opt => return m.push (.base (.priv name) opt .get) obj
  | .privateIn name obj => return m.push (.privIn name) obj
  | .call callee args opt =>
    match callee with
    | .member obj name o2 => return m.push (.base (.named name) o2 (.call args opt)) obj
    | .index obj key o2 => return m.push (.base (.indexed key) o2 (.call args opt)) obj
    | .privateMember obj name o2 => return m.push (.base (.priv name) o2 (.call args opt)) obj
    | .superMember name => useRef ops m (.superProp (← thisOf m.scope) (keyOf name)) (.call args opt)
    | .superIndex key => return m.push (.superKey (.call args opt)) key
    | .ident name _ =>
      let c ← match ← resolve cb m.scope name with
        | .binding _ b => if b.ready then pure (Callee.call b.value .undefined) else tdzError name
        | .withProp o => do pure (Callee.call (← get cb o (keyOf name)) (.obj o))
        | .globalProp => do pure (Callee.call (← get cb (← intr).globalObject (keyOf name)) .undefined)
        | .missing => pure (Callee.unresolved name)
      let c ← match c with
        | .call f _ => do if name == "eval" && (← Dynamic.isOwnEval f) then pure Callee.direct else pure c
        | _ => pure c
      if opt then
        match c with
        | .call f _ => if f.isNullish then return m.goTo .shortCircuit
        | _ => pure ()
      argsNext ops m c #[] args
    | _ => return m.push (.callee args opt) callee
  | .new callee args => return m.push (.newCallee args) callee
  | .chain inner => return m.push .chain inner
  | .superCall args => argsNext ops m .superCall #[] args
  | .superMember name => useRef ops m (.superProp (← thisOf m.scope) (keyOf name)) .get
  | .superIndex key => return m.push (.superKey .get) key
  | .newTarget =>
    match ← callScope m.scope with
    | some (_, cc) => return m.giveV cc.newTarget
    | none => return m.giveV .undefined
  | .yield arg delegate =>
    match arg, delegate with
    | some a, true => return m.push .yieldDelegate a
    | some a, false => return m.push .yieldValue a
    | none, _ => return .done (.yielded .undefined m)
  | .await inner => return m.push .awaitValue inner
  | .bad => return m.giveV .undefined

/-- Evaluates an expression that takes a name when it is an anonymous function or class. -/
def evalNamed (ops : Ops) (m : Machine) (e : Expr) (name : Str) : Eval Step := do
  match e with
  | .function f => if f.name.isNone then return m.giveV (← functionValue m f (some name)) else evalExpr ops m e
  | .klass c => if c.name.isNone then classStart ops m c name else evalExpr ops m e
  | _ => evalExpr ops m e

/-! ## Statements -/

/-- Goes on with a declaration's declarators. -/
def declNext (m : Machine) (kind : DeclKind) : List Declarator → Eval Step
  | [] => return m.finishC .normal
  | .mk target _ init :: rest => do
    match init with
    | some e => return m.pushDo (.declInit kind target rest) (namedOrEval e (patternName target))
    | none =>
      match kind, target with
      | .var, _ => declNext m kind rest
      | _, .name n _ =>
        initName m.scope n .undefined
        declNext m kind rest
      | _, _ => declNext m kind rest

/-- Starts a `for (;;)` loop: its head's declarations in a scope of their own. -/
def forStart (m : Machine) (cb : Callbacks) (init : Option Stmt) (test update : Option Expr) (body : Stmt)
    (labels : List String) : Eval Step := do
  let l := Loop.forLoop test update body []
  match init with
  | some (.decl kind items) =>
    if kind == .var then return m.pushDo (.forStart l labels) (.exec (.decl kind items))
    let names := declNames items
    let ls ← newScope ⟨#[], some m.scope, .block⟩
    for n in names do declareIn ls n .undefined (if kind == .const then .const else .mutable) false
    let l := Loop.forLoop test update body (if kind == .blockScoped then names else [])
    return .next { m with scope := ls, control := .exec (.decl kind items),
                          frames := .forStart l labels :: .restore m.scope :: m.frames }
  | some s => return m.pushDo (.forStart l labels) (.exec s)
  | none => loopTurn m cb l labels

/-- The labels a chain of labeled statements puts on the statement they label. -/
def unlabel : Nat → Stmt → List String → Stmt × List String
  | 0, s, ls => (s, ls)
  | n + 1, s, ls =>
    match s with
    | .labeled l body => unlabel n body (ls ++ [l])
    | _ => (s, ls)

/-- Runs a statement under labels. -/
def execStmt (ops : Ops) (m : Machine) (s : Stmt) : Eval Step := do
  let cb := ops.cb
  let (s, labels) := unlabel 100000 s []
  let isLoop := match s with
    | .whileLoop .. | .doWhile .. | .forLoop .. | .forIn .. | .switchOn .. => true
    | _ => false
  let m := if !labels.isEmpty && !isLoop then { m with frames := .label labels :: m.frames } else m
  let m := match s with
    | .ifElse .. | .whileLoop .. | .doWhile .. | .forLoop .. | .forIn .. | .switchOn .. | .tryCatch ..
    | .withObj .. => { m with result := .undefined }
    | _ => m
  match s with
  | .expr e => return m.push .exprStmt e
  | .decl kind items => declNext m kind items
  | .func .. => return m.finishC .normal
  | .klass name _ c => return m.pushDo (.classDecl name) (.eval (.klass c))
  | .returnWith none => return m.finishC (.returned .undefined)
  | .returnWith (some e) => return m.push .returnValue e
  | .ifElse t y n => return m.push (.ifTest y n) t
  | .block body => blockStart m body
  | .whileLoop t b => return m.push (.loopTest (.whileLoop t b) labels) t
  | .doWhile b t => return m.pushDo (.loopBody (.doWhile b t) labels) (.exec b)
  | .forLoop init test update body => forStart m cb init test update body labels
  | .forIn each kind target obj body =>
    if each then return m.push (.forOfObj kind target body labels) obj
    else return m.push (.forInObj kind target body labels) obj
  | .breakTo l => return m.finishC (.breakTo l)
  | .continueTo l => return m.finishC (.continueTo l)
  | .throwValue e => return m.push .throwValue e
  | .tryCatch body param handler finalizer =>
    blockStart { m with frames := .tryBlock param handler finalizer m.scope :: m.frames } body
  | .switchOn disc cases => return m.push (.switchDisc cases labels) disc
  | .labeled _ body => return m.goTo (.exec body)
  | .withObj obj body => return m.push (.withObj body) obj
  | .empty | .bad => return m.finishC .normal

/-! ## Frames -/

/-- Gives a value to a frame, the machine's frames being those under it. -/
def giveTo (ops : Ops) (m : Machine) (f : Frame) (v : Value) : Eval Step := do
  let cb := ops.cb
  match f with
  | .unary op => return m.giveV (← unaryOp cb op v)
  | .binaryLeft op r => return m.push (.binaryRight op v) r
  | .binaryRight op l => return m.giveV (← binaryOp cb op l v)
  | .logical op r =>
    let short := match op with
      | .and => !v.truthy
      | .or => v.truthy
      | .coalesce => !v.isNullish
    if short then return m.giveV v
    return m.goTo (.eval r)
  | .cond yes no => return m.goTo (.eval (if v.truthy then yes else no))
  | .seq r => return m.goTo (.eval r)
  | .template acc texts subs =>
    let s ← toStr cb v
    match texts with
    | t :: ts =>
      let acc := acc ++ s ++ t
      match subs with
      | e :: es => return m.push (.template acc ts es) e
      | [] => return m.giveV (.str acc)
    | [] => return m.giveV (.str (acc ++ s))
  | .array acc spread rest =>
    let acc ← if spread then do pure (acc ++ (← iterateToList cb v).map some) else pure (acc.push (some v))
    arrayItems m acc rest
  | .objectKey o mem rest =>
    let k ← toPropertyKey cb v
    match mem with
    | .field _ value _ => return m.pushDo (.objectValue o k rest) (.named value (← functionNameOf k ""))
    | .method _ kind fn =>
      defineObjectMethod cb m o k kind fn
      objectMembers m cb o rest
    | _ => objectMembers m cb o rest
  | .objectValue o k rest =>
    let ok ← createData cb o k v
    if !ok then throwType ("Cannot redefine property: " ++ (← keyText k))
    objectMembers m cb o rest
  | .objectProto o rest =>
    match v with
    | .obj p => modifyObj o fun ob => { ob with proto := some p }
    | .null => modifyObj o fun ob => { ob with proto := none }
    | _ => pure ()
    objectMembers m cb o rest
  | .objectSpread o rest =>
    copyDataProperties cb o v #[]
    objectMembers m cb o rest
  | .base acc opt use =>
    if opt && v.isNullish then return m.goTo .shortCircuit
    match acc with
    | .named name => useRef ops m (.prop v (keyOf name)) use
    | .indexed key => return m.push (.key v use) key
    | .priv name => useRef ops m (.priv v name) use
  | .key base use => useRef ops m (.prop base (← toPropertyKey cb v)) use
  | .superKey use => useRef ops m (.superProp (← thisOf m.scope) (← toPropertyKey cb v)) use
  | .put r =>
    putRef cb m r v
    return m.giveV v
  | .compound op r old =>
    let nv ← binaryOp cb op old v
    putRef cb m r nv
    return m.giveV nv
  | .callee args opt =>
    if opt && v.isNullish then return m.goTo .shortCircuit
    argsNext ops m (.call v .undefined) #[] args
  | .tagCallee t subs =>
    let tobj ← templateObject t
    argsNext ops m (.call v .undefined) #[tobj] (subs.map fun e => Arg.plain e 0)
  | .args c done spread rest =>
    let done ← if spread then do pure (done ++ (← iterateToList cb v)) else pure (done.push v)
    argsNext ops m c done rest
  | .newCallee args => argsNext ops m (.construct v) #[] args
  | .chain => return m.giveV v
  | .privIn name =>
    match v with
    | .obj r =>
      let b ← privBrand m.scope name
      return m.giveV (.bool (← privElem? r b name).isSome)
    | _ => throwType ("Cannot use 'in' operator to search for '#" ++ name ++ "' in " ++ (← toText cb v))
  | .destructure p => return .next { m with control := .bind p v .assign, frames := .giveBack v :: m.frames }
  | .giveBack w => return m.giveV w
  | .yieldValue => return .done (.yielded v m)
  | .yieldDelegate => delegateStep cb m (← getIterator cb v) .next .undefined
  | .delegating _ => return m.giveV v
  | .awaitValue => return .done (.awaiting v m)
  | .classHeritage c name outer => classSetup ops m c name outer (some v)
  | .classKey b mem rest =>
    let k ← toPropertyKey cb v
    let b ← classMember cb b mem (some k)
    classMembers ops m b rest
  | .bindDefault p mode => return m.goTo (.bind p v mode)
  | .arrayPattern it items rest mode => arrayPatternNext m cb it rest mode items
  | .objectPattern src used props rest mode => objectPatternNext m cb src used props rest mode
  | .patternKey src used p dflt props rest mode =>
    objectPatternProp m cb src used (← toPropertyKey cb v) p dflt props rest mode
  | .stmts ss => return m.goTo (.execList ss)
  | .restore sc => return .next { m with scope := sc, control := .give v }
  | .exprStmt => return { m with result := v }.finishC .normal
  | .ifTest yes no =>
    if v.truthy then return m.goTo (.exec yes)
    match no with
    | some s => return m.goTo (.exec s)
    | none => return m.finishC .normal
  | .declInit kind target rest =>
    return .next { m with control := .bind target v (if kind == .var then .assign else .init),
                          frames := .declRest kind rest :: m.frames }
  | .declRest kind rest => declNext m kind rest
  | .returnValue => return m.finishC (.returned v)
  | .throwValue => return m.goTo (.raise v)
  | .loopTest l labels =>
    if !v.truthy then return m.finishC .normal
    match l with
    | .whileLoop _ b | .doWhile b _ | .forLoop _ _ b _ => return m.pushDo (.loopBody l labels) (.exec b)
    | _ => return m.finishC .normal
  | .loopBody l labels => loopAfterBody m cb l labels .normal
  | .loopUpdate l labels => loopTurn m cb l labels
  | .loopBind l labels =>
    match l with
    | .forIn _ _ _ _ body _ | .forOf _ _ _ body _ => return m.pushDo (.loopBody l labels) (.exec body)
    | _ => return m.finishC .normal
  | .forStart l labels => loopTurn m cb l labels
  | .breakable _ => return m.giveV v
  | .label _ => return m.giveV v
  | .forInObj kind target body labels =>
    if v.isNullish then return m.finishC .normal
    let o ← toObject v
    let keys ← forInKeys cb o
    forInNext m cb (.obj o) kind target body m.scope labels keys
  | .forOfObj kind target body labels =>
    let it ← getIterator cb v
    forOfNext m cb it kind target body m.scope labels
  | .tryBlock .. | .catchBlock .. | .finallyBlock .. | .evalCode => return m.giveV v
  | .catchBound handler => blockStart m handler
  | .switchDisc cases labels =>
    let sc ← enterBlock m.scope (caseStatements cases) m.strict
    let frames := .breakable labels :: (if sc == m.scope then m.frames else .restore m.scope :: m.frames)
    caseSearch { m with scope := sc, frames } v cases cases 0
  | .caseTest disc i cases =>
    if Value.strictEq disc v then return m.goTo (.execList (casesFrom cases i))
    caseSearch m disc cases (cases.drop (i + 1)) (i + 1)
  | .withObj body =>
    let o ← toObject v
    let sc ← newScope ⟨#[], some m.scope, .withObj o⟩
    return .next { m with scope := sc, control := .exec body, frames := .restore m.scope :: m.frames }
  | .classDecl name =>
    initName m.scope name v
    return m.finishC .normal
  | .params items rest args => paramsNext m items rest args
  | .body fn =>
    instantiateBody m.scope fn m.strict
    if fn.info.generator then return .done (.started { m with control := .execList fn.body })
    return m.goTo (.execList fn.body)

/-- Passes a completion to a frame, the machine's frames being those under it. -/
def finishTo (cb : Callbacks) (m : Machine) (f : Frame) (c : Completion) : Eval Step := do
  match f with
  | .stmts ss =>
    match c with
    | .normal => return m.goTo (.execList ss)
    | _ => return m.finishC c
  | .restore sc => return .next { m with scope := sc, control := .finish c }
  | .label labels =>
    match c with
    | .breakTo (some l) => if labels.contains l then return m.finishC .normal else return m.finishC c
    | _ => return m.finishC c
  | .breakable labels =>
    match c with
    | .breakTo none => return m.finishC .normal
    | .breakTo (some l) => if labels.contains l then return m.finishC .normal else return m.finishC c
    | _ => return m.finishC c
  | .loopBody l labels => loopAfterBody m cb l labels c
  | .forStart l labels =>
    match c with
    | .normal =>
      let m ← match l with
        | .forLoop _ _ _ perTurn => if perTurn.isEmpty then pure m else do pure { m with scope := ← copyScope m.scope }
        | _ => pure m
      loopTurn m cb l labels
    | _ => return m.finishC c
  | .tryBlock _ _ fin sc => finallyStart { m with scope := sc } fin (.finish c) sc
  | .catchBlock fin sc => finallyStart { m with scope := sc } fin (.finish c) sc
  | .finallyBlock pending sc result =>
    let m := { m with scope := sc }
    match c with
    | .normal =>
      let m := { m with result }
      match pending with
      | .finish c' => return m.finishC c'
      | .raise v => return m.goTo (.raise v)
    | _ => return m.finishC c
  | .evalCode =>
    match c with
    | .normal => return .done (.returned m.result)
    | _ => return m.finishC c
  | _ => return m.finishC c

/-- Passes a thrown value to a frame, the machine's frames being those under it. -/
def raiseTo (cb : Callbacks) (m : Machine) (f : Frame) (v : Value) : Eval Step := do
  match f with
  | .restore sc => return .next { m with scope := sc, control := .raise v }
  | .tryBlock param handler fin sc =>
    let m := { m with scope := sc }
    match handler with
    | some h => catchStart { m with frames := .catchBlock fin sc :: m.frames } param h v
    | none => finallyStart m fin (.raise v) sc
  | .catchBlock fin sc => finallyStart { m with scope := sc } fin (.raise v) sc
  | .finallyBlock _ sc _ => return .next { m with scope := sc, control := .raise v }
  | .loopBody (.forOf it ..) _ | .loopBind (.forOf it ..) _ =>
    closeQuietly cb it
    return m.goTo (.raise v)
  | .arrayPattern it .. =>
    if !it.done then closeQuietly cb it
    return m.goTo (.raise v)
  | _ => return m.goTo (.raise v)

/-- What one step does, without catching what it throws. -/
def dispatch (ops : Ops) (m : Machine) : Eval Step := do
  match m.control with
  | .eval e => evalExpr ops m e
  | .named e name => evalNamed ops m e name
  | .exec s => execStmt ops m s
  | .execList ss =>
    match ss with
    | [] => return m.finishC .normal
    | [s] => return m.goTo (.exec s)
    | s :: rest => return m.pushDo (.stmts rest) (.exec s)
  | .bind p v mode => bindStep ops m p v mode
  | .give v =>
    match m.frames with
    | [] => return .done (.returned v)
    | f :: rest => giveTo ops { m with frames := rest } f v
  | .finish c =>
    match m.frames with
    | [] =>
      match c with
      | .returned v => return .done (.returned v)
      | _ => return .done (.returned .undefined)
    | f :: rest => finishTo ops.cb { m with frames := rest } f c
  | .raise v =>
    match m.frames with
    | [] => return .done (.threw v)
    | f :: rest => raiseTo ops.cb { m with frames := rest } f v
  | .shortCircuit =>
    match m.frames with
    | [] => return .done (.returned .undefined)
    | .chain :: rest => return .next { m with control := .give .undefined, frames := rest }
    | .restore sc :: rest => return .next { m with scope := sc, frames := rest }
    | _ :: rest => return .next { m with frames := rest }
  | .resume mode v =>
    match m.frames with
    | .delegating it :: rest => delegateStep ops.cb { m with frames := rest } it mode v
    | _ =>
      match mode with
      | .next => return m.giveV v
      | .throw => return m.goTo (.raise v)
      | .ret => return m.finishC (.returned v)

end Exec

/-- One step of a machine: what it throws is thrown into the machine. -/
def step (ops : Ops) (m : Machine) : Eval Step := do
  let popped := match m.control with
    | .give _ | .finish _ | .raise _ | .resume _ _ => m.frames.tail
    | _ => m.frames
  tryCatch (Exec.dispatch ops m) fun s =>
    match s with
    | .thrown v => pure (.next { m with control := .raise v, frames := popped })
    | _ => throw s

end Script

end Userland
