import Userland.Script.Syntax
import Userland.Script.Value

namespace Userland

/-! # The machine that runs a function

One activation of a function, or the whole script, runs as a machine: what
it does now (`Control`), the frames that wait for its result, innermost
first, and the scope its names resolve in. A step takes the control and the
innermost frame and gives the next machine.

Expressions end by giving a value to the frame under them; statements end
with a completion, which frames of statements pass on or act on: loops take
the `break` and `continue` aimed at them, `try` runs its `finally`, and a
`return` leaves the function. A thrown value unwinds frames until a `try`
takes it. A machine whose frames are used up has finished its activation.

A `yield` or an `await` stops the machine with its frames as they are; the
machine is a plain value, so the generator or asynchronous function that owns
it keeps it and later goes on from the same place. Calls do not stop the
machine: a call runs the callee's own machine to its end.
-/

namespace Script

/-- A place a value is read from and written to. -/
inductive Ref where
  /-- A name, resolved in the scope when it is used. -/
  | name (n : String)
  /-- A property of a value. -/
  | prop (base : Value) (key : Key)
  /-- A property found from the home object's prototype, with `this` as receiver. -/
  | superProp (thisVal : Value) (key : Key)
  /-- A private element of an object, by its class's brand and name. -/
  | priv (base : Value) (name : String)
  deriving Inhabited

/-- The texts of a tagged template, and the place that caches its strings object. -/
structure TemplateSite where
  cooked : List (Option Str)
  raw : List Str
  site : Nat
  deriving Inhabited

/-- What is done with a place once it is found. -/
inductive RefUse where
  /-- Read it. -/
  | get
  /-- Assign the value of an expression, which takes the name when it is an anonymous function. -/
  | assign (value : Expr) (name : Option Str)
  /-- Combine the value with an expression's and store the result. -/
  | compound (op : BinaryOp) (value : Expr)
  /-- Store an expression's value unless the current value decides. -/
  | logical (op : LogicOp) (value : Expr) (name : Option Str)
  /-- Add or take one, giving the new or the old number. -/
  | update (increment before : Bool)
  /-- Call it as a method, with the base as `this`. -/
  | call (args : List Arg) (optional : Bool)
  /-- Call it as the tag of a template. -/
  | tagged (t : TemplateSite) (subs : List Expr)
  | delete
  /-- Store a value already known, as destructuring assignment does. -/
  | put (v : Value)
  deriving Inhabited

/-- How a property access names its property. -/
inductive Access where
  | named (name : String)
  | indexed (key : Expr)
  | priv (name : String)
  deriving Inhabited

/-- What a list of arguments is evaluated for. -/
inductive Callee where
  | call (f thisVal : Value)
  | construct (f : Value)
  /-- `super(...)` in a derived constructor. -/
  | superCall
  /-- A method call whose object has no such property: the call fails once its arguments are evaluated. -/
  | missing (name : String)
  /-- A call of a name bound nowhere: the call fails once its arguments are evaluated. -/
  | unresolved (name : String)
  /-- A call of the realm's own `eval` by that name: a text it is given runs in the caller's scope. -/
  | direct
  deriving Inhabited

/-- How a pattern puts values into its names. -/
inductive BindMode where
  /-- As an assignment: each name is resolved and assigned, as `var` declarations do. -/
  | assign
  /-- As a declaration: each name's binding in the current scope is initialized. -/
  | init
  deriving Inhabited, BEq

/-- An iterator being stepped: the iterator, its `next` method, and whether it is used up. -/
structure IterRecord where
  iter : Value
  next : Value
  done : Bool
  deriving Inhabited

/-- The key of a class field: a property key, or a private name of the class. -/
inductive FieldKey where
  | key (k : Key)
  | priv (name : String)
  deriving Inhabited

/-- A field of a class: its key and initializer. -/
structure FieldDef where
  key : FieldKey
  init : Option Expr
  deriving Inhabited

/-- What runs when a class is made, after its methods: a static field or a static block. -/
inductive StaticInit where
  | field (f : FieldDef)
  | block (body : List Stmt) (vars : List String)
  deriving Inhabited

/-- A private method or accessor that a class installs on each instance. -/
structure PrivMethod where
  name : String
  kind : MethodKind
  fn : Value
  deriving Inhabited

/-- A class being made: its constructor and prototype, its scope and the
scope around it, and the fields, static parts and private methods met so far. -/
structure ClassBuild where
  ctor : Nat
  proto : Nat
  scope : Nat
  outer : Nat
  fields : Array FieldDef
  statics : Array StaticInit
  privMethods : Array PrivMethod
  staticPriv : Array PrivMethod
  deriving Inhabited

/-- A loop between its turns: what it tests, steps and runs. -/
inductive Loop where
  | whileLoop (test : Expr) (body : Stmt)
  | doWhile (body : Stmt) (test : Expr)
  /-- A `for (;;)` loop with the names its head declares per turn. -/
  | forLoop (test update : Option Expr) (body : Stmt) (perTurn : List String)
  /-- A `for...in` loop with the keys left to visit and the scope each turn starts from. -/
  | forIn (keys : List Key) (obj : Value) (kind : Option DeclKind) (target : Pattern) (body : Stmt)
      (outer : Nat)
  /-- A `for...of` loop with its iterator and the scope each turn starts from. -/
  | forOf (it : IterRecord) (kind : Option DeclKind) (target : Pattern) (body : Stmt) (outer : Nat)
  deriving Inhabited

/-- What a `finally` block holds back while it runs. -/
inductive Pending where
  | finish (c : Completion)
  | raise (v : Value)
  deriving Inhabited

/-- How a suspended function is taken up again. -/
inductive ResumeMode where
  | next
  | throw
  | ret
  deriving Inhabited, BEq

/-- What waits for the result of what runs now. -/
inductive Frame where
  | unary (op : UnaryOp)
  | binaryLeft (op : BinaryOp) (r : Expr)
  | binaryRight (op : BinaryOp) (l : Value)
  | logical (op : LogicOp) (r : Expr)
  | cond (yes no : Expr)
  | seq (r : Expr)
  /-- A template literal with the text so far and the parts left. -/
  | template (acc : Str) (texts : List Str) (subs : List Expr)
  /-- An array literal with the items so far; `spread` when the value is spread. -/
  | array (acc : Array (Option Value)) (spread : Bool) (rest : List (Option Arg))
  /-- An object literal waiting for a computed key. -/
  | objectKey (o : Nat) (m : Member) (rest : List Member)
  /-- An object literal waiting for the value under a key. -/
  | objectValue (o : Nat) (key : Key) (rest : List Member)
  /-- An object literal waiting for its prototype, from `__proto__: value`. -/
  | objectProto (o : Nat) (rest : List Member)
  | objectSpread (o : Nat) (rest : List Member)
  /-- A property access waiting for its object. -/
  | base (acc : Access) (optional : Bool) (use : RefUse)
  /-- A property access waiting for its computed key. -/
  | key (base : Value) (use : RefUse)
  | superKey (use : RefUse)
  /-- A place waiting for the value to store. -/
  | put (r : Ref)
  /-- A compound assignment waiting for its right side. -/
  | compound (op : BinaryOp) (r : Ref) (old : Value)
  /-- A call waiting for its callee, whose `this` is `undefined`. -/
  | callee (args : List Arg) (optional : Bool)
  /-- A tagged template waiting for its tag. -/
  | tagCallee (t : TemplateSite) (subs : List Expr)
  /-- Arguments with those evaluated so far; `spread` when the value is spread. -/
  | args (c : Callee) (done : Array Value) (spread : Bool) (rest : List Arg)
  | newCallee (args : List Arg)
  /-- The end of an optional chain. -/
  | chain
  | privIn (name : String)
  /-- A destructuring assignment waiting for its value. -/
  | destructure (p : Pattern)
  /-- Gives a value once the frames above it are done. -/
  | giveBack (v : Value)
  | yieldValue
  | yieldDelegate
  /-- A `yield*` handing on the steps of an inner iterator. -/
  | delegating (it : IterRecord)
  | awaitValue
  /-- A class waiting for what it extends. -/
  | classHeritage (c : Class) (name : Str) (outer : Nat)
  /-- A class waiting for a computed member key. -/
  | classKey (b : ClassBuild) (m : ClassMember) (rest : List ClassMember)
  /-- A pattern waiting for its default. -/
  | bindDefault (p : Pattern) (mode : BindMode)
  /-- An array pattern with the items left. -/
  | arrayPattern (it : IterRecord) (items : List (Option (Pattern × Option Expr))) (rest : Option Pattern)
      (mode : BindMode)
  /-- An object pattern with the properties left and the keys taken. -/
  | objectPattern (src : Value) (used : Array Key) (props : List (PropKey × Pattern × Option Expr))
      (rest : Option Pattern) (mode : BindMode)
  /-- An object pattern waiting for a computed key. -/
  | patternKey (src : Value) (used : Array Key) (target : Pattern) (dflt : Option Expr)
      (props : List (PropKey × Pattern × Option Expr)) (rest : Option Pattern) (mode : BindMode)
  /-- Statements left to run. -/
  | stmts (rest : List Stmt)
  /-- Puts the scope back when a block ends however it ends. -/
  | restore (scope : Nat)
  | exprStmt
  | ifTest (yes : Stmt) (no : Option Stmt)
  /-- A declaration waiting for an initializer's value. -/
  | declInit (kind : DeclKind) (target : Pattern) (rest : List Declarator)
  /-- A declaration with the declarators left. -/
  | declRest (kind : DeclKind) (rest : List Declarator)
  | returnValue
  | throwValue
  /-- A loop waiting for its test. -/
  | loopTest (l : Loop) (labels : List String)
  /-- A loop waiting for its body's completion. -/
  | loopBody (l : Loop) (labels : List String)
  /-- A loop waiting for its update. -/
  | loopUpdate (l : Loop) (labels : List String)
  /-- A loop waiting for its target to be bound. -/
  | loopBind (l : Loop) (labels : List String)
  /-- A `for (;;)` loop waiting for its head's declaration to run. -/
  | forStart (l : Loop) (labels : List String)
  /-- A `switch`: a `break` ends it. -/
  | breakable (labels : List String)
  | forInObj (kind : Option DeclKind) (target : Pattern) (body : Stmt) (labels : List String)
  | forOfObj (kind : Option DeclKind) (target : Pattern) (body : Stmt) (labels : List String)
  /-- A statement under labels: a `break` to one of them ends it. -/
  | label (labels : List String)
  /-- A `try` block. -/
  | tryBlock (param : Option Pattern) (handler : Option (List Stmt)) (finalizer : Option (List Stmt))
      (scope : Nat)
  /-- A `catch` block, with the `finally` after it. -/
  | catchBlock (finalizer : Option (List Stmt)) (scope : Nat)
  /-- A `catch` parameter being bound. -/
  | catchBound (handler : List Stmt)
  /-- A `finally` block with what it holds back and the completion value it keeps. -/
  | finallyBlock (pending : Pending) (scope : Nat) (result : Value)
  | switchDisc (cases : List Case) (labels : List String)
  /-- A `switch` waiting for the test of the case at an index. -/
  | caseTest (disc : Value) (index : Nat) (cases : List Case)
  | withObj (body : Stmt)
  | classDecl (name : String)
  /-- Parameters left to bind with the arguments left. -/
  | params (items : List (Pattern × Option Expr)) (rest : Option Pattern) (args : List Value)
  /-- A function's body, run once its parameters are bound. -/
  | body (f : Func)
  /-- The end of code given to `eval`: its value is that of the statements' completion. -/
  | evalCode
  deriving Inhabited

/-- What the machine does now. -/
inductive Control where
  | eval (e : Expr)
  /-- Evaluates an expression that takes a name when it is an anonymous function or class. -/
  | named (e : Expr) (name : Str)
  | exec (s : Stmt)
  | execList (ss : List Stmt)
  /-- Puts a value into a pattern. -/
  | bind (p : Pattern) (v : Value) (mode : BindMode)
  /-- Gives a value to the frame under it. -/
  | give (v : Value)
  /-- Passes a statement's completion to the frames under it. -/
  | finish (c : Completion)
  /-- Unwinds the frames with a thrown value. -/
  | raise (v : Value)
  /-- An optional chain met a missing object: the chain gives `undefined`. -/
  | shortCircuit
  /-- Takes up a suspended function with a value. -/
  | resume (mode : ResumeMode) (v : Value)
  deriving Inhabited

/-- One activation of a function: what it does now, what waits, the scope
its names resolve in, whether its code is strict, and the value of its
statements' completion so far: the value of the expression statement run
last, or `undefined` after a statement that starts over, such as `if`. -/
structure Machine where
  control : Control
  frames : List Frame
  scope : Nat
  strict : Bool
  result : Value
  deriving Inhabited

/-- How an activation ended or stopped. -/
inductive Outcome where
  | returned (v : Value)
  | threw (v : Value)
  /-- A generator's parameters are bound and its body waits for the first `next`. -/
  | started (m : Machine)
  /-- Stopped at a `yield` of a value. -/
  | yielded (v : Value) (m : Machine)
  /-- Stopped in a `yield*`, passing on an inner iterator's result as it is. -/
  | delegated (result : Value) (m : Machine)
  /-- Stopped at an `await` of a value. -/
  | awaiting (v : Value) (m : Machine)
  deriving Inhabited

/-- What one step of a machine gives. -/
inductive Step where
  | next (m : Machine)
  | done (o : Outcome)
  deriving Inhabited

end Script

end Userland
