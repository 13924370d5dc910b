import Userland.Script.Str

namespace Userland

/-! # Script syntax

The syntax tree of a script: expressions, statements, function literals and
classes. Places are byte offsets into the source, counted from 0; they are
kept where a check after parsing reports an error.

A function literal keeps what running it needs besides its body: its
parameters, its kind (plain, arrow, method, accessor, class constructor),
whether it is a generator or asynchronous, whether its code is strict, how
many parameters count for its `length`, the names its `var` declarations
bind, and its source text, which is what the function prints as.

Declarations, parameters, loop heads, `catch` clauses and assignments bind or
assign through a pattern, which may take an array or object apart.
-/

namespace Script

/-- Operators of one operand. -/
inductive UnaryOp where
  | neg
  | plus
  | not
  | bitNot
  | typeOf
  | void
  | delete
  deriving Inhabited, Repr, BEq

/-- Operators of two operands that evaluate both. -/
inductive BinaryOp where
  | add | sub | mul | div | rem | pow
  | lt | gt | le | ge
  | eq | ne | strictEq | strictNe
  | bitAnd | bitOr | bitXor | shl | shr | ushr
  | instanceOf | isIn
  deriving Inhabited, Repr, BEq

/-- Operators that may skip their second operand. -/
inductive LogicOp where
  | and
  | or
  | coalesce
  deriving Inhabited, Repr, BEq

/-- How a declaration binds its names. -/
inductive DeclKind where
  /-- In the enclosing function, from its start. -/
  | var
  /-- In the enclosing block, from the declaration on. -/
  | blockScoped
  /-- Like `blockScoped`, and never assigned again. -/
  | const
  deriving Inhabited, Repr, BEq

/-- What a method of an object literal or class is. -/
inductive MethodKind where
  | method
  | getter
  | setter
  deriving Inhabited, Repr, BEq

/-- What a function is, which decides how it may be called. -/
inductive FuncKind where
  /-- A function declaration or expression: callable and constructible. -/
  | plain
  /-- An arrow function: `this`, `arguments` and `super` come from where it stands. -/
  | arrow
  /-- A method of an object literal or class: callable only, with a home object. -/
  | method
  | getter
  | setter
  /-- The constructor of a class; `derived` when the class extends another. -/
  | classCtor (derived : Bool)
  deriving Inhabited, Repr, BEq

/-- The facts about a function literal besides its parts. -/
structure FuncInfo where
  kind : FuncKind
  generator : Bool
  async : Bool
  strict : Bool
  /-- The parameters before the first with a default or the rest parameter. -/
  length : Nat
  /-- Whether every parameter is a plain name without a default, and there is no rest. -/
  simple : Bool
  /-- Where the literal starts. -/
  start : Nat
  deriving Inhabited, Repr

mutual

/-- Expressions. -/
inductive Expr where
  | num (x : Float)
  /-- A big integer literal. -/
  | bigint (n : Int)
  | str (s : Str)
  /-- A template literal: its texts, one more than its substitutions. -/
  | template (texts : List Str) (subs : List Expr)
  /-- A tagged template: the tag, the texts after escapes (none where an
  escape is invalid), the raw texts, the substitutions, and where it stands. -/
  | tagged (tag : Expr) (cooked : List (Option Str)) (raw : List Str) (subs : List Expr) (site : Nat)
  /-- A regular expression literal: its pattern as written, its flags, and where it stands. -/
  | regex (pattern flags : String) (at_ : Nat)
  | bool (b : Bool)
  | null
  /-- A name, and where it stands. -/
  | ident (name : String) (at_ : Nat)
  | this
  /-- An array literal; a hole is `none`. -/
  | array (items : List (Option Arg))
  | object (members : List Member)
  | function (f : Func)
  | klass (c : Class)
  | unary (op : UnaryOp) (e : Expr)
  /-- `++` or `--`, before or after its target. -/
  | update (increment : Bool) (before : Bool) (target : Expr)
  | binary (op : BinaryOp) (l r : Expr)
  | logical (op : LogicOp) (l r : Expr)
  | cond (test yes no : Expr)
  /-- An assignment; `op` is the operator of a compound assignment. -/
  | assign (op : Option BinaryOp) (target value : Expr)
  /-- A logical assignment such as `a ||= b`. -/
  | assignLogical (op : LogicOp) (target value : Expr)
  /-- An assignment that takes the value apart, as in `[a, b] = [b, a]`. -/
  | destructure (target : Pattern) (value : Expr)
  | seq (l r : Expr)
  /-- A property by name; `optional` for `?.`. -/
  | member (obj : Expr) (name : String) (optional : Bool)
  /-- A property by a computed key. -/
  | index (obj : Expr) (key : Expr) (optional : Bool)
  /-- A private name of a class, `o.#x`. -/
  | privateMember (obj : Expr) (name : String) (optional : Bool)
  /-- `#x in o`. -/
  | privateIn (name : String) (obj : Expr)
  | call (callee : Expr) (args : List Arg) (optional : Bool)
  | new (callee : Expr) (args : List Arg)
  /-- Ends an optional chain: a `?.` on a missing object gives `undefined` for the whole chain. -/
  | chain (e : Expr)
  /-- `super(...)` in a derived class's constructor. -/
  | superCall (args : List Arg)
  /-- `super.name`. -/
  | superMember (name : String)
  /-- `super[key]`. -/
  | superIndex (key : Expr)
  | newTarget
  /-- `yield`, or with `delegate` `yield*`. -/
  | yield (arg : Option Expr) (delegate : Bool)
  | await (e : Expr)
  /-- What error recovery leaves of an expression. -/
  | bad

/-- An argument, or an item of an array literal, with where its expression starts. -/
inductive Arg where
  | plain (e : Expr) (at_ : Nat)
  | spread (e : Expr) (at_ : Nat)

/-- A member of an object literal. A value keyed `__proto__` by a name or a
string sets the prototype. -/
inductive Member where
  /-- A key with its value, and where the value starts. -/
  | field (key : PropKey) (value : Expr) (at_ : Nat)
  /-- A name standing for itself, `{a}`; with an initializer, `{a = 1}`, only
  in a pattern; and where the initializer starts. -/
  | short (name : String) (at_ : Nat) (init : Option Expr) (initAt : Nat)
  /-- A method, getter or setter. -/
  | method (key : PropKey) (kind : MethodKind) (f : Func)
  | spread (e : Expr) (at_ : Nat)

/-- The key of an object literal's member. -/
inductive PropKey where
  | name (s : Str)
  | computed (e : Expr)

/-- What a declaration, a parameter or an assignment puts a value into: a
name, a place to assign to, or the parts of an array or object, each taken
apart in turn. -/
inductive Pattern where
  /-- A name to bind, and where it stands. -/
  | name (n : String) (at_ : Nat)
  /-- A name, property or index to assign to, and where it starts. -/
  | target (e : Expr) (at_ : Nat)
  /-- The items in order, each with its default, a hole being `none`; and what
  takes the items after them. -/
  | array (items : List (Option (Pattern × Option Expr))) (rest : Option Pattern)
  /-- Properties by key, each with its target and default; and what takes the
  other properties. -/
  | object (props : List (PropKey × Pattern × Option Expr)) (rest : Option Pattern)

/-- A function literal: its name, parameters with their defaults, its rest
parameter, its body, its facts, the names its `var` declarations bind, and
its source text. -/
inductive Func where
  | mk (name : Option String) (params : List (Pattern × Option Expr)) (rest : Option Pattern)
      (body : List Stmt) (info : FuncInfo) (vars : List String) (source : String)

/-- The key of a class member: a property key or a private name. -/
inductive ClassKey where
  | prop (k : PropKey)
  | priv (name : String)

/-- A member of a class. -/
inductive ClassMember where
  | method (static : Bool) (key : ClassKey) (kind : MethodKind) (f : Func)
  | field (static : Bool) (key : ClassKey) (init : Option Expr)
  /-- A `static { ... }` block, with the names its `var`s bind. -/
  | block (body : List Stmt) (vars : List String)

/-- A class: its name, what it extends, its constructor, its other members,
and its source text. -/
inductive Class where
  | mk (name : Option String) (heritage : Option Expr) (ctor : Option Func) (members : List ClassMember)
      (source : String)

/-- Statements. -/
inductive Stmt where
  | expr (e : Expr)
  /-- A declaration of names, each with its place and initializer. -/
  | decl (kind : DeclKind) (items : List Declarator)
  /-- A function declaration: its name, where the name stands, and the function. -/
  | func (name : String) (at_ : Nat) (f : Func)
  /-- A class declaration: its name, where the name stands, and the class. -/
  | klass (name : String) (at_ : Nat) (c : Class)
  | returnWith (e : Option Expr)
  | ifElse (test : Expr) (yes : Stmt) (no : Option Stmt)
  | block (body : List Stmt)
  | whileLoop (test : Expr) (body : Stmt)
  | doWhile (body : Stmt) (test : Expr)
  | forLoop (init : Option Stmt) (test : Option Expr) (update : Option Expr) (body : Stmt)
  /-- `for (x in o)` or, with `each`, `for (x of o)`; `kind` when the loop declares `x`. -/
  | forIn (each : Bool) (kind : Option DeclKind) (target : Pattern) (obj : Expr) (body : Stmt)
  | breakTo (label : Option String)
  | continueTo (label : Option String)
  | throwValue (e : Expr)
  | tryCatch (body : List Stmt) (param : Option Pattern) (handler : Option (List Stmt))
      (finalizer : Option (List Stmt))
  /-- A `switch`; a case without a test is the default. -/
  | switchOn (disc : Expr) (cases : List Case)
  | labeled (label : String) (body : Stmt)
  /-- `with (o) body`. -/
  | withObj (obj : Expr) (body : Stmt)
  | empty
  /-- What error recovery leaves of a statement. -/
  | bad

/-- What one part of a declaration binds, where it starts, and its initializer. -/
inductive Declarator where
  | mk (target : Pattern) (at_ : Nat) (init : Option Expr)

/-- A case of a `switch`. -/
inductive Case where
  | mk (test : Option Expr) (body : List Stmt)

end

instance : Inhabited Expr := ⟨.bad⟩
instance : Inhabited Stmt := ⟨.bad⟩
instance : Inhabited Pattern := ⟨.array [] none⟩

namespace Func

/-- The function's own name, if it has one. -/
def name : Func → Option String | .mk n .. => n
/-- The parameters with their defaults. -/
def params : Func → List (Pattern × Option Expr) | .mk _ p .. => p
/-- The rest parameter. -/
def rest : Func → Option Pattern | .mk _ _ r .. => r
/-- The body. -/
def body : Func → List Stmt | .mk _ _ _ b .. => b
/-- The facts about the function. -/
def info : Func → FuncInfo | .mk _ _ _ _ i .. => i
/-- The names the function's `var` declarations bind. -/
def vars : Func → List String | .mk _ _ _ _ _ v _ => v
/-- The function's source text. -/
def source : Func → String | .mk _ _ _ _ _ _ s => s
/-- Whether the function is an arrow. -/
def arrow (f : Func) : Bool := f.info.kind == .arrow
/-- Whether the function's code is strict. -/
def strict (f : Func) : Bool := f.info.strict
/-- The function with another name. -/
def rename (f : Func) (n : Option String) : Func :=
  match f with
  | .mk _ p r b i v s => .mk n p r b i v s
/-- The function with another kind. -/
def withKind (f : Func) (k : FuncKind) : Func :=
  match f with
  | .mk n p r b i v s => .mk n p r b { i with kind := k } v s

end Func

instance : Inhabited Func :=
  ⟨.mk none [] none [] ⟨.plain, false, false, false, 0, true, 0⟩ [] ""⟩

namespace Class

/-- The class's own name. -/
def name : Class → Option String | .mk n .. => n
/-- What the class extends. -/
def heritage : Class → Option Expr | .mk _ h .. => h
/-- The class's constructor as written. -/
def ctor : Class → Option Func | .mk _ _ c .. => c
/-- The class's other members. -/
def members : Class → List ClassMember | .mk _ _ _ m _ => m
/-- The class's source text. -/
def source : Class → String | .mk _ _ _ _ s => s

end Class

mutual

/-- The names a pattern binds, with their places, in order. -/
def Pattern.names : Pattern → List (String × Nat)
  | .name n place => [(n, place)]
  | .target .. => []
  | .array items rest => Pattern.itemNames items ++ Pattern.optNames rest
  | .object props rest => Pattern.propNames props ++ Pattern.optNames rest

/-- The names the items of an array pattern bind. -/
def Pattern.itemNames : List (Option (Pattern × Option Expr)) → List (String × Nat)
  | [] => []
  | none :: rest => Pattern.itemNames rest
  | some (p, _) :: rest => p.names ++ Pattern.itemNames rest

/-- The names the properties of an object pattern bind. -/
def Pattern.propNames : List (PropKey × Pattern × Option Expr) → List (String × Nat)
  | [] => []
  | (_, p, _) :: rest => p.names ++ Pattern.propNames rest

/-- The names an optional pattern binds. -/
def Pattern.optNames : Option Pattern → List (String × Nat)
  | none => []
  | some p => p.names

end

/-- Whether a pattern takes a value apart, rather than naming one place. -/
def Pattern.isComposite : Pattern → Bool
  | .array .. | .object .. => true
  | _ => false

namespace Declarator

/-- What the declarator binds. -/
def target : Declarator → Pattern | .mk t .. => t
/-- The names bound, with their places. -/
def names (d : Declarator) : List (String × Nat) := d.target.names
/-- Where the declarator starts. -/
def place : Declarator → Nat | .mk _ p _ => p
/-- The initializer. -/
def init : Declarator → Option Expr | .mk _ _ i => i

end Declarator

namespace Func

/-- The names the parameters bind, the rest parameter's last. -/
def paramNames (f : Func) : List String :=
  (f.params.flatMap fun (p, _) => p.names).map (·.1) ++ (Pattern.optNames f.rest).map (·.1)

end Func

mutual

/-- The names `var` declarations bind in a statement, not looking into nested functions. -/
def Stmt.varNames : Stmt → List String
  | .decl .var items => declNames items
  | .ifElse _ yes no => yes.varNames ++ optNames no
  | .block body => Stmt.listVarNames body
  | .whileLoop _ body => body.varNames
  | .doWhile body _ => body.varNames
  | .forLoop init _ _ body => optNames init ++ body.varNames
  | .forIn _ (some .var) target _ body => target.names.map (·.1) ++ body.varNames
  | .forIn _ _ _ _ body => body.varNames
  | .tryCatch body _ handler finalizer =>
    Stmt.listVarNames body ++ optListNames handler ++ optListNames finalizer
  | .switchOn _ cases => caseNames cases
  | .labeled _ body => body.varNames
  | .withObj _ body => body.varNames
  | _ => []

/-- The names `var` declarations bind in statements. -/
def Stmt.listVarNames : List Stmt → List String
  | [] => []
  | s :: rest => s.varNames ++ Stmt.listVarNames rest

/-- The names of declarators. -/
def declNames : List Declarator → List String
  | [] => []
  | d :: rest => d.names.map (·.1) ++ declNames rest

/-- The names `var` declarations bind in an optional statement. -/
def optNames : Option Stmt → List String
  | none => []
  | some s => s.varNames

/-- The names `var` declarations bind in optional statements. -/
def optListNames : Option (List Stmt) → List String
  | none => []
  | some ss => Stmt.listVarNames ss

/-- The names `var` declarations bind in the cases of a `switch`. -/
def caseNames : List Case → List String
  | [] => []
  | .mk _ body :: rest => Stmt.listVarNames body ++ caseNames rest

end

/-- Whether statements open with a directive making their code strict. -/
def strictPrologue : List Stmt → Bool
  | .expr (.str s) :: rest => s.text = "use strict" || strictPrologue rest
  | _ => false

/-- A whole script. -/
structure Program where
  body : List Stmt
  strict : Bool
  /-- The names its `var` declarations bind. -/
  vars : List String
  deriving Inhabited

end Script

end Userland
