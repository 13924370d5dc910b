import Userland.Script.Parser
import Userland.Script.Regex

namespace Userland

/-! # Early errors

A script that parses may still be refused before it runs. These are the
refusals, found by walking the syntax tree in the order its parts are
compiled:

* a name declared twice where that is not allowed. In each function (and in
  the script itself) the parameters, the `var` names and the functions
  declared at its top come first; then each `let`, `const` or class at its top
  must be new. A block, the cases of a `switch` and a `for` that declares
  `let` names each open a scope whose declarations must be new in it, and a
  `var` inside such a scope must not name one of them;
* a `const` without an initializer;
* in strict code: binding or assigning `eval` or `arguments`, deleting a bare
  name, and a function declared as the body of a label;
* a parameter named twice in strict code, in an arrow function, in a method
  or beside a default, a pattern or a rest parameter;
* a generator or an asynchronous function declared as the body of a label;
* `new.target` outside every function but arrows;
* a regular expression literal with wrong flags or a wrong pattern.

Functions declared at the top of a body are checked before its statements:
in the script before its declarations are bound, in a function after. The
first refusal found is the one reported.
-/

namespace Script

/-- Why a script is refused before it runs. -/
inductive EarlyError where
  | redeclared (name : String)
  | constWithoutInit
  | evalOrArguments
  | deleteName
  | duplicateParameter
  | newTargetOutside
  | labeledGenerator
  | labeledAsync
  | labeledStrictFunction
  | badFlags (flags : String)
  | badPattern (pattern message : String)
  deriving Inhabited

namespace EarlyError

/-- The text of a refusal. -/
def message : EarlyError → String
  | .redeclared name => "Identifier '" ++ name ++ "' has already been declared"
  | .constWithoutInit => "Missing initializer in const declaration"
  | .evalOrArguments => "Assignment to eval or arguments is not allowed in strict mode"
  | .deleteName => "Delete of an unqualified identifier in strict mode"
  | .duplicateParameter => "Duplicate parameter name not allowed in this context"
  | .newTargetOutside => "new.target expression is not allowed here"
  | .labeledGenerator => "Generators can only be declared at top level or inside a block."
  | .labeledAsync => "Async functions can only be declared at top level or inside a block."
  | .labeledStrictFunction => "In strict mode code, functions can only be declared at top level or inside a block."
  | .badFlags flags => "Invalid flags supplied to RegExp constructor '" ++ flags ++ "'"
  | .badPattern pattern msg => "Invalid regular expression: /" ++ pattern ++ "/: " ++ msg

/-- A name bound in a scope, and whether `var` bound it. -/
structure Bound where
  name : String
  isVar : Bool

/-- A scope while checking: what it binds, and whether it is a function's. -/
structure Frame where
  names : Array Bound
  function : Bool

/-- Where the walk stands: whether the code is strict, and whether a function
other than an arrow encloses it. -/
structure Context where
  strict : Bool
  inFunction : Bool

/-- A refusal found first, with the byte offset it is placed at (-1 when it has none). -/
abbrev Check := Except (Int × EarlyError)

/-- Refuses at a place. -/
def refuse (place : Int) (e : EarlyError) : Check α := .error (place, e)

/-- A name bound in strict code must not be `eval` or `arguments`. -/
def bindName (ctx : Context) (name : String) (place : Nat) : Check Unit :=
  if ctx.strict && (name == "eval" || name == "arguments") then refuse place .evalOrArguments
  else pure ()

/-- The names with places that statements declare for their own scope: `let`,
`const`, classes and, when `functions`, function declarations. -/
def lexicalNames (functions : Bool) (body : List Stmt) : List (String × Nat) :=
  body.flatMap fun
    | .decl .blockScoped items | .decl .const items => items.flatMap (·.names)
    | .func name place _ => if functions then [(name, place)] else []
    | .klass name place _ => [(name, place)]
    | _ => []

/-- The function a statement declares, looking through labels: its name, the
name's place, the function, and whether a label stood before it. -/
def declaredFunction (labeled : Bool) : Stmt → Option (String × Nat × Func × Bool)
  | .func name place f => some (name, place, f, labeled)
  | .labeled _ s => declaredFunction true s
  | _ => none

/-- The functions declared at the top of statements, with or without labels. -/
def hoisted (body : List Stmt) : List (String × Nat × Func × Bool) :=
  body.filterMap (declaredFunction false)

/-- Adds lexical names to a frame, failing at the first that is bound there already. -/
def addLexical (frame : Frame) (names : List (String × Nat)) : Check Frame := do
  let mut f := frame
  for (name, place) in names do
    if f.names.any (·.name == name) then refuse place (.redeclared name)
    f := { f with names := f.names.push ⟨name, false⟩ }
  return f

/-- A `var` may not name what a `let`, `const`, class or block function binds
in the blocks it stands in, up to its function. -/
def checkVar (stack : List Frame) (name : String) (place : Nat) : Check Unit := do
  for f in stack do
    if f.function then return
    if f.names.any fun b => b.name == name && !b.isVar then refuse place (.redeclared name)

/-- A regular expression literal must have known flags, each once, and a pattern that reads. -/
def regexLiteral (pattern flags : String) (place : Nat) : Check Unit :=
  match Regex.Flags.ofText flags with
  | none => refuse place (.badFlags flags)
  | some fl =>
    match Regex.Compiled.ofPattern pattern fl with
    | .error msg => refuse place (.badPattern pattern msg)
    | .ok _ => pure ()

/-- An assignment in strict code must not assign `eval` or `arguments`. -/
def assignTarget (ctx : Context) : Expr → Check Unit
  | .ident name place => bindName ctx name place
  | _ => pure ()

/-- Whether a function's parameters must be unique whatever the strictness:
all but plain functions. -/
def uniqueParams : FuncKind → Bool
  | .plain => false
  | _ => true

mutual

/-- Checks an expression. -/
def expr : Nat → Context → Expr → Check Unit
  | 0, _, _ => pure ()
  | fuel + 1, ctx, e => do
    match e with
    | .regex pattern flags place => regexLiteral pattern flags place
    | .template _ subs => for x in subs do expr fuel ctx x
    | .tagged tag _ _ subs _ =>
      expr fuel ctx tag
      for x in subs do expr fuel ctx x
    | .array items =>
      for item in items do
        match item with
        | some a => arg fuel ctx a
        | none => pure ()
    | .object members =>
      for m in members do
        match m with
        | .field key v _ =>
          propKey fuel ctx key
          expr fuel ctx v
        | .short _ _ init _ => if let some x := init then expr fuel ctx x
        | .method key _ f =>
          propKey fuel ctx key
          func fuel ctx f none
        | .spread x _ => expr fuel ctx x
    | .function f => func fuel ctx f none
    | .klass c => klass fuel ctx c
    | .unary .delete (.ident _ place) => if ctx.strict then refuse place .deleteName
    | .unary _ x => expr fuel ctx x
    | .update _ _ t =>
      assignTarget ctx t
      expr fuel ctx t
    | .assign _ t v | .assignLogical _ t v =>
      assignTarget ctx t
      expr fuel ctx t
      expr fuel ctx v
    | .destructure p v =>
      pattern fuel ctx false p
      expr fuel ctx v
    | .binary _ l r | .logical _ l r | .seq l r | .index l r _ =>
      expr fuel ctx l
      expr fuel ctx r
    | .cond a b c =>
      expr fuel ctx a
      expr fuel ctx b
      expr fuel ctx c
    | .member x _ _ | .privateMember x _ _ | .privateIn _ x | .chain x | .await x | .superIndex x =>
      expr fuel ctx x
    | .call callee args _ | .new callee args =>
      expr fuel ctx callee
      for a in args do arg fuel ctx a
    | .superCall args => for a in args do arg fuel ctx a
    | .yield x _ => if let some y := x then expr fuel ctx y
    | .newTarget => if !ctx.inFunction then refuse (-1) .newTargetOutside
    | _ => pure ()

/-- Checks an argument or array item. -/
def arg : Nat → Context → Arg → Check Unit
  | 0, _, _ => pure ()
  | fuel + 1, ctx, .plain x _ | fuel + 1, ctx, .spread x _ => expr fuel ctx x

/-- Checks a computed key. -/
def propKey : Nat → Context → PropKey → Check Unit
  | 0, _, _ => pure ()
  | fuel + 1, ctx, .computed x => expr fuel ctx x
  | _ + 1, _, .name _ => pure ()

/-- Checks a pattern: the names it binds when `binding`, the places it assigns
otherwise, and its defaults and computed keys. -/
def pattern : Nat → Context → Bool → Pattern → Check Unit
  | 0, _, _, _ => pure ()
  | fuel + 1, ctx, binding, p => do
    match p with
    | .name n place => if binding then bindName ctx n place
    | .target e _ =>
      assignTarget ctx e
      expr fuel ctx e
    | .array items rest =>
      for item in items do
        if let some (q, d) := item then
          pattern fuel ctx binding q
          if let some x := d then expr fuel ctx x
      if let some r := rest then pattern fuel ctx binding r
    | .object props rest =>
      for (k, q, d) in props do
        propKey fuel ctx k
        pattern fuel ctx binding q
        if let some x := d then expr fuel ctx x
      if let some r := rest then pattern fuel ctx binding r

/-- Checks a function, given its name and the name's place when it declares one. -/
def func : Nat → Context → Func → Option (String × Nat) → Check Unit
  | 0, _, _, _ => pure ()
  | fuel + 1, ctx, f, declared => do
    let strict := ctx.strict || f.strict
    let inner : Context := ⟨strict, if f.arrow then ctx.inFunction else true⟩
    if let some (n, place) := declared then bindName inner n place
    let unique := strict || !f.info.simple || uniqueParams f.info.kind
    let names := f.params.flatMap (fun (p, _) => p.names) ++ Pattern.optNames f.rest
    let mut seen : List String := []
    for (n, place) in names do
      bindName inner n place
      if unique && seen.contains n then refuse place .duplicateParameter
      seen := n :: seen
    for (p, d) in f.params do
      pattern fuel inner true p
      if let some x := d then expr fuel inner x
    if let some r := f.rest then pattern fuel inner true r
    body fuel inner f.paramNames f.vars f.body false

/-- Checks a class: its heritage, constructor and members, all strict code. -/
def klass : Nat → Context → Class → Check Unit
  | 0, _, _ => pure ()
  | fuel + 1, ctx, c => do
    let inner : Context := { ctx with strict := true }
    if let some h := c.heritage then expr fuel inner h
    if let some f := c.ctor then func fuel inner f none
    for m in c.members do
      match m with
      | .method _ key _ f =>
        if let .prop k := key then propKey fuel inner k
        func fuel inner f none
      | .field _ key init =>
        if let .prop k := key then propKey fuel inner k
        if let some x := init then expr fuel ⟨true, true⟩ x
      | .block ss vars => body fuel ⟨true, true⟩ [] vars ss false

/-- Checks the functions declared at the top of a body. -/
def functions : Nat → Context → List (String × Nat × Func × Bool) → Check Unit
  | 0, _, _ => pure ()
  | _ + 1, _, [] => pure ()
  | fuel + 1, ctx, (name, place, f, labeled) :: rest => do
    if labeled then
      if f.info.generator then refuse f.info.start .labeledGenerator
      if f.info.async then refuse f.info.start .labeledAsync
      if ctx.strict then refuse f.info.start .labeledStrictFunction
    func fuel ctx f (some (name, place))
    functions fuel ctx rest

/-- Checks the body of a function or of the script, given its parameters and
`var` names. -/
def body : Nat → Context → List String → List String → List Stmt → Bool → Check Unit
  | 0, _, _, _, _, _ => pure ()
  | fuel + 1, ctx, params, vars, ss, script => do
    let funcs := hoisted ss
    if script then functions fuel ctx funcs
    let top : Frame := ⟨(params ++ vars ++ funcs.map (·.1)).toArray.map (⟨·, true⟩), true⟩
    let top ← addLexical top (lexicalNames false ss)
    if !script then functions fuel ctx funcs
    stmts fuel ctx [top] ss

/-- Checks statements in a chain of scopes; the functions they declare were checked already. -/
def stmts : Nat → Context → List Frame → List Stmt → Check Unit
  | 0, _, _, _ => pure ()
  | fuel + 1, ctx, stack, ss => do
    for s in ss do
      if (declaredFunction false s).isNone then stmt fuel ctx stack s

/-- Checks a block: its scope, its functions, then its statements. -/
def block : Nat → Context → List Frame → List Stmt → Check Unit
  | 0, _, _, _ => pure ()
  | fuel + 1, ctx, stack, ss => do
    let frame ← addLexical ⟨#[], false⟩ (lexicalNames true ss)
    functions fuel ctx (hoisted ss)
    stmts fuel ctx (frame :: stack) ss

/-- Checks a declaration of names. -/
def decl : Nat → Context → List Frame → DeclKind → List Declarator → Check Unit
  | 0, _, _, _, _ => pure ()
  | _ + 1, _, _, _, [] => pure ()
  | fuel + 1, ctx, stack, kind, .mk target place init :: rest => do
    if kind == .var then
      for (name, at_) in target.names do checkVar stack name at_
    if kind == .const && init.isNone then refuse place .constWithoutInit
    pattern fuel ctx true target
    if let some x := init then expr fuel ctx x
    decl fuel ctx stack kind rest

/-- Checks a statement. -/
def stmt : Nat → Context → List Frame → Stmt → Check Unit
  | 0, _, _, _ => pure ()
  | fuel + 1, ctx, stack, s => do
    match s with
    | .expr e | .throwValue e => expr fuel ctx e
    | .decl kind items => decl fuel ctx stack kind items
    | .func name place f => functions fuel ctx [(name, place, f, false)]
    | .klass _ _ c => klass fuel ctx c
    | .returnWith e => if let some x := e then expr fuel ctx x
    | .ifElse test yes no =>
      expr fuel ctx test
      stmt fuel ctx stack yes
      if let some n := no then stmt fuel ctx stack n
    | .block ss => block fuel ctx stack ss
    | .whileLoop test b | .doWhile b test =>
      expr fuel ctx test
      stmt fuel ctx stack b
    | .forLoop init test update b =>
      let stack ← match init with
        | some (.decl .var items) => do
          decl fuel ctx stack .var items
          pure stack
        | some (.decl kind items) => do
          let frame ← addLexical ⟨#[], false⟩ (lexicalNames false [.decl kind items])
          decl fuel ctx (frame :: stack) kind items
          pure (frame :: stack)
        | some i => do
          stmt fuel ctx stack i
          pure stack
        | none => pure stack
      if let some t := test then expr fuel ctx t
      if let some u := update then expr fuel ctx u
      stmt fuel ctx stack b
    | .forIn _ kind target obj b =>
      expr fuel ctx obj
      match kind with
      | some .var =>
        for (name, at_) in target.names do checkVar stack name at_
        pattern fuel ctx true target
        stmt fuel ctx stack b
      | none =>
        pattern fuel ctx false target
        stmt fuel ctx stack b
      | some _ =>
        pattern fuel ctx true target
        stmt fuel ctx (⟨#[], false⟩ :: stack) b
    | .tryCatch b param handler finalizer =>
      block fuel ctx stack b
      if let some h := handler then
        let names := (Pattern.optNames param).map (·.1)
        let frame : Frame := ⟨names.toArray.map (⟨·, true⟩), false⟩
        if let some p := param then pattern fuel ctx true p
        block fuel ctx (frame :: stack) h
      if let some f := finalizer then block fuel ctx stack f
    | .switchOn disc cases =>
      expr fuel ctx disc
      let all := cases.flatMap fun (.mk _ ss) => ss
      let frame ← addLexical ⟨#[], false⟩ (lexicalNames true all)
      functions fuel ctx (hoisted all)
      for (.mk test ss) in cases do
        if let some t := test then expr fuel ctx t
        stmts fuel ctx (frame :: stack) ss
    | .labeled _ b =>
      match declaredFunction true b with
      | some d => functions fuel ctx [d]
      | none => stmt fuel ctx stack b
    | .withObj obj b =>
      expr fuel ctx obj
      stmt fuel ctx stack b
    | _ => pure ()

end

end EarlyError

/-- The first early error of a script, with the byte offset it is placed at. -/
def Program.earlyError? (p : Program) : Option (Int × EarlyError) :=
  match EarlyError.body 100000 ⟨p.strict, false⟩ [] p.vars p.body true with
  | .error e => some e
  | .ok () => none

end Script

end Userland
