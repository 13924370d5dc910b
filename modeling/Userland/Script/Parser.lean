import Userland.Script.Lexer
import Userland.Script.Syntax
import Userland.Script.Number

namespace Userland

/-! # Reading scripts

A recursive-descent parser over the scanner of `Script.Lexer`. It does not
stop at the first error: it records the error, skips ahead where the grammar
says so, and goes on, so that a script's report names its first error and
counts the others.

The rules for going on after an error are these. A token that was expected
and is missing is reported and the token in its place is passed over anyway.
A primary expression that cannot start, a bad name after a dot, and a bad
name in a declaration skip to the start of the next statement: the next
token that begins one of the statements `break`, `continue`, `for`, `if`,
`return`, `switch`, `var`, `do`, `try`, `with`, `while`, `throw` (or a `catch`
or `finally`), or the end of input. Skipping stops at once at such a token if
the parser moved since the last skip, and at most ten times without moving.

An array or object literal followed by `=` is read again as a pattern, and
a literal in a declaration or a parameter list as a binding pattern; a
parenthesised list followed by `=>` is read again from its `(` as the
parameters of an arrow function.

Every expression reader gives the expression and where it starts: errors
found later about an expression are placed there.
-/

namespace Script

namespace Parser

/-- The current token. -/
def current : Parse Tok := return (← get).tok

/-- Whether the current token is the punctuator `p`. -/
def isPunct (p : String) : Parse Bool := return (← get).tok == .punct p

/-- Whether the current token is the keyword `w`. -/
def isWord (w : String) : Parse Bool := return (← get).tok == .word w

/-- Where the current token starts. -/
def here : Parse Nat := return (← get).idx

/-- Where the token before the current one ends. -/
def lastEnd : Parse Nat := return (← get).prevEnd

/-- The flags where the parser stands. -/
def scope : Parse Flags := return (← get).flags

/-- Replaces the flags. -/
def setScope (f : Flags) : Parse Unit := modify fun s => { s with flags := f }

/-- Changes the flags. -/
def modifyScope (f : Flags → Flags) : Parse Unit := modify fun s => { s with flags := f s.flags }

/-- Runs `p` with changed flags and puts the old ones back after it. -/
def withScope {α : Type} (change : Flags → Flags) (p : Parse α) : Parse α := do
  let saved ← scope
  setScope (change saved)
  let r ← p
  setScope saved
  return r

/-- Reports a token as unexpected, at the current token; the end of input is
reported where the scanner stands. -/
def unexpected (t : Tok) : Parse Unit := do
  let s ← get
  match t with
  | .eof => error (← chrOffset) "Unexpected end of input"
  | .boolean | .null => error s.idx ("Unexpected token " ++ s.literal)
  | .ident => error s.idx "Unexpected identifier"
  | .reserved => error s.idx "Unexpected reserved word"
  | .escapedWord => error s.idx "Keyword must not contain escaped characters"
  | .number => error s.idx "Unexpected number"
  | .string => error s.idx "Unexpected string"
  | _ => error s.idx ("Unexpected token " ++ t.text)

/-- Expects the token `t`, reporting any other, and moves past whatever stands
there; gives where it stood. -/
def expect (t : Tok) : Parse Nat := do
  let s ← get
  if s.tok != t then unexpected s.tok
  next
  return s.idx

/-- Ends a statement that needs a semicolon: one written, one a line break
or the end of input stands for, or a closing `)` or `}` after it. -/
def semicolon : Parse Unit := do
  let s ← get
  if s.tok != .punct ")" && s.tok != .punct "\x7d" then
    if s.implicitSemicolon then modify fun s => { s with implicitSemicolon := false }
    else
      let _ ← expect (.punct ";")

/-- Ends an expression statement: like `semicolon`, and the end of input also
ends it. -/
def optionalSemicolon : Parse Unit := do
  let s ← get
  if s.tok == .punct ";" then next
  else if s.implicitSemicolon then modify fun s => { s with implicitSemicolon := false }
  else if s.tok != .eof && s.tok != .punct "\x7d" then
    let _ ← expect (.punct ";")

/-- The words where skipping to the next statement may stop. -/
def recoveryWords : List String :=
  ["break", "continue", "for", "if", "return", "switch", "var", "do", "try", "with", "while",
    "throw", "catch", "finally"]

/-- Skips tokens up to the start of a statement or the end of input. -/
def skipToStatement : Nat → Parse Unit
  | 0 => pure ()
  | fuel + 1 => do
    let s ← get
    match s.tok with
    | .eof => pure ()
    | .word w =>
      if recoveryWords.contains w then
        let at1 := s.idx + 1
        if at1 == s.recoverIdx && s.recoverCount < 10 then
          modify fun s => { s with recoverCount := s.recoverCount + 1 }
          return
        if at1 > s.recoverIdx then
          modify fun s => { s with recoverIdx := at1, recoverCount := 0 }
          return
      next
      skipToStatement fuel
    | _ =>
      next
      skipToStatement fuel

/-- Skips to the next statement after an error. -/
def nextStatement : Parse Unit := do
  let s ← get
  skipToStatement (s.chars.size - s.pos + 8)

/-- Reads the current token as a name where a keyword may be one. -/
def tokenToBindingId : Parse Unit := do
  let s ← get
  if ← isBindingId s.tok then modify fun s => { s with tok := .ident }

/-- The source text from a byte offset to the end of the last token. -/
def sourceFrom (start : Nat) : Parse String := do
  slice start (← lastEnd)

/-! ## Number literals -/

/-- How a number literal reads as a whole number with a base prefix (`0x`,
`0o`, `0b`, a leading `0` for octal) and separators: its value, too large for
64 bits, or no whole number at all. -/
inductive WholeRead where
  | value (n : Nat)
  | tooLarge
  | malformed

/-- The digits of a whole-number reading after their prefix, and their base. -/
def wholeDigits (cs : List Char) : Nat × List Char :=
  match cs with
  | '0' :: b :: rest =>
    if cs.length ≥ 3 && (b = 'b' || b = 'B') then (2, rest)
    else if cs.length ≥ 3 && (b = 'o' || b = 'O') then (8, rest)
    else if cs.length ≥ 3 && (b = 'x' || b = 'X') then (16, rest)
    else (8, b :: rest)
  | ['0'] => (8, [])
  | _ => (10, cs)

/-- Reads digits of a base into a whole number, stopping once it passes 64 bits. -/
def readWhole (base : Nat) : List Char → Nat → WholeRead
  | [], n => if n ≥ 2 ^ 63 then .tooLarge else .value n
  | c :: rest, n =>
    if c = '_' then readWhole base rest n
    else
      let d := digitValue c
      if d ≥ base then .malformed
      else
        let m := n * base + d
        if m ≥ 2 ^ 64 then .tooLarge else readWhole base rest m

/-- A decimal literal with separators as a float, when all of it is one. -/
def readDecimal (lit : String) : Option Float :=
  let cs := lit.toList
  match cs with
  | '0' :: b :: _ =>
    if b = 'x' || b = 'X' || b = 'o' || b = 'O' || b = 'b' || b = 'B' then none
    else whole (cs.filter (· ≠ '_'))
  | _ => whole (cs.filter (· ≠ '_'))
where
  whole (cs : List Char) : Option Float :=
    match Number.decimalPrefix cs with
    | some (x, []) => some x
    | _ => none

/-- A hexadecimal literal too large for 64 bits, accumulated digit by digit
in floating point; a separator makes it illegal. -/
def readLongHex (ds : List Char) : Option Float :=
  ds.foldlM (fun (acc : Float) c =>
    let d := digitValue c
    if d < 16 then some (acc * 16 + Float.ofNat d) else none) 0

/-- The value of a number literal as scanned, or why it is illegal. A whole
number below 2^63 is exact before it is rounded once; a literal that is not
one reads as a decimal; a hexadecimal one too large for 64 bits is summed in
floating point. -/
def numberValue (lit : String) : Except String Float :=
  let (base, ds) := wholeDigits lit.toList
  let whole := readWhole base ds 0
  match whole with
  | .value n => .ok (Float.ofNat n)
  | _ =>
    match readDecimal lit with
    | some x => .ok x
    | none =>
      match whole, lit.toList with
      | .tooLarge, '0' :: x :: rest =>
        if x = 'x' || x = 'X' then
          match readLongHex rest with
          | some v => .ok v
          | none => .error "Illegal numeric literal"
        else .error "Illegal numeric literal"
      | _, _ => .error "Illegal numeric literal"

/-- The value of a big integer literal as scanned, ending in `n`: its digits
after their base prefix, separators dropped. -/
def bigValue (lit : String) : Option Int :=
  match lit.toList.reverse with
  | 'n' :: rest =>
    let (base, ds) := wholeDigits (rest.reverse.filter (· ≠ '_'))
    let base := if ds.isEmpty then 10 else base
    if ds.all (fun c => digitValue c < base) then some (digitsValue base ds) else none
  | _ => none

/-- Whether a number literal as scanned is a big integer's. -/
def isBigLiteral (lit : String) : Bool := lit.endsWith "n"

/-- The key of a property named by a number. -/
def numberKey (x : Float) : Str := Str.ofString (Number.text x)

/-! ## Patterns read from literals -/

/-- What stands for a pattern that could not be read; it comes with an error. -/
def badPattern : Pattern := .target .bad 0

/-- Whether an expression names a place that can be assigned: a name, a
property or a private field. -/
def isSimpleTarget : Expr → Bool
  | .ident .. | .member .. | .index .. | .privateMember .. => true
  | _ => false

/-- The place where a spread item's `...` is taken to stand. -/
def spreadAt (at_ : Nat) : Nat := at_ - 3

mutual

/-- An array or object literal, name or property read as the target of an assignment. -/
def assignTarget : Nat → Expr → Nat → Parse Pattern
  | 0, _, _ => pure badPattern
  | fuel + 1, e, at_ => do
    match e with
    | .array items => assignArray fuel items [] none
    | .object members => assignObject fuel members [] none
    | _ =>
      if isSimpleTarget e then return .target e at_
      error at_ "Invalid destructuring assignment target"
      return badPattern
termination_by structural x => x

/-- An item of an array or object literal read as a target with its default. -/
def assignElement : Nat → Expr → Nat → Parse (Pattern × Option Expr)
  | 0, _, _ => pure (badPattern, none)
  | fuel + 1, e, at_ => do
    match e with
    | .assign none t v => return (← assignTarget fuel t at_, some v)
    | .destructure p v => return (p, some v)
    | .assign (some _) .. | .assignLogical .. =>
      error at_ "Invalid destructuring assignment target"
      return (badPattern, none)
    | _ => return (← assignTarget fuel e at_, none)
termination_by structural x => x

/-- The items of an array literal read as an array pattern for assignment. -/
def assignArray : Nat → List (Option Arg) → List (Option (Pattern × Option Expr)) → Option Pattern →
    Parse Pattern
  | 0, _, _, _ => pure badPattern
  | _ + 1, [], acc, rest => pure (.array acc.reverse rest)
  | fuel + 1, item :: more, acc, _ => do
    match item with
    | none => assignArray fuel more (none :: acc) none
    | some (.spread e at_) =>
      if !more.isEmpty then
        error (spreadAt at_) "Rest element must be last element"
        return badPattern
      let r ← assignTarget fuel e at_
      return .array acc.reverse (some r)
    | some (.plain e at_) =>
      let el ← assignElement fuel e at_
      assignArray fuel more (some el :: acc) none
termination_by structural x => x

/-- The members of an object literal read as an object pattern for assignment. -/
def assignObject : Nat → List Member → List (PropKey × Pattern × Option Expr) → Option Pattern →
    Parse Pattern
  | 0, _, _, _ => pure badPattern
  | _ + 1, [], acc, rest => pure (.object acc.reverse rest)
  | fuel + 1, m :: more, acc, _ => do
    match m with
    | .field key value at_ =>
      let (p, d) ← assignElement fuel value at_
      assignObject fuel more ((key, p, d) :: acc) none
    | .short name at_ init _ =>
      assignObject fuel more ((.name (Str.ofString name), .target (.ident name at_) at_, init) :: acc) none
    | .method _ _ f =>
      error f.info.start "Invalid destructuring assignment target"
      return badPattern
    | .spread e at_ =>
      if !more.isEmpty then
        error (spreadAt at_) "Rest element must be last element"
        return badPattern
      return .object acc.reverse (some (.target e at_))
termination_by structural x => x

end

/-- What takes the rest of an object or array: it must be a plain name. -/
def rebindRest : Nat → Pattern → Parse Pattern
  | 0, _ => pure badPattern
  | _ + 1, p => do
    match p with
    | .name .. => return p
    | .target (.ident name place) _ => return .name name place
    | .target _ at_ =>
      error at_ "Invalid binding rest"
      return badPattern
    | _ => return p

mutual

/-- An expression read as what a declaration or parameter binds. -/
def bindingOf : Nat → Expr → Nat → Parse Pattern
  | 0, _, _ => pure badPattern
  | fuel + 1, e, at_ => do
    match e with
    | .array items => bindArray fuel items [] none
    | .object members => bindObject fuel members [] none
    | .ident name place =>
      if !((← scope).allowAwait && name == "await") then return .name name place
      error at_ "Invalid destructuring binding target"
      return badPattern
    | _ =>
      error at_ "Invalid destructuring binding target"
      return badPattern
termination_by structural x => x

/-- An item read as a binding with its default. -/
def bindElement : Nat → Expr → Nat → Parse (Pattern × Option Expr)
  | 0, _, _ => pure (badPattern, none)
  | fuel + 1, e, at_ => do
    match e with
    | .assign none t v => return (← bindingOf fuel t at_, some v)
    | .destructure p v => return (← rebind fuel p, some v)
    | .assign (some _) .. | .assignLogical .. =>
      error at_ "Invalid destructuring assignment target"
      return (badPattern, none)
    | _ => return (← bindingOf fuel e at_, none)
termination_by structural x => x

/-- A pattern for assignment read again as a binding pattern. -/
def rebind : Nat → Pattern → Parse Pattern
  | 0, _ => pure badPattern
  | fuel + 1, p => do
    match p with
    | .name .. => return p
    | .target e at_ => bindingOf fuel e at_
    | .array items rest =>
      let items ← items.mapM fun
        | none => pure none
        | some (q, d) => do return some (← rebind fuel q, d)
      let rest ← match rest with
        | some r => some <$> rebindRest fuel r
        | none => pure none
      return .array items rest
    | .object props rest =>
      let props ← props.mapM fun (k, q, d) => do return (k, ← rebind fuel q, d)
      let rest ← match rest with
        | some r => some <$> rebindRest fuel r
        | none => pure none
      return .object props rest
termination_by structural x => x

/-- The items of an array literal read as an array binding pattern. -/
def bindArray : Nat → List (Option Arg) → List (Option (Pattern × Option Expr)) → Option Pattern →
    Parse Pattern
  | 0, _, _, _ => pure badPattern
  | _ + 1, [], acc, rest => pure (.array acc.reverse rest)
  | fuel + 1, item :: more, acc, _ => do
    match item with
    | none => bindArray fuel more (none :: acc) none
    | some (.spread e at_) =>
      if !more.isEmpty then
        error (spreadAt at_) "Rest element must be last element"
        return badPattern
      let r ← bindingOf fuel e at_
      return .array acc.reverse (some r)
    | some (.plain e at_) =>
      let el ← bindElement fuel e at_
      bindArray fuel more (some el :: acc) none
termination_by structural x => x

/-- The members of an object literal read as an object binding pattern. -/
def bindObject : Nat → List Member → List (PropKey × Pattern × Option Expr) → Option Pattern →
    Parse Pattern
  | 0, _, _, _ => pure badPattern
  | _ + 1, [], acc, rest => pure (.object acc.reverse rest)
  | fuel + 1, m :: more, acc, _ => do
    match m with
    | .field key value at_ =>
      let (p, d) ← bindElement fuel value at_
      bindObject fuel more ((key, p, d) :: acc) none
    | .short name at_ init _ =>
      bindObject fuel more ((.name (Str.ofString name), .name name at_, init) :: acc) none
    | .method _ _ f =>
      error f.info.start "Invalid destructuring binding target"
      return badPattern
    | .spread e at_ =>
      if !more.isEmpty then
        error (spreadAt at_) "Rest element must be last element"
        return badPattern
      match e with
      | .ident name place => return .object acc.reverse (some (.name name place))
      | _ =>
        error at_ "Invalid binding rest"
        return badPattern
termination_by structural x => x

end

/-! ## Functions -/

/-- The facts about a function literal from its parts. -/
def funcInfo (kind : FuncKind) (generator async strict : Bool) (params : List (Pattern × Option Expr))
    (rest : Option Pattern) (start : Nat) : FuncInfo :=
  { kind, generator, async, strict
    length := (params.takeWhile fun (_, d) => d.isNone).length
    simple := rest.isNone && params.all fun
      | (.name .., none) => true
      | _ => false
    start }

/-- A function literal from its parts and source text. -/
def makeFunc (name : Option String) (kind : FuncKind) (generator async forceStrict : Bool)
    (params : List (Pattern × Option Expr)) (rest : Option Pattern) (body : List Stmt) (start : Nat)
    (source : String) : Func :=
  let strict := forceStrict || strictPrologue body
  .mk name params rest body (funcInfo kind generator async strict params rest start)
    (Stmt.listVarNames body) source

/-- The flags of a fresh function body. -/
def bodyScope (async allowAwait allowYield : Bool) : Flags :=
  { allowIn := true, allowLet := false, inIteration := false, inSwitch := false, inFunction := true,
    inAsync := async, allowAwait, allowYield, inFuncParams := false, inClassField := false,
    labels := [] }

/-- A declarator as read: its target, where the target starts and ends, its
initializer and where that starts. -/
structure Binding where
  target : Pattern
  start : Nat
  stop : Nat
  init : Option Expr
  initAt : Nat

/-- What a property key read: a name or string, a number, a private name, a
computed key, or nothing after an error. -/
inductive KeyRead where
  | name (s : Str)
  | number (x : Float)
  | priv (name : String)
  | computed (e : Expr)
  | missing

/-- The property key a key read stands for. -/
def KeyRead.propKey : KeyRead → PropKey
  | .name s => .name s
  | .number x => .name (numberKey x)
  | .computed e => .computed e
  | .priv n => .name (Str.ofString n)
  | .missing => .name Str.empty

/-- The name a key read gives for the checks on `constructor` and `prototype`. -/
def KeyRead.text : KeyRead → String
  | .name s => s.text
  | .priv n => n
  | _ => ""

/-- What assigning with an operator does. -/
inductive AssignKind where
  | plain
  | compound (op : BinaryOp)
  | logical (op : LogicOp)

/-- The assignment an operator token makes. -/
def assignKind : Tok → Option AssignKind
  | .punct "=" => some .plain
  | .punct "+=" => some (.compound .add)
  | .punct "-=" => some (.compound .sub)
  | .punct "*=" => some (.compound .mul)
  | .punct "**=" => some (.compound .pow)
  | .punct "/=" => some (.compound .div)
  | .punct "%=" => some (.compound .rem)
  | .punct "&=" => some (.compound .bitAnd)
  | .punct "|=" => some (.compound .bitOr)
  | .punct "^=" => some (.compound .bitXor)
  | .punct "<<=" => some (.compound .shl)
  | .punct ">>=" => some (.compound .shr)
  | .punct ">>>=" => some (.compound .ushr)
  | .punct "&&=" => some (.logical .and)
  | .punct "||=" => some (.logical .or)
  | .punct "??=" => some (.logical .coalesce)
  | _ => none

/-- The operator of a binary level: 0 `|`, 1 `^`, 2 `&`, 3 equality, 5
shifts, 6 additive, 7 multiplicative. -/
def levelOp : Nat → Tok → Option BinaryOp
  | 0, .punct "|" => some .bitOr
  | 1, .punct "^" => some .bitXor
  | 2, .punct "&" => some .bitAnd
  | 3, .punct "==" => some .eq
  | 3, .punct "!=" => some .ne
  | 3, .punct "===" => some .strictEq
  | 3, .punct "!==" => some .strictNe
  | 5, .punct "<<" => some .shl
  | 5, .punct ">>" => some .shr
  | 5, .punct ">>>" => some .ushr
  | 6, .punct "+" => some .add
  | 6, .punct "-" => some .sub
  | 7, .punct "*" => some .mul
  | 7, .punct "/" => some .div
  | 7, .punct "%" => some .rem
  | _, _ => none

/-- The operator of a unary token. -/
def unaryOf : Tok → Option UnaryOp
  | .punct "+" => some .plus
  | .punct "-" => some .neg
  | .punct "!" => some .not
  | .punct "~" => some .bitNot
  | .word "delete" => some .delete
  | .word "void" => some .void
  | .word "typeof" => some .typeOf
  | _ => none

/-- Whether an expression is `a && b`. -/
def isAndExpr : Expr → Bool
  | .logical .and .. => true
  | _ => false

/-- Whether an expression is a unary operator other than `++` and `--`. -/
def isPlainUnary : Expr → Bool
  | .unary .. => true
  | _ => false

/-- Reports a mix of `??` with `||` or `&&`. -/
def mixedLogic (at_ : Nat) : Parse Unit :=
  error at_ "Logical expressions and coalesce expressions cannot be mixed. Wrap either by parentheses"

/-- Reads a name token. -/
def identifier : Parse (String × Nat) := do
  let s ← get
  next
  return (s.parsed.text, s.idx)

/-- Reads a regular expression literal; the current token is its `/` or `/=`. -/
def regexLiteral : Parse (Expr × Nat) := do
  let s ← get
  let start := s.idx
  let p ← placeOf (start + 1)
  modify fun s => { s with pos := p }
  let body ← scanRegexBody (s.chars.size - p + 2) false []
  if body.isNone then error start "Invalid regular expression: missing /"
  let pattern := body.getD ""
  let stop ← chrOffset
  modify fun s => { s with tokEnd := stop }
  let c ← chr
  if c.any fun c => isLineBreak c || isBlank c || c.toNat = 0x85 then
    next
    return (.regex pattern "" start, start)
  next
  let t ← get
  if t.tok == .ident then
    next
    return (.regex pattern t.literal start, start)
  return (.regex pattern "" start, start)

/-- Reads the pieces of a template literal after its opening backtick, up to
and past its closing one: the texts after escapes (none where an escape is
bad), the raw texts and the substitutions. In a literal without a tag a bad
escape is an error. -/
def templatePieces (tagged : Bool) (expr : Nat → Parse (Expr × Nat)) :
    Nat → List (Option Str) → List Str → List Expr → Parse (List (Option Str) × List Str × List Expr)
  | 0, cs, rs, es => pure (cs.reverse, rs.reverse, es.reverse)
  | fuel + 1, cs, rs, es => do
    let s ← get
    let piece ← scanTemplatePiece (s.chars.size - s.pos + 2)
    if piece.unterminated then error (← afterOffset) "Unexpected end of input"
    let cooked := match piece.cooked with
      | .ok v => some v
      | .error _ => none
    if !tagged then
      match piece.cooked with
      | .error m => error (← afterOffset) m
      | .ok _ => pure ()
    if !piece.unterminated then modify fun s => { s with insertSemicolon := true }
    let stop ← chrOffset
    modify fun s => { s with tokEnd := stop }
    next
    let cs := cooked :: cs
    let rs := Str.ofString piece.raw :: rs
    if piece.finished then return (cs.reverse, rs.reverse, es.reverse)
    let (e, _) ← expr fuel
    let t ← current
    if t != .punct "\x7d" then unexpected t
    templatePieces tagged expr fuel cs rs (e :: es)

/-- A name or private name after `.` or `?.`, the current token. -/
def dotMember (e : Expr) (optional : Bool) : Parse Expr := do
  next
  let s ← get
  if s.tok == .privateName then
    next
    return .privateMember e s.parsed.text optional
  if !s.tok.isId then
    let _ ← expect .ident
    nextStatement
    return .bad
  next
  return .member e s.parsed.text optional

/-- Reports the first array or object pattern declared without an initializer,
at the end of the pattern. -/
def ensurePatternInit (list : List Binding) : Parse Unit := do
  match list.find? fun d => d.target.isComposite && d.init.isNone with
  | some d => error d.stop "Missing initializer in destructuring declaration"
  | none => pure ()

/-- A declaration statement from declarators as read. -/
def declaration (kind : DeclKind) (list : List Binding) : Stmt :=
  .decl kind (list.map fun d => .mk d.target d.start d.init)

/-- A function declaration statement; without a name it is what error recovery leaves. -/
def functionDeclaration (name : Option (String × Nat)) (f : Func) : Stmt :=
  match name with
  | some (n, at_) => .func n at_ f
  | none => .bad

/-- `break` or `continue`, with or without a label. -/
def jump (isBreak : Bool) : Parse Stmt := do
  let what := if isBreak then "break" else "continue"
  let idx ← expect (.word what)
  let f ← scope
  let s ← get
  let mut semi := s.implicitSemicolon
  if s.tok == .punct ";" then
    semi := true
    next
  let allowed := f.inIteration || (isBreak && f.inSwitch)
  let illegal : Parse Stmt := do
    error idx ("Illegal " ++ what ++ " statement")
    nextStatement
    return .bad
  let s ← get
  if semi || s.tok == .punct "\x7d" then
    modify fun s => { s with implicitSemicolon := false }
    if !allowed then return ← illegal
    return if isBreak then .breakTo none else .continueTo none
  tokenToBindingId
  if (← current) == .ident then
    let (name, _) ← identifier
    if !f.labels.contains name then
      error idx ("Undefined label '" ++ name ++ "'")
      return .bad
    if !isBreak && !f.inIteration then return ← illegal
    semicolon
    return if isBreak then .breakTo (some name) else .continueTo (some name)
  let _ ← expect .ident
  illegal

mutual

/-- An expression with commas. -/
def expression : Nat → Parse (Expr × Nat)
  | 0 => pure (.bad, 0)
  | n + 1 => do
    let (left, at_) ← assignment n
    if ← isPunct "," then
      let e ← sequenceRest n left
      return (e, at_)
    return (left, at_)
termination_by structural x => x

/-- The rest of a comma expression. -/
def sequenceRest : Nat → Expr → Parse Expr
  | 0, e => pure e
  | n + 1, e => do
    if ← isPunct "," then
      next
      let (r, _) ← assignment n
      sequenceRest n (.seq e r)
    else pure e
termination_by structural x => x

/-- An assignment, an arrow function, `yield`, or a conditional expression. -/
def assignment : Nat → Parse (Expr × Nat)
  | 0 => pure (.bad, 0)
  | n + 1 => do
    let s ← get
    let start := s.idx
    let t := s.tok
    let mut parenthesis := false
    let mut async := false
    let mut state : Option Mark := none
    if t == .punct "(" then
      state := some (← mark)
      parenthesis := true
    else if t == .word "async" then
      let t2 ← peek
      if ← isBindingId t2 then
        next
        let (name, at_) ← identifier
        return ← arrow n start [(.name name at_, none)] none true
      else if t2 == .punct "(" then
        state := some (← mark)
        async := true
    else if t == .word "yield" && s.flags.allowYield then
      return ← yieldExpr n
    else
      if ← isBindingId t then
        if (← peek) == .punct "=>" then
          let (name, at_) ← identifier
          return ← arrow n start [(.name name at_, none)] none false
    let (left, leftAt) ← conditional n
    let s ← get
    if s.tok == .punct "=>" then
      match left with
      | .ident name at_ => return ← arrow n start [(.name name at_, none)] none async
      | _ =>
        if parenthesis then
          if let some m := state then restore m
          let (ps, rest) ← paramList n
          return ← arrow n start ps rest false
        if async then
          match left, state with
          | .call .., some m =>
            return ← withScope (fun f => { f with allowAwait := true }) do
              restore m
              next
              let (ps, rest) ← paramList n
              arrow n start ps rest true
          | _, _ => pure ()
        error leftAt "Malformed arrow function parameter list"
        return (.bad, leftAt)
    match assignKind s.tok with
    | none => return (left, leftAt)
    | some k =>
      let opAt := s.idx
      next
      if isSimpleTarget left then
        let (right, _) ← assignment n
        match k with
        | .plain => return (.assign none left right, leftAt)
        | .compound op => return (.assign (some op) left right, leftAt)
        | .logical op => return (.assignLogical op left right, leftAt)
      match left, k with
      | .array items, .plain =>
        if !parenthesis then
          let p ← assignTarget (n + 2) (.array items) leftAt
          let (right, _) ← assignment n
          return (.destructure p right, leftAt)
      | .object members, .plain =>
        if !parenthesis then
          let p ← assignTarget (n + 2) (.object members) leftAt
          let (right, _) ← assignment n
          return (.destructure p right, leftAt)
      | _, _ => pure ()
      error leftAt "Invalid left-hand side in assignment"
      nextStatement
      return (.bad, opAt)
termination_by structural x => x

/-- `yield` and what it yields. -/
def yieldExpr : Nat → Parse (Expr × Nat)
  | 0 => pure (.bad, 0)
  | n + 1 => do
    let idx ← expect (.word "yield")
    if (← scope).inFuncParams then error idx "Yield expression not allowed in formal parameter"
    let s ← get
    let mut delegate := false
    if !s.implicitSemicolon && s.tok == .punct "*" then
      delegate := true
      next
    let s ← get
    if !s.implicitSemicolon && s.tok != .punct ";" && s.tok != .punct "\x7d" && s.tok != .eof then
      let m ← mark
      let (e, _) ← assignment n
      match e with
      | .bad =>
        restore m
        return (.yield none delegate, idx)
      | _ => return (.yield (some e) delegate, idx)
    return (.yield none delegate, idx)
termination_by structural x => x

/-- The rest of an arrow function after its parameters: `=>` and its body. -/
def arrow : Nat → Nat → List (Pattern × Option Expr) → Option Pattern → Bool → Parse (Expr × Nat)
  | 0, start, _, _, _ => pure (.bad, start)
  | n + 1, start, ps, rest, async => do
    let _ ← expect (.punct "=>")
    if ← isPunct "\x7b" then
      let body ← functionBlock n async async false
      let src ← sourceFrom start
      return (.function (makeFunc none .arrow false async false ps rest body start src), start)
    let f ← scope
    let e ← if async != f.inAsync || async != f.allowAwait then
        withScope (fun f => { f with inAsync := async, allowAwait := async, allowYield := false })
          (assignment n)
      else assignment n
    let src ← sourceFrom start
    let body := [Stmt.returnWith (some e.1)]
    return (.function (makeFunc none .arrow false async false ps rest body start src), start)
termination_by structural x => x

/-- A conditional expression. -/
def conditional : Nat → Parse (Expr × Nat)
  | 0 => pure (.bad, 0)
  | n + 1 => do
    let (test, at_) ← logicalOr n
    if ← isPunct "?" then
      next
      let (yes, _) ← withScope (fun f => { f with allowIn := true }) (assignment n)
      let _ ← expect (.punct ":")
      let (no, _) ← assignment n
      return (.cond test yes no, at_)
    return (test, at_)
termination_by structural x => x

/-- `||` and `??` chains, which may not be mixed without parentheses. -/
def logicalOr : Nat → Parse (Expr × Nat)
  | 0 => pure (.bad, 0)
  | n + 1 => do
    let parenthesis ← isPunct "("
    let (left, at_) ← logicalAnd n
    if (← current) == .punct "||" || (!parenthesis && isAndExpr left) then
      let e ← orRest n left
      return (e, at_)
    let e ← coalesceRest n left
    return (e, at_)
termination_by structural x => x

/-- The rest of an `||` chain. -/
def orRest : Nat → Expr → Parse Expr
  | 0, e => pure e
  | n + 1, left => do
    let s ← get
    if s.tok == .punct "||" then
      next
      let (r, _) ← logicalAnd n
      orRest n (.logical .or left r)
    else
      if s.tok == .punct "??" then mixedLogic s.idx
      return left
termination_by structural x => x

/-- The rest of a `??` chain. -/
def coalesceRest : Nat → Expr → Parse Expr
  | 0, e => pure e
  | n + 1, left => do
    let s ← get
    if s.tok == .punct "??" then
      next
      let parenthesis ← isPunct "("
      let (r, _) ← logicalAnd n
      if !parenthesis && isAndExpr r then
        mixedLogic s.idx
        return left
      coalesceRest n (.logical .coalesce left r)
    else
      if s.tok == .punct "||" then mixedLogic s.idx
      return left
termination_by structural x => x

/-- An `&&` chain. -/
def logicalAnd : Nat → Parse (Expr × Nat)
  | 0 => pure (.bad, 0)
  | n + 1 => do
    let (left, at_) ← binary n 0
    let e ← andRest n left
    return (e, at_)
termination_by structural x => x

/-- The rest of an `&&` chain. -/
def andRest : Nat → Expr → Parse Expr
  | 0, e => pure e
  | n + 1, left => do
    if ← isPunct "&&" then
      next
      let (r, _) ← binary n 0
      andRest n (.logical .and left r)
    else pure left
termination_by structural x => x

/-- A binary expression of a level or higher: levels 0 to 7 as `levelOp`
numbers them, 4 the relational one, 8 and above powers. -/
def binary : Nat → Nat → Parse (Expr × Nat)
  | 0, _ => pure (.bad, 0)
  | n + 1, level =>
    if level = 4 then relational n
    else if level ≥ 8 then exponentiation n
    else do
      let (l, at_) ← binary n (level + 1)
      let e ← binaryRest n level l
      return (e, at_)
termination_by structural x => x

/-- The rest of a binary expression of one level, associating to the left. -/
def binaryRest : Nat → Nat → Expr → Parse Expr
  | 0, _, l => pure l
  | n + 1, level, l => do
    match levelOp level (← current) with
    | some op =>
      next
      let (r, _) ← binary n (level + 1)
      binaryRest n level (.binary op l r)
    | none => pure l
termination_by structural x => x

/-- A relational expression, or `#x in o`. Its right operands may use `in`. -/
def relational : Nat → Parse (Expr × Nat)
  | 0 => pure (.bad, 0)
  | n + 1 => do
    let s ← get
    if s.flags.allowIn && s.tok == .privateName then
      next
      if ← isWord "in" then
        next
        let (r, _) ← binary n 5
        return (.privateIn s.parsed.text r, s.idx)
      unexpected .privateName
      return (.bad, s.idx)
    let (left, at_) ← binary n 5
    let allowIn := (← scope).allowIn
    let e ← withScope (fun f => { f with allowIn := true }) (relationalRest n allowIn left)
    return (e, at_)
termination_by structural x => x

/-- The rest of a relational expression. -/
def relationalRest : Nat → Bool → Expr → Parse Expr
  | 0, _, l => pure l
  | n + 1, allowIn, left => do
    let op? : Option BinaryOp := match ← current with
      | .punct "<" => some .lt
      | .punct ">" => some .gt
      | .punct "<=" => some .le
      | .punct ">=" => some .ge
      | .word "instanceof" => some .instanceOf
      | .word "in" => if allowIn then some .isIn else none
      | _ => none
    match op? with
    | some op =>
      next
      let (r, _) ← binary n 5
      relationalRest n allowIn (.binary op left r)
    | none => pure left
termination_by structural x => x

/-- A power, associating to the right; a unary operator right before `**` is an error. -/
def exponentiation : Nat → Parse (Expr × Nat)
  | 0 => pure (.bad, 0)
  | n + 1 => do
    let parenthesis ← isPunct "("
    let (left, at_) ← unary n
    if ← isPunct "**" then
      if !parenthesis && isPlainUnary left then
        error (← here) ("Unary operator used immediately before exponentiation expression. " ++
          "Parenthesis must be used to disambiguate operator precedence")
      next
      let (r, _) ← exponentiation n
      return (.binary .pow left r, at_)
    return (left, at_)
termination_by structural x => x

/-- A unary expression: an operator, `++` or `--` before a target, `await`, or one with `++` or `--` after it. -/
def unary : Nat → Parse (Expr × Nat)
  | 0 => pure (.bad, 0)
  | n + 1 => do
    let s ← get
    match unaryOf s.tok with
    | some op =>
      next
      let (e, _) ← unary n
      return (.unary op e, s.idx)
    | none =>
      if s.tok == .punct "++" || s.tok == .punct "--" then
        next
        let (e, _) ← unary n
        if isSimpleTarget e then return (.update (s.tok == .punct "++") true e, s.idx)
        error s.idx "Invalid left-hand side in assignment"
        nextStatement
        return (.bad, s.idx)
      if s.tok == .word "await" && s.flags.allowAwait then
        next
        if !s.flags.inAsync then
          unexpected (.word "await")
          return (.bad, s.idx)
        if s.flags.inFuncParams then
          error s.idx "Illegal await-expression in formal parameters of async function"
        let (e, _) ← unary n
        return (.await e, s.idx)
      suffixed n
termination_by structural x => x

/-- A left-hand side expression with `++` or `--` after it on the same line. -/
def suffixed : Nat → Parse (Expr × Nat)
  | 0 => pure (.bad, 0)
  | n + 1 => do
    let (e, at_) ← leftHandSide n
    let s ← get
    if (s.tok == .punct "++" || s.tok == .punct "--") && !s.implicitSemicolon then
      next
      if isSimpleTarget e then return (.update (s.tok == .punct "++") false e, at_)
      error s.idx "Invalid left-hand side in assignment"
      nextStatement
      return (.bad, s.idx)
    return (e, at_)
termination_by structural x => x

/-- A primary or `new` expression followed by property accesses, calls,
tagged templates and optional chains. -/
def leftHandSide : Nat → Parse (Expr × Nat)
  | 0 => pure (.bad, 0)
  | n + 1 => withScope (fun f => { f with allowIn := true }) do
    let (left, at_) ← if ← isWord "new" then newExpr n else primary n
    let (e, chained) ← callTail n left false at_
    if chained then return (.chain e, at_)
    return (e, at_)
termination_by structural x => x

/-- Property accesses, calls and templates after an expression; whether a `?.` was among them. -/
def callTail : Nat → Expr → Bool → Nat → Parse (Expr × Bool)
  | 0, e, c, _ => pure (e, c)
  | n + 1, e, chained, start => do
    let s ← get
    match s.tok with
    | .punct "." =>
      let e' ← dotMember e false
      callTail n e' chained start
    | .punct "[" =>
      let e' ← bracketMember n e false
      callTail n e' chained start
    | .punct "(" =>
      let args ← argumentList n
      callTail n (.call e args false) chained start
    | .backtick =>
      if chained then
        error s.idx "Invalid template literal on optional chain"
        nextStatement
        return (.bad, false)
      let e' ← template n (some e)
      callTail n e' chained start
    | .punct "?." =>
      let t2 ← peek
      if t2 == .punct "[" then
        next
        let e' ← bracketMember n e true
        callTail n e' true start
      else if t2 == .punct "(" then
        next
        let args ← argumentList n
        callTail n (.call e args true) true start
      else if t2 == .backtick then
        next
        callTail n e true start
      else
        let e' ← dotMember e true
        callTail n e' true start
    | _ => pure (e, chained)
termination_by structural x => x

/-- A computed property access `[key]`. -/
def bracketMember : Nat → Expr → Bool → Parse Expr
  | 0, _, _ => pure .bad
  | n + 1, e, optional => do
    let _ ← expect (.punct "[")
    let (k, _) ← expression n
    let _ ← expect (.punct "]")
    return .index e k optional
termination_by structural x => x

/-- The arguments of a call, in parentheses. -/
def argumentList : Nat → Parse (List Arg)
  | 0 => pure []
  | n + 1 => do
    let _ ← expect (.punct "(")
    let args ← argItems n []
    let _ ← expect (.punct ")")
    return args
termination_by structural x => x

/-- The arguments of a call up to its `)`. -/
def argItems : Nat → List Arg → Parse (List Arg)
  | 0, acc => pure acc.reverse
  | n + 1, acc => do
    if ← isPunct ")" then return acc.reverse
    let item ← if ← isPunct "..." then do
        next
        let (e, at_) ← assignment n
        pure (Arg.spread e at_)
      else do
        let (e, at_) ← assignment n
        pure (Arg.plain e at_)
    if ← isPunct "," then
      next
      argItems n (item :: acc)
    else return (item :: acc).reverse
termination_by structural x => x

/-- `new` with its callee and arguments, or `new.target`. -/
def newExpr : Nat → Parse (Expr × Nat)
  | 0 => pure (.bad, 0)
  | n + 1 => do
    let idx ← expect (.word "new")
    if ← isPunct "." then
      next
      if (← get).literal == "target" then
        next
        return (.newTarget, idx)
      unexpected .ident
    let (callee, _) ← memberExpr n
    match callee with
    | .bad => return (.bad, idx)
    | _ =>
      if ← isPunct "(" then
        let args ← argumentList n
        return (.new callee args, idx)
      return (.new callee [], idx)
termination_by structural x => x

/-- A primary or `new` expression followed by property accesses and tagged
templates, but no calls: the callee of `new`. -/
def memberExpr : Nat → Parse (Expr × Nat)
  | 0 => pure (.bad, 0)
  | n + 1 => do
    let (left, at_) ← if ← isWord "new" then newExpr n else primary n
    let e ← memberTail n left
    return (e, at_)
termination_by structural x => x

/-- Property accesses and tagged templates after an expression. -/
def memberTail : Nat → Expr → Parse Expr
  | 0, e => pure e
  | n + 1, e => do
    match ← current with
    | .punct "." => memberTail n (← dotMember e false)
    | .punct "[" => memberTail n (← bracketMember n e false)
    | .backtick => memberTail n (← template n (some e))
    | _ => pure e
termination_by structural x => x

/-- A primary expression. -/
def primary : Nat → Parse (Expr × Nat)
  | 0 => pure (.bad, 0)
  | n + 1 => do
    let s ← get
    let idx := s.idx
    match s.tok with
    | .ident =>
      next
      return (.ident s.parsed.text idx, idx)
    | .null =>
      next
      return (.null, idx)
    | .boolean =>
      next
      return (.bool (s.parsed.text == "true"), idx)
    | .string =>
      next
      return (.str s.parsed, idx)
    | .number =>
      next
      if isBigLiteral s.literal then
        match bigValue s.literal with
        | some n => return (.bigint n, idx)
        | none =>
          error idx "Illegal numeric literal"
          return (.num 0, idx)
      match numberValue s.literal with
      | .ok x => return (.num x, idx)
      | .error m =>
        error idx m
        return (.num 0, idx)
    | .punct "/" | .punct "/=" => regexLiteral
    | .punct "\x7b" => objectLiteral n
    | .punct "[" => arrayLiteral n
    | .punct "(" => parenthesised n
    | .backtick =>
      let e ← template n none
      return (e, idx)
    | .word "this" =>
      next
      return (.this, idx)
    | .word "super" => superProperty n
    | .word "function" =>
      let (name, f) ← functionLit n false false idx
      return (.function (f.rename (name.map (·.1))), idx)
    | .word "class" =>
      let (_, c) ← classLit n false
      return (.klass c, idx)
    | _ =>
      if s.tok == .word "async" then
        if (← peek) == .word "function" then
          next
          let (name, f) ← functionLit n false true idx
          return (.function (f.rename (name.map (·.1))), idx)
      if ← isBindingId s.tok then
        next
        return (.ident s.parsed.text idx, idx)
      unexpected s.tok
      nextStatement
      return (.bad, idx)
termination_by structural x => x

/-- `super.x`, `super[k]` or `super(...)`. -/
def superProperty : Nat → Parse (Expr × Nat)
  | 0 => pure (.bad, 0)
  | n + 1 => do
    let idx ← here
    next
    match ← current with
    | .punct "." =>
      next
      let s ← get
      if !s.tok.isId then
        let _ ← expect .ident
        nextStatement
        return (.bad, idx)
      next
      return (.superMember s.parsed.text, idx)
    | .punct "[" =>
      next
      let (k, _) ← expression n
      let _ ← expect (.punct "]")
      return (.superIndex k, idx)
    | .punct "(" =>
      let args ← argumentList n
      return (.superCall args, idx)
    | _ =>
      error idx "'super' keyword unexpected here"
      nextStatement
      return (.bad, idx)
termination_by structural x => x

/-- A template literal, tagged when `tag` is given; the current token is its backtick. -/
def template : Nat → Option Expr → Parse Expr
  | 0, _ => pure .bad
  | n + 1, tag => do
    let site ← here
    let (cooked, raw, subs) ← templatePieces tag.isSome (fun _ => expression n) n [] [] []
    match tag with
    | some t => return .tagged t cooked raw subs site
    | none => return .template (cooked.map (·.getD Str.empty)) subs
termination_by structural x => x

/-- A parenthesised expression; a list of several is a comma expression. -/
def parenthesised : Nat → Parse (Expr × Nat)
  | 0 => pure (.bad, 0)
  | n + 1 => do
    let opening ← expect (.punct "(")
    let items ← if ← isPunct ")" then pure [] else parenItems n []
    let _ ← expect (.punct ")")
    match items with
    | [] =>
      unexpected (.punct ")")
      return (.bad, opening)
    | [(e, at_)] =>
      if (← get).errors.isEmpty then return (e, at_)
      return (.seq e .bad, at_)
    | (e, at_) :: rest => return (rest.foldl (fun acc x => .seq acc x.1) e, at_)
termination_by structural x => x

/-- The expressions in parentheses, separated by commas. -/
def parenItems : Nat → List (Expr × Nat) → Parse (List (Expr × Nat))
  | 0, acc => pure acc.reverse
  | n + 1, acc => do
    let item ← if ← isPunct "..." then do
        let start ← here
        unexpected (.punct "...")
        next
        let _ ← assignment n
        pure (Expr.bad, start)
      else assignment n
    if !(← isPunct ",") then return (item :: acc).reverse
    next
    if ← isPunct ")" then
      unexpected (.punct ")")
      return (item :: acc).reverse
    parenItems n (item :: acc)
termination_by structural x => x

/-- An array literal. -/
def arrayLiteral : Nat → Parse (Expr × Nat)
  | 0 => pure (.bad, 0)
  | n + 1 => do
    let idx0 ← expect (.punct "[")
    let items ← arrayItems n []
    let _ ← expect (.punct "]")
    return (.array items, idx0)
termination_by structural x => x

/-- The items of an array literal, holes as `none`. -/
def arrayItems : Nat → List (Option Arg) → Parse (List (Option Arg))
  | 0, acc => pure acc.reverse
  | n + 1, acc => do
    let t ← current
    if t == .punct "]" || t == .eof then return acc.reverse
    if t == .punct "," then
      next
      return ← arrayItems n (none :: acc)
    let item ← if t == .punct "..." then do
        next
        let (e, at_) ← assignment n
        pure (Arg.spread e at_)
      else do
        let (e, at_) ← assignment n
        pure (Arg.plain e at_)
    if !(← isPunct "]") then
      let _ ← expect (.punct ",")
    arrayItems n (some item :: acc)
termination_by structural x => x

/-- An object literal. -/
def objectLiteral : Nat → Parse (Expr × Nat)
  | 0 => pure (.bad, 0)
  | n + 1 => do
    let idx0 ← expect (.punct "\x7b")
    let members ← objectMembers n []
    let _ ← expect (.punct "\x7d")
    return (.object members, idx0)
termination_by structural x => x

/-- The members of an object literal. -/
def objectMembers : Nat → List Member → Parse (List Member)
  | 0, acc => pure acc.reverse
  | n + 1, acc => do
    let t ← current
    if t == .punct "\x7d" || t == .eof then return acc.reverse
    let m ← objectProperty n
    let acc := match m with
      | some m => m :: acc
      | none => acc
    if ← isPunct "\x7d" then return acc.reverse
    let _ ← expect (.punct ",")
    objectMembers n acc
termination_by structural x => x

/-- A property key: a name, string, number, private name or `[expr]`. Gives
the key's source text, what it read, its token and where it starts. -/
def propertyKey : Nat → Parse (String × KeyRead × Tok × Nat)
  | 0 => pure ("", .missing, .illegal, 0)
  | n + 1 => do
    if ← isPunct "[" then
      next
      let (e, at_) ← assignment n
      let _ ← expect (.punct "]")
      return ("", .computed e, .illegal, at_)
    let s ← get
    next
    match s.tok with
    | .ident | .string | .reserved | .escapedWord => return (s.literal, .name s.parsed, s.tok, s.idx)
    | .number =>
      if isBigLiteral s.literal then
        match bigValue s.literal with
        | some n => return (s.literal, .name (Str.ofString (toString n)), s.tok, s.idx)
        | none =>
          error s.idx "Illegal numeric literal"
          return (s.literal, .missing, s.tok, s.idx)
      match numberValue s.literal with
      | .ok x => return (s.literal, .number x, s.tok, s.idx)
      | .error m =>
        error s.idx m
        return (s.literal, .missing, s.tok, s.idx)
    | .privateName => return (s.literal, .priv s.parsed.text, s.tok, s.idx)
    | t =>
      if t.isId then return (s.literal, .name (Str.ofString s.literal), t, s.idx)
      unexpected t
      return (s.literal, .missing, t, s.idx)
termination_by structural x => x

/-- A member of an object literal. -/
def objectProperty : Nat → Parse (Option Member)
  | 0 => pure none
  | n + 1 => do
    if ← isPunct "..." then
      next
      let (e, at_) ← assignment n
      return some (.spread e at_)
    let keyStart ← here
    let generator ← isPunct "*"
    if generator then next
    let (literal, key, tkn, keyAt) ← propertyKey n
    if let .missing := key then return none
    if tkn.isId || tkn == .string || tkn == .number || tkn == .illegal then
      if generator then
        let f ← methodDef n keyStart .method true false false
        return some (.method key.propKey .method f)
      let t ← current
      if t == .punct "(" then
        let f ← methodDef n keyStart .method false false false
        return some (.method key.propKey .method f)
      if t == .punct "," || t == .punct "\x7d" || t == .punct "=" then
        if ← isBindingId tkn then
          if t == .punct "=" then
            next
            let (e, at_) ← assignment n
            return some (.short key.text keyAt (some e) at_)
          return some (.short key.text keyAt none keyAt)
        unexpected t
      else if (literal == "get" || literal == "set" || tkn == .word "async") && t != .punct ":" then
        let (_, key2, _, _) ← propertyKey n
        if let .missing := key2 then return none
        let kind : MethodKind :=
          if tkn == .word "async" then .method else if literal == "get" then .getter else .setter
        let f ← methodDef n keyStart kind false (tkn == .word "async") false
        return some (.method key2.propKey kind f)
    let _ ← expect (.punct ":")
    let (e, at_) ← assignment n
    return some (.field key.propKey e at_)
termination_by structural x => x

/-- The parameters and body of a method, getter or setter; `start` is where
its source text starts. -/
def methodDef : Nat → Nat → MethodKind → Bool → Bool → Bool → Parse Func
  | 0, _, _, _, _, _ => pure default
  | n + 1, start, kind, generator, async, inClass => do
    let idx1 ← here
    let (ps, rest, body) ← withScope (fun f => { f with allowYield := generator, allowAwait := async }) do
      let (ps, rest) ← paramList n
      match kind with
      | .getter =>
        if !ps.isEmpty || rest.isSome then error idx1 "Getter must not have any formal parameters."
      | .setter =>
        if ps.length != 1 || rest.isSome then error idx1 "Setter must have exactly one formal parameter."
      | .method => pure ()
      let body ← functionBlock n async async generator
      return (ps, rest, body)
    let src ← sourceFrom start
    let fk : FuncKind := match kind with
      | .method => .method
      | .getter => .getter
      | .setter => .setter
    return makeFunc none fk generator async inClass ps rest body start src
termination_by structural x => x

/-- A parameter list in parentheses: the parameters with their defaults, and the rest parameter. -/
def paramList : Nat → Parse (List (Pattern × Option Expr) × Option Pattern)
  | 0 => pure ([], none)
  | n + 1 => do
    let _ ← expect (.punct "(")
    let wasIn := (← scope).inFuncParams
    if !wasIn then modifyScope fun f => { f with inFuncParams := true }
    let r ← paramItems n []
    let _ ← expect (.punct ")")
    if !wasIn then modifyScope fun f => { f with inFuncParams := false }
    return r
termination_by structural x => x

/-- The parameters up to the `)`. -/
def paramItems : Nat → List (Pattern × Option Expr) → Parse (List (Pattern × Option Expr) × Option Pattern)
  | 0, acc => pure (acc.reverse, none)
  | n + 1, acc => do
    let t ← current
    if t == .punct ")" || t == .eof then return (acc.reverse, none)
    if t == .punct "..." then
      next
      let (e, at_) ← assignment n
      let p ← bindingOf (n + 2) e at_
      return (acc.reverse, some p)
    let d ← declarator n
    if !(← isPunct ")") then
      let _ ← expect (.punct ",")
    paramItems n ((d.target, d.init) :: acc)
termination_by structural x => x

/-- A binding target with its initializer. -/
def declarator : Nat → Parse Binding
  | 0 => pure ⟨badPattern, 0, 0, none, 0⟩
  | n + 1 => do
    let start ← here
    let target ← bindingTarget n
    let stop ← lastEnd
    if ← isPunct "=" then
      next
      let (e, at_) ← assignment n
      return ⟨target, start, stop, some e, at_⟩
    return ⟨target, start, stop, none, 0⟩
termination_by structural x => x

/-- Declarators separated by commas. -/
def declarators : Nat → List Binding → Parse (List Binding)
  | 0, acc => pure acc.reverse
  | n + 1, acc => do
    let d ← declarator n
    if ← isPunct "," then
      next
      declarators n (d :: acc)
    else return (d :: acc).reverse
termination_by structural x => x

/-- What a declaration or parameter binds: a name, or an array or object pattern. -/
def bindingTarget : Nat → Parse Pattern
  | 0 => pure badPattern
  | n + 1 => do
    tokenToBindingId
    let s ← get
    match s.tok with
    | .ident =>
      next
      return .name s.parsed.text s.idx
    | .punct "[" =>
      let (e, at_) ← arrayLiteral n
      bindingOf (n + 2) e at_
    | .punct "\x7b" =>
      let (e, at_) ← objectLiteral n
      bindingOf (n + 2) e at_
    | _ =>
      let _ ← expect .ident
      nextStatement
      return badPattern
termination_by structural x => x

/-- A function's body in braces, read with the flags of a new function. -/
def functionBlock : Nat → Bool → Bool → Bool → Parse (List Stmt)
  | 0, _, _, _ => pure []
  | n + 1, async, allowAwait, allowYield => do
    let saved ← scope
    setScope (bodyScope async allowAwait allowYield)
    let body ← block n
    setScope saved
    return body
termination_by structural x => x

/-- A function declaration or expression from its `function` keyword: its
name with where it stands, and the function. -/
def functionLit : Nat → Bool → Bool → Nat → Parse (Option (String × Nat) × Func)
  | 0, _, _, _ => pure (none, default)
  | n + 1, declaration, async, start => do
    let _ ← expect (.word "function")
    let generator ← isPunct "*"
    if generator then next
    let outer ← scope
    if !declaration then setScope { outer with allowAwait := async, allowYield := generator }
    tokenToBindingId
    let s ← get
    let name ← if s.tok == .ident then do
        next
        pure (some (s.parsed.text, s.idx))
      else do
        if declaration then
          let _ ← expect .ident
        pure none
    if declaration then modifyScope fun f => { f with allowAwait := async, allowYield := generator }
    let (ps, rest) ← paramList n
    let body ← functionBlock n async async generator
    setScope outer
    let src ← sourceFrom start
    return (name, makeFunc (name.map (·.1)) .plain generator async false ps rest body start src)
termination_by structural x => x

/-- A class declaration or expression from its `class` keyword: its name with
where it stands, and the class. -/
def classLit : Nat → Bool → Parse (Option (String × Nat) × Class)
  | 0, _ => pure (none, .mk none none none [] "")
  | n + 1, declaration => do
    let s ← get
    if !s.flags.allowLet && s.tok == .word "class" then unexpected (.word "class")
    let start ← expect (.word "class")
    tokenToBindingId
    let s ← get
    let name ← if s.tok == .ident then do
        next
        pure (some (s.parsed.text, s.idx))
      else do
        if declaration then
          let _ ← expect .ident
        pure none
    let heritage ← if ← isPunct "\x7b" then pure none
      else do
        let _ ← expect (.word "extends")
        let (e, _) ← leftHandSide n
        pure (some e)
    let _ ← expect (.punct "\x7b")
    let members ← classMembers n heritage.isSome []
    let rb ← expect (.punct "\x7d")
    let src ← slice start (rb + 1)
    let isCtor : ClassMember → Bool := fun
      | .method false (.prop (.name k)) .method _ => k.text == "constructor"
      | _ => false
    let ctor := (members.find? isCtor).bind fun
      | .method _ _ _ f => some f
      | _ => none
    let others := match members.findIdx? isCtor with
      | some i => members.eraseIdx i
      | none => members
    return (name, .mk (name.map (·.1)) heritage ctor others src)
termination_by structural x => x

/-- The members of a class body up to its `}`. -/
def classMembers : Nat → Bool → List ClassMember → Parse (List ClassMember)
  | 0, _, acc => pure acc.reverse
  | n + 1, derived, acc => do
    let t ← current
    if t == .punct "\x7d" || t == .eof then return acc.reverse
    if t == .punct ";" then
      next
      return ← classMembers n derived acc
    let mut static := false
    if t == .word "static" then
      let t2 ← peek
      if !(t2 == .punct "=" || t2 == .punct ";" || t2 == .punct "\x7d" || t2 == .punct "(") then
        next
        if ← isPunct "\x7b" then
          let body ← functionBlock n false true false
          return ← classMembers n derived (.block body (Stmt.listVarNames body) :: acc)
        static := true
    let mut kind : Option MethodKind := none
    let mut async := false
    let methodStart ← here
    let s ← get
    if s.literal == "get" || s.literal == "set" then
      let t2 ← peek
      if t2 != .punct ";" && t2 != .punct "(" then
        kind := some (if s.literal == "get" then .getter else .setter)
        next
    else if s.tok == .word "async" then
      let t2 ← peek
      if t2 != .punct ";" && t2 != .punct "(" then
        async := true
        kind := some .method
        next
    let mut generator := false
    if ← isPunct "*" then
      if kind.isNone || kind == some .method then
        generator := true
        kind := some .method
        next
    let (_, key, _, keyAt) ← propertyKey n
    if let .missing := key then return ← classMembers n derived acc
    let computed := match key with
      | .computed _ => true
      | _ => false
    let priv := match key with
      | .priv _ => true
      | _ => false
    let classKey : ClassKey := match key with
      | .priv p => .priv p
      | k => .prop k.propKey
    if static && !priv && key.text == "prototype" then
      error keyAt "Classes may not have a static property named 'prototype'"
    if kind.isNone then
      if ← isPunct "(" then kind := some .method
    match kind with
    | some k =>
      if key.text == "constructor" && !computed then
        if !static then
          if k != .method then error keyAt "Class constructor may not be an accessor"
          else if async then error keyAt "Class constructor may not be an async method"
          else if generator then error keyAt "Class constructor may not be a generator"
        else if priv then error keyAt "Class constructor may not be a private method"
      let f ← methodDef n methodStart k generator async true
      let f := if !static && !computed && !priv && k == .method && key.text == "constructor" then
          f.withKind (.classCtor derived) else f
      classMembers n derived (.method static classKey k f :: acc)
    | none =>
      if (!computed && key.text == "constructor") then
        error keyAt "Classes may not have a field named 'constructor'"
      let init ← if ← isPunct "=" then do
          next
          let (e, _) ← assignment n
          pure (some e)
        else pure none
      let s ← get
      if !s.implicitSemicolon && s.tok != .punct ";" && s.tok != .punct "\x7d" then
        unexpected s.tok
        return (.field static classKey init :: acc).reverse
      classMembers n derived (.field static classKey init :: acc)
termination_by structural x => x

/-- A block in braces. -/
def block : Nat → Parse (List Stmt)
  | 0 => pure []
  | n + 1 => do
    let _ ← expect (.punct "\x7b")
    let body ← statementList n []
    let _ ← expect (.punct "\x7d")
    return body
termination_by structural x => x

/-- Statements up to a `}` or the end of input. -/
def statementList : Nat → List Stmt → Parse (List Stmt)
  | 0, acc => pure acc.reverse
  | n + 1, acc => do
    let t ← current
    if t == .punct "\x7d" || t == .eof then return acc.reverse
    modifyScope fun f => { f with allowLet := true }
    let st ← statement n
    statementList n (st :: acc)
termination_by structural x => x

/-- A statement. -/
def statement : Nat → Parse Stmt
  | 0 => pure .bad
  | n + 1 => do
    let s ← get
    match s.tok with
    | .eof =>
      unexpected .eof
      return .bad
    | .punct ";" =>
      next
      return .empty
    | .punct "\x7b" => return .block (← block n)
    | .word "if" => ifStatement n
    | .word "do" => doWhile n
    | .word "while" => whileStatement n
    | .word "for" => forStatement n
    | .word "break" => jump true
    | .word "continue" => jump false
    | .word "debugger" =>
      next
      semicolon
      return .empty
    | .word "with" => withStatement n
    | .word "var" =>
      next
      let list ← declarators n []
      ensurePatternInit list
      semicolon
      return declaration .var list
    | .word "const" => lexical n .const
    | .word "function" =>
      let (name, f) ← functionLit n true false s.idx
      return functionDeclaration name f
    | .word "class" =>
      let (name, c) ← classLit n true
      match name with
      | some (nm, at_) => return .klass nm at_ c
      | none => return .bad
    | .word "switch" => switchStatement n
    | .word "return" => returnStatement n
    | .word "throw" => throwStatement n
    | .word "try" => tryStatement n
    | _ =>
      if s.tok == .word "let" then
        let t2 ← peek
        if t2 == .punct "[" || (s.flags.allowLet && (t2.isId || t2 == .punct "\x7b")) then
          return ← lexical n .blockScoped
        modify fun s => { s with insertSemicolon := true }
      if s.tok == .word "async" then
        if (← peek) == .word "function" then
          next
          let (name, f) ← functionLit n true true s.idx
          return functionDeclaration name f
      expressionStatement n
termination_by structural x => x

/-- An expression statement or, after a name and `:`, a labelled statement. -/
def expressionStatement : Nat → Parse Stmt
  | 0 => pure .bad
  | n + 1 => do
    let (e, at_) ← expression n
    if let .ident name _ := e then
      if ← isPunct ":" then
        next
        let f ← scope
        if f.labels.contains name then error at_ ("Label '" ++ name ++ "' already exists")
        let body ← withScope (fun f => { f with labels := f.labels ++ [name], allowLet := false })
          (statement n)
        return .labeled name body
    optionalSemicolon
    return .expr e
termination_by structural x => x

/-- A `let` or `const` declaration. -/
def lexical : Nat → DeclKind → Parse Stmt
  | 0, _ => pure .bad
  | n + 1, kind => do
    let s ← get
    let idx ← expect s.tok
    if !s.flags.allowLet then error idx "Lexical declaration cannot appear in a single-statement context"
    let list ← declarators n []
    ensurePatternInit list
    semicolon
    return declaration kind list
termination_by structural x => x

/-- `if` with its branches. -/
def ifStatement : Nat → Parse Stmt
  | 0 => pure .bad
  | n + 1 => do
    let _ ← expect (.word "if")
    let _ ← expect (.punct "(")
    let (test, _) ← expression n
    let _ ← expect (.punct ")")
    let yes ← if ← isPunct "\x7b" then do pure (Stmt.block (← block n))
      else do
        modifyScope fun f => { f with allowLet := false }
        statement n
    if ← isWord "else" then
      next
      modifyScope fun f => { f with allowLet := false }
      let no ← statement n
      return .ifElse test yes (some no)
    return .ifElse test yes none
termination_by structural x => x

/-- The body of a loop. -/
def loopBody : Nat → Parse Stmt
  | 0 => pure .bad
  | n + 1 => withScope (fun f => { f with inIteration := true, allowLet := false }) (statement n)
termination_by structural x => x

/-- `do ... while (...)`. -/
def doWhile : Nat → Parse Stmt
  | 0 => pure .bad
  | n + 1 => do
    let body ← withScope (fun f => { f with inIteration := true }) do
      let _ ← expect (.word "do")
      if ← isPunct "\x7b" then pure (Stmt.block (← block n))
      else
        modifyScope fun f => { f with allowLet := false }
        statement n
    let _ ← expect (.word "while")
    let _ ← expect (.punct "(")
    let (test, _) ← expression n
    let _ ← expect (.punct ")")
    if ← isPunct ";" then next
    return .doWhile body test
termination_by structural x => x

/-- `while (...) body`. -/
def whileStatement : Nat → Parse Stmt
  | 0 => pure .bad
  | n + 1 => do
    let _ ← expect (.word "while")
    let _ ← expect (.punct "(")
    let (test, _) ← expression n
    let _ ← expect (.punct ")")
    let body ← loopBody n
    return .whileLoop test body
termination_by structural x => x

/-- `with (o) body`. -/
def withStatement : Nat → Parse Stmt
  | 0 => pure .bad
  | n + 1 => do
    let _ ← expect (.word "with")
    let _ ← expect (.punct "(")
    let (obj, _) ← expression n
    let _ ← expect (.punct ")")
    modifyScope fun f => { f with allowLet := false }
    let body ← statement n
    return .withObj obj body
termination_by structural x => x

/-- A `for` loop of any of its forms. -/
def forStatement : Nat → Parse Stmt
  | 0 => pure .bad
  | n + 1 => do
    let _ ← expect (.word "for")
    let _ ← expect (.punct "(")
    if ← isPunct ";" then
      next
      return ← forRest n none
    let allowIn := (← scope).allowIn
    modifyScope fun f => { f with allowIn := false }
    let mut tok ← current
    if tok == .word "let" then
      let t2 ← peek
      if !(t2 == .ident || t2 == .punct "[" || t2 == .punct "\x7b") then tok := .ident
    if tok == .word "var" || tok == .word "let" || tok == .word "const" then
      next
      let kind : DeclKind :=
        if tok == .word "var" then .var else if tok == .word "let" then .blockScoped else .const
      let list ← declarators n []
      let mut each : Option Bool := none
      if list.length == 1 then
        if ← isWord "in" then
          next
          each := some false
        else
          let s ← get
          if s.tok == .ident && s.literal == "of" then
            next
            each := some true
      match each, list with
      | some isOf, [d] =>
        if d.init.isSome then
          error d.initAt "for-in loop variable declaration may not have an initializer."
        modifyScope fun f => { f with allowIn := allowIn }
        forInRest n isOf (some kind) d.target
      | _, _ =>
        if kind != .var then ensurePatternInit list
        modifyScope fun f => { f with allowIn := allowIn }
        let _ ← expect (.punct ";")
        forRest n (some (declaration kind list))
    else
      let (e, at_) ← expression n
      let mut each : Option Bool := none
      if ← isWord "in" then
        next
        each := some false
      else
        let s ← get
        if s.tok == .ident && s.literal == "of" then
          next
          each := some true
      match each with
      | some isOf =>
        let isLiteral := match e with
          | .array _ | .object _ => true
          | _ => false
        if !isLiteral && !isSimpleTarget e then
          error at_ "Invalid left-hand side in for-in or for-of"
          nextStatement
          return .bad
        let target ← if isLiteral then assignTarget (n + 2) e at_ else pure (.target e at_)
        modifyScope fun f => { f with allowIn := allowIn }
        forInRest n isOf none target
      | none =>
        modifyScope fun f => { f with allowIn := allowIn }
        let _ ← expect (.punct ";")
        forRest n (some (.expr e))
termination_by structural x => x

/-- The rest of `for (x in o)` or `for (x of o)` after `in` or `of`. -/
def forInRest : Nat → Bool → Option DeclKind → Pattern → Parse Stmt
  | 0, _, _, _ => pure .bad
  | n + 1, isOf, kind, target => do
    let (obj, _) ← if isOf then assignment n else expression n
    let _ ← expect (.punct ")")
    let body ← loopBody n
    return .forIn isOf kind target obj body
termination_by structural x => x

/-- The rest of `for (init; test; update) body` after the first `;`. -/
def forRest : Nat → Option Stmt → Parse Stmt
  | 0, _ => pure .bad
  | n + 1, init => do
    let test ← if ← isPunct ";" then pure none else do pure (some (← expression n).1)
    let _ ← expect (.punct ";")
    let update ← if ← isPunct ")" then pure none else do pure (some (← expression n).1)
    let _ ← expect (.punct ")")
    let body ← loopBody n
    return .forLoop init test update body
termination_by structural x => x

/-- `return` with its value. -/
def returnStatement : Nat → Parse Stmt
  | 0 => pure .bad
  | n + 1 => do
    let idx ← expect (.word "return")
    if !(← scope).inFunction then
      error idx "Illegal return statement"
      nextStatement
      return .bad
    let s ← get
    let arg ← if !s.implicitSemicolon && s.tok != .punct ";" && s.tok != .punct "\x7d" && s.tok != .eof
      then do pure (some (← expression n).1) else pure none
    semicolon
    return .returnWith arg
termination_by structural x => x

/-- `throw` with its value, which must be on the same line. -/
def throwStatement : Nat → Parse Stmt
  | 0 => pure .bad
  | n + 1 => do
    let idx ← expect (.word "throw")
    if (← get).implicitSemicolon then
      if (← chr).isNone then error idx "Unexpected end of input"
      else error idx "Illegal newline after throw"
      nextStatement
      return .bad
    let (e, _) ← expression n
    semicolon
    return .throwValue e
termination_by structural x => x

/-- `try` with its `catch` and `finally` parts. -/
def tryStatement : Nat → Parse Stmt
  | 0 => pure .bad
  | n + 1 => do
    let tryIdx ← expect (.word "try")
    let body ← block n
    let mut param : Option Pattern := none
    let mut handler : Option (List Stmt) := none
    if ← isWord "catch" then
      next
      if ← isPunct "(" then
        next
        param := some (← bindingTarget n)
        let _ ← expect (.punct ")")
      handler := some (← block n)
    let finalizer ← if ← isWord "finally" then do
        next
        pure (some (← block n))
      else pure none
    if handler.isNone && finalizer.isNone then
      error tryIdx "Missing catch or finally after try"
      return .bad
    return .tryCatch body param handler finalizer
termination_by structural x => x

/-- `switch` with its cases. -/
def switchStatement : Nat → Parse Stmt
  | 0 => pure .bad
  | n + 1 => do
    let _ ← expect (.word "switch")
    let _ ← expect (.punct "(")
    let (disc, _) ← expression n
    let _ ← expect (.punct ")")
    let _ ← expect (.punct "\x7b")
    let cases ← withScope (fun f => { f with inSwitch := true }) (caseClauses n [] false)
    return .switchOn disc cases
termination_by structural x => x

/-- The cases of a `switch` up to its `}`. -/
def caseClauses : Nat → List Case → Bool → Parse (List Case)
  | 0, acc, _ => pure acc.reverse
  | n + 1, acc, sawDefault => do
    let t ← current
    if t == .eof then return acc.reverse
    if t == .punct "\x7d" then
      next
      return acc.reverse
    let caseIdx ← here
    let test ← if t == .word "default" then do
        next
        pure none
      else do
        let _ ← expect (.word "case")
        pure (some (← expression n).1)
    let _ ← expect (.punct ":")
    let body ← caseBody n []
    if test.isNone && sawDefault then error caseIdx "Already saw a default in switch"
    caseClauses n (.mk test body :: acc) (sawDefault || test.isNone)
termination_by structural x => x

/-- The statements of a case, up to the next case or the end of the `switch`. -/
def caseBody : Nat → List Stmt → Parse (List Stmt)
  | 0, acc => pure acc.reverse
  | n + 1, acc => do
    let t ← current
    if t == .eof || t == .punct "\x7d" || t == .word "case" || t == .word "default" then
      return acc.reverse
    modifyScope fun f => { f with allowLet := true }
    let st ← statement n
    caseBody n (st :: acc)
termination_by structural x => x

end

/-- The statements of a whole script, up to the end of input; `depth` bounds
the nesting of each. -/
def sourceElements (depth : Nat) : Nat → List Stmt → Parse (List Stmt)
  | 0, acc => pure acc.reverse
  | n + 1, acc => do
    if (← current) == .eof then return acc.reverse
    modifyScope fun f => { f with allowLet := true }
    let st ← statement depth
    sourceElements depth n (st :: acc)

end Parser

/-- Reads a script, or gives its syntax errors in the order they were found. -/
def Program.parse (src : String) : Except (List SyntaxError) Program :=
  let p := Parser.start src
  let run : Parse (List Stmt) := do
    Parser.next
    Parser.sourceElements (64 * (p.chars.size + 16)) (16 * (p.chars.size + 2)) []
  let (body, s) := run.run p
  if s.errors.isEmpty then .ok { body, strict := strictPrologue body, vars := Stmt.listVarNames body }
  else .error s.errors.toList

/-- The report of a file's syntax errors: the first with its line and
column, and how many more there are. -/
def SyntaxError.report (file src : String) : List SyntaxError → String
  | [] => "no errors"
  | [e] => one e
  | e :: rest => one e ++ " (and " ++ toString rest.length ++ " more errors)"
where
  one (e : SyntaxError) : String :=
    let (line, col) := placeIn src e.offset
    file ++ ": Line " ++ toString line ++ ":" ++ toString col ++ " " ++ e.message

end Script

end Userland
