import ChainLint.Program
import ChainLint.Syntax.Lexeme
import ChainLint.Syntax.Node

/-!
# Grammar rules

A rule of the grammar takes the state of reading, a lexeme in sight and the comments so far, and
gives a value and the state behind what it took, or fails.  A failed alternative leaves nothing
behind but the offsets at which no arrow function begins, so no such place is tried twice.

The expressions that rules give are nodes of a source of `n` bytes, so that all of them point into it.

The rules call each other in a circle.  The circle is cut at the `Goal`s: a rule takes an `Env` with
the meaning of every goal, and the meaning of the goals at one depth is made from the meaning at the
depth below.

* `Context`: what the surroundings allow.
* `Operand`: an expression and what else may be made of it.
* `Env`: the goals one level down, and the bound on loops.
-/

namespace ChainLint.Syntax

/-! ### State -/

/-- The state of reading: the cursor behind the last lexeme taken, the comments before it, the latest
first, and the lexeme in sight. -/
structure State where
  last : Cursor
  comments : List Comment
  here : Lexeme
deriving Inhabited

/-- A grammar rule. -/
abbrev Parse (α : Type) := StateT State (OptionT (StateM (List Nat))) α

variable {α β : Type} {n : Nat}

/-- Tries a rule; if it fails nothing is taken. -/
def attempt (p : Parse α) : Parse (Option α) :=
  (do pure (some (← p))) <|> pure none

/-- Goes on only when a condition holds. -/
def require (b : Bool) : Parse Unit := if b then pure () else failure

/-- Repeats a step until it has no further value; `fuel` bounds the steps. -/
def iterate (step : α → Parse (Option α)) : Nat → α → Parse α
  | 0, _ => failure
  | fuel + 1, a => do
    match ← step a with
    | some a => iterate step fuel a
    | none => pure a

/-! ### Lexemes -/

/-- The token in sight. -/
def token : Parse Token := do pure (← get).here.token

/-- Whether the token in sight begins a new line. -/
def onNewLine : Parse Bool := do pure (← get).here.newline

/-- The offset of the token in sight. -/
def hereOffset : Parse Nat := do pure (← get).here.source.offset

/-- The offset of the token in sight where an expression begins; none begins at the end. -/
def operandStart : Parse (Fin n) := do
  let start ← hereOffset
  if inside : start < n then pure ⟨start, inside⟩ else failure

/-- The span from an offset to the end of the last token taken. -/
def spanFrom (start : Nat) : Parse Span := do pure ⟨start, (← get).last.offset⟩

/-- Takes the token in sight. -/
def take : Parse Unit :=
  modify fun s => ⟨s.here.after, s.here.comments ++ s.comments, .at s.here.after⟩

/-- Reads the token in sight anew by another scanner. -/
def rescan (f : Cursor → Scan) : Parse Unit :=
  modify fun s =>
    let (t, after) := f s.here.source
    { s with here := { s.here with token := t, after := after } }

/-- Reads anew right behind the last token, where blanks and comments are text. -/
def rescanTight (f : Cursor → Scan) : Parse Unit :=
  modify fun s =>
    let (t, after) := f s.last
    { s with here := ⟨t, s.last, after, false, []⟩ }

/-- Whether a sign is in sight. -/
def atSign (t : String) : Parse Bool := do pure ((← token) = .sign t)

/-- Whether one of some signs is in sight. -/
def atSigns (ts : List String) : Parse Bool := do
  match ← token with
  | .sign t => pure (ts.contains t)
  | _ => pure false

/-- Whether a word without escapes is in sight. -/
def atWord (w : String) : Parse Bool := do pure ((← token) = .word w false)

/-- Whether one of some words without escapes is in sight. -/
def atWords (ws : List String) : Parse Bool := do
  match ← token with
  | .word w false => pure (ws.contains w)
  | _ => pure false

/-- Takes a sign if it is in sight. -/
def eatSign (t : String) : Parse Bool := do
  if ← atSign t then do take; pure true else pure false

/-- Takes a word if it is in sight. -/
def eatWord (w : String) : Parse Bool := do
  if ← atWord w then do take; pure true else pure false

/-- Takes a sign that must be in sight. -/
def sign (t : String) : Parse Unit := do require (← eatSign t)

/-- Takes a word that must be in sight. -/
def word (w : String) : Parse Unit := do require (← eatWord w)

/-- What a rule sees behind the token in sight. -/
def behind (p : Parse Bool) : Parse Bool := do
  let s ← get
  take
  let b ← p
  set s
  pure b

/-! ### Contexts -/

/-- What the surroundings of a construct allow. -/
structure Context where
  kind : SourceKind
  /-- The operator `in` is taken. -/
  takesIn : Bool
  /-- The word `yield` is an operator. -/
  yields : Bool
  /-- The word `await` is an operator. -/
  awaits : Bool
  /-- A `return` may stand here. -/
  returns : Bool
  /-- Bindings need no value. -/
  ambient : Bool
  /-- Imports and exports may stand here. -/
  top : Bool
  /-- A colon behind the expression belongs to a condition around it. -/
  choice : Bool
deriving Inhabited

namespace Context

/-- The context of a whole source. -/
def outermost (kind : SourceKind) : Context where
  kind := kind
  takesIn := true
  yields := false
  awaits := !kind.script
  returns := kind.script
  ambient := kind.ambient
  top := true
  choice := false

/-- Between brackets of any kind. -/
def inside (ctx : Context) : Context := { ctx with takesIn := true, choice := false }

/-- In a block or another place below the outermost statements. -/
def nested (ctx : Context) : Context := { ctx.inside with top := false }

/-- In a function. -/
def function (ctx : Context) (async generator : Bool) : Context :=
  { ctx.nested with yields := generator, awaits := async, returns := true }

/-- In an initial value of a class field or in a static block. -/
def classPart (ctx : Context) : Context :=
  { ctx.nested with yields := false, awaits := false, returns := false }

end Context

/-! ### Names -/

/-- The words that name nothing. -/
def reservedWords : List String :=
  ["break", "case", "catch", "class", "const", "continue", "debugger", "default", "delete", "do",
    "else", "enum", "export", "extends", "false", "finally", "for", "function", "if", "import", "in",
    "instanceof", "new", "null", "return", "super", "switch", "this", "throw", "true", "try",
    "typeof", "var", "void", "while", "with"]

/-- Whether a word may name a variable. -/
def Context.isName (ctx : Context) (w : String) : Bool :=
  !reservedWords.contains w && !(w = "yield" && ctx.yields) &&
    !(w = "await" && (ctx.awaits || !ctx.kind.script))

/-- Whether a name is in sight. -/
def atName (ctx : Context) : Parse Bool := do
  match ← token with
  | .word w _ => pure (ctx.isName w)
  | _ => pure false

/-- A name. -/
def name (ctx : Context) : Parse String := do
  match ← token with
  | .word w _ => do
    require (ctx.isName w)
    take
    pure w
  | _ => failure

/-- A word of any kind, as behind a dot. -/
def anyWord : Parse Unit := do
  match ← token with
  | .word _ _ => take
  | _ => failure

/-- The end of a statement: a semicolon, or a place where one may be left out. -/
def semicolon : Parse Unit := do
  if ← eatSign ";" then pure ()
  else require ((← atSign "\x7d") || (← token) = .finish || (← onNewLine))

/-! ### Operands and goals -/

/-- What an expression may become besides a value. -/
inductive Form
  | value
  | reference
  | pattern
  | patternWithDefault
  | unary
deriving DecidableEq, Inhabited

/-- An expression while it may still turn out to be the target of an assignment; `unsettled` when it
is no value, because a shorthand property in it has a default. -/
structure Operand (n : Nat) where
  expr : Node n
  form : Form
  unsettled : Bool
deriving Inhabited

namespace Operand

/-- An expression that is a value and nothing else. -/
def ofValue (e : Node n) : Operand n := ⟨e, .value, false⟩

/-- An expression that names a place. -/
def ofReference (e : Node n) : Operand n := ⟨e, .reference, false⟩

/-- The expression as a value. -/
def value (o : Operand n) : Parse (Node n) := do
  require (!o.unsettled)
  pure o.expr

/-- Whether a value can be assigned to the operand. -/
def isTarget (o : Operand n) : Bool := o.form = .reference || o.form = .pattern

/-- Whether the operand may be an item of a pattern. -/
def isPatternItem (o : Operand n) : Bool := o.isTarget || o.form = .patternWithDefault

end Operand

/-- Where a statement stands: in a list of statements, or alone behind a condition, a loop or a
label, where it may declare nothing but a function. -/
inductive Place
  | list
  | alone
deriving DecidableEq, Inhabited

/-- The rules by which the grammar runs in a circle. -/
inductive Goal
  | assignment (ctx : Context)
  | binary (ctx : Context) (least : Nat)
  | unary (ctx : Context)
  | construct (ctx : Context)
  | binding (ctx : Context)
  | statement (ctx : Context) (place : Place)
  | type (ctx : Context) (conditional : Bool)
  | typeOperand (ctx : Context)
  | element (ctx : Context)
  | classTail (ctx : Context)

/-- What a goal gives: an operand, or the expressions inside a construct in their order. -/
@[reducible] def Goal.Out (n : Nat) : Goal → Type
  | .assignment _ => Operand n
  | .binary _ _ => Operand n
  | .unary _ => Operand n
  | .construct _ => Operand n
  | .binding _ => List (Node n)
  | .statement _ _ => List (Node n)
  | .type _ _ => List (Node n)
  | .typeOperand _ => List (Node n)
  | .element _ => Node n
  | .classTail _ => List (Node n)

/-- The meaning of the goals one level down, and a bound on the length of loops. -/
structure Env (n : Nat) where
  fuel : Nat
  run : (g : Goal) → Parse (g.Out n)

namespace Env

/-- An expression without a comma, as an operand. -/
def assignment (env : Env n) (ctx : Context) : Parse (Operand n) := env.run (.assignment ctx)

/-- An expression without a comma. -/
def value (env : Env n) (ctx : Context) : Parse (Node n) := do (← env.assignment ctx).value

/-- An expression of operators that bind at least as strongly as `least`. -/
def binary (env : Env n) (ctx : Context) (least : Nat) : Parse (Operand n) := env.run (.binary ctx least)

/-- An expression without binary operators. -/
def unary (env : Env n) (ctx : Context) : Parse (Operand n) := env.run (.unary ctx)

/-- A pattern that binds names. -/
def binding (env : Env n) (ctx : Context) : Parse (List (Node n)) := env.run (.binding ctx)

/-- A statement. -/
def statement (env : Env n) (ctx : Context) (place : Place) : Parse (List (Node n)) :=
  env.run (.statement ctx place)

/-- A type. -/
def type (env : Env n) (ctx : Context) : Parse (List (Node n)) := env.run (.type ctx true)

/-- Repeats a step that gives further expressions. -/
def gather (env : Env n) (step : Parse (Option (List (Node n)))) : Parse (List (Node n)) := do
  let parts ← iterate (fun (done : List (List (Node n))) => do
    match ← step with
    | some parts => pure (some (parts :: done))
    | none => pure none) env.fuel []
  pure parts.reverse.flatten

/-- Things with commas between them up to a closing sign, which is taken too. -/
def listUntil (env : Env n) (close : String) (thing : Parse (List (Node n))) : Parse (List (Node n)) :=
  env.gather do
    if ← eatSign close then pure none
    else do
      let parts ← thing
      require ((← eatSign ",") || (← atSign close))
      pure (some parts)

/-- One or more things with commas between them. -/
def commaList (env : Env n) (thing : Parse (List (Node n))) : Parse (List (Node n)) := do
  let first ← thing
  let rest ← env.gather do
    if ← eatSign "," then do pure (some (← thing)) else pure none
  pure (first ++ rest)

/-- An expression, as an operand when it has no comma. -/
def expressionOperand (env : Env n) (ctx : Context) : Parse (Operand n) := do
  let start ← hereOffset
  let first ← env.assignment ctx
  if ← atSign "," then do
    let e ← first.value
    let rest ← env.gather do
      if ← eatSign "," then do pure (some [← env.value ctx]) else pure none
    pure (.ofValue (.sequence (← spanFrom start) (e :: rest)))
  else pure first

/-- An expression. -/
def expression (env : Env n) (ctx : Context) : Parse (Node n) := do
  (← env.expressionOperand ctx).value

/-- An expression between parentheses that belong to the construct around it. -/
def parenthesized (env : Env n) (ctx : Context) : Parse (Node n) := do
  sign "("
  let e ← env.expression ctx.inside
  sign ")"
  pure e

/-- A property name: a word, a constant, or an expression between brackets. -/
def propertyName (env : Env n) (ctx : Context) : Parse (List (Node n)) := do
  match ← token with
  | .word _ _ | .number | .text | .privateName => do take; pure []
  | .sign "[" => do
    take
    let e ← env.value ctx.inside
    sign "]"
    pure [e]
  | _ => failure

end Env

end ChainLint.Syntax
