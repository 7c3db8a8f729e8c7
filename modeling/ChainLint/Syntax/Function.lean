import ChainLint.Syntax.Type

/-!
# Bindings and functions

* `bindingRule`: a name or a pattern of names; what it holds are defaults and computed names.
* `parameters`: the parameters of a function between parentheses.
* `functionRest`: parameters, result and body of a function in one context.
-/

namespace ChainLint.Syntax

variable {n : Nat}

/-! ### Bindings -/

/-- A default behind an equals sign, if there is one. -/
def default? (env : Env n) (ctx : Context) : Parse (List (Node n)) := do
  if ← eatSign "=" then do pure [← env.value ctx.inside] else pure []

/-- An item of an array pattern, which may be left out. -/
def arrayBindingItem (env : Env n) (ctx : Context) : Parse (List (Node n)) := do
  if ← atSign "," then pure []
  else if ← eatSign "..." then
    let target ← env.binding ctx
    require (← atSign "]")
    pure target
  else do
    let target ← env.binding ctx
    pure (target ++ (← default? env ctx))

/-- A property of an object pattern. -/
def objectBindingItem (env : Env n) (ctx : Context) : Parse (List (Node n)) := do
  if ← eatSign "..." then
    let target ← env.binding ctx
    require (← atSign "\x7d")
    pure target
  else do
    let shorthand ← atName ctx
    require ((← token) ≠ .privateName)
    let key ← env.propertyName ctx
    let target ← if ← eatSign ":" then env.binding ctx else do
      require shorthand
      pure []
    pure (key ++ target ++ (← default? env ctx))

/-- A name or a pattern of names. -/
def bindingRule (env : Env n) (ctx : Context) : Parse (List (Node n)) := do
  if ← eatSign "[" then
    env.gather do
      if ← eatSign "]" then pure none
      else do
        let parts ← arrayBindingItem env ctx
        require ((← eatSign ",") || (← atSign "]"))
        pure (some parts)
  else if ← eatSign "\x7b" then env.listUntil "\x7d" (objectBindingItem env ctx)
  else do
    let _ ← name ctx
    pure []

/-! ### Decorators -/

/-- The decorators before a class or a member. -/
def decorators (env : Env n) (ctx : Context) : Parse (List (Node n)) :=
  env.gather do
    if ← eatSign "@" then do pure (some [(← env.run (.construct ctx)).expr]) else pure none

/-! ### Parameters -/

/-- The words that qualify a parameter which is a field too. -/
def fieldWords : List String := ["public", "private", "protected", "readonly", "override"]

/-- Takes the words before a parameter that make it a field. -/
def parameterQualifiers (env : Env n) (ctx : Context) : Parse Unit := do
  let _ ← env.gather do
    if ctx.kind.typed && (← atWords fieldWords) &&
        (← behind do pure ((← atName ctx) || (← atSigns ["[", "\x7b"]))) then
      take
      pure (some [])
    else pure none

/-- A parameter. -/
def parameter (env : Env n) (ctx : Context) : Parse (List (Node n)) := do
  let marks ← decorators env ctx
  parameterQualifiers env ctx
  if ← eatSign "..." then
    let target ← env.binding ctx
    let bound ← declaredType? env ctx
    require (← atSign ")")
    pure (marks ++ target ++ bound)
  else do
    let target ←
      if ctx.kind.typed && (← atWord "this") then do take; pure [] else env.binding ctx
    if ctx.kind.typed then
      let _ ← eatSign "?"
    let bound ← declaredType? env ctx
    let initial ← default? env ctx
    pure (marks ++ target ++ bound ++ initial)

/-- The parameters of a function between parentheses. -/
def parameters (env : Env n) (ctx : Context) : Parse (List (Node n)) := do
  sign "("
  env.listUntil ")" (parameter env ctx)

/-! ### Bodies -/

/-- Statements up to the closing brace. -/
def block (env : Env n) (ctx : Context) : Parse (List (Node n)) := do
  sign "\x7b"
  env.gather do
    if ← eatSign "\x7d" then pure none else do pure (some (← env.statement ctx .list))

/-- Parameters, result and body of a function; typed code may leave the body out. -/
def functionRest (env : Env n) (ctx : Context) (bodyRequired : Bool) : Parse (List (Node n)) := do
  let bounds ← typeParameters? env ctx
  let params ← parameters env ctx
  let result ← declaredResult? env ctx
  let body ←
    if ← atSign "\x7b" then block env ctx
    else do
      require (ctx.kind.typed && !bodyRequired)
      semicolon
      pure []
  pure (bounds ++ params ++ result ++ body)

end ChainLint.Syntax
