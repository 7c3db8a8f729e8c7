import ChainLint.Syntax.Grammar

/-!
# Types

The grammar of types.  A type holds few expressions (computed names, defaults of parameters); a rule
gives those, in order.

* `typeRule env ctx conditional`: a type; `conditional` allows a condition at its outermost level.
* `typeOperand`: a type without `|`, `&` and conditions.
* `typeArguments`, `typeParameters?`: what stands between angle brackets.
* `typeMembers`: the members of an interface or of an object type.
* `declaredType?`: a colon and a type, if a colon is in sight.
-/

namespace ChainLint.Syntax

variable {n : Nat}

/-! ### Angle brackets -/

/-- Takes one opening angle bracket, also of a sign that has two. -/
def openAngle : Parse Unit := do
  if ← atSign "<<" then rescan fun c => (.sign "<", c.skip 1)
  sign "<"

/-- Types between angle brackets, at least one. -/
def typeArguments (env : Env n) (ctx : Context) : Parse (List (Node n)) := do
  openAngle
  require (!(← atSign ">"))
  env.listUntil ">" (env.type ctx)

/-- Types between angle brackets, if a bracket is in sight. -/
def typeArguments? (env : Env n) (ctx : Context) : Parse (List (Node n)) := do
  if ctx.kind.typed && (← atSigns ["<", "<<"]) then typeArguments env ctx else pure []

/-- One type parameter, with its bound and its default. -/
def typeParameter (env : Env n) (ctx : Context) : Parse (List (Node n)) := do
  let _ ← env.gather do
    if (← atWords ["const", "in", "out"]) &&
        (← behind do pure ((← atName ctx) || (← atWord "in"))) then
      take
      pure (some [])
    else pure none
  let _ ← name ctx
  let bound ← if ← eatWord "extends" then env.type ctx else pure []
  let initial ← if ← eatSign "=" then env.type ctx else pure []
  pure (bound ++ initial)

/-- Type parameters between angle brackets, if a bracket is in sight. -/
def typeParameters? (env : Env n) (ctx : Context) : Parse (List (Node n)) := do
  if ctx.kind.typed && (← atSign "<") then
    take
    require (!(← atSign ">"))
    env.listUntil ">" (typeParameter env ctx)
  else pure []

/-! ### Parameters and results of function types -/

/-- A parameter of a function type. -/
def typedParameter (env : Env n) (ctx : Context) : Parse (List (Node n)) := do
  let rest ← eatSign "..."
  let target ← if ← eatWord "this" then pure [] else env.binding ctx
  let optional ← eatSign "?"
  require (!(rest && optional))
  let bound ← if ← eatSign ":" then env.type ctx else pure []
  pure (target ++ bound)

/-- The parameters of a function type. -/
def typedParameters (env : Env n) (ctx : Context) : Parse (List (Node n)) := do
  sign "("
  env.listUntil ")" (typedParameter env ctx)

/-- A statement of a result type about a parameter: `x is T`, `asserts x` or `asserts x is T`. -/
def typePredicate (env : Env n) (ctx : Context) : Parse (List (Node n)) := do
  let asserted ← attempt do
    word "asserts"
    require (!(← onNewLine))
    require ((← atName ctx) || (← atWord "this"))
    require (!(← atWord "is") || (← behind (atWord "is")))
  anyWord
  if (← atWord "is") && !(← onNewLine) then
    take
    env.type ctx
  else do
    require asserted.isSome
    pure []

/-- The type of a function's result, which may be a statement about a parameter. -/
def resultType (env : Env n) (ctx : Context) : Parse (List (Node n)) := do
  let said ← if (← atName ctx) || (← atWord "this") then attempt (typePredicate env ctx) else pure none
  match said with
  | some parts => pure parts
  | none => env.type ctx

/-- A colon and a type, if a colon is in sight. -/
def declaredType? (env : Env n) (ctx : Context) : Parse (List (Node n)) := do
  if ctx.kind.typed && (← atSign ":") then do take; env.type ctx else pure []

/-- A colon and the type of a function's result, if a colon is in sight. -/
def declaredResult? (env : Env n) (ctx : Context) : Parse (List (Node n)) := do
  if ctx.kind.typed && (← atSign ":") then do take; resultType env ctx else pure []

/-- A function type behind any words in front of it. -/
def functionType (env : Env n) (ctx : Context) : Parse (List (Node n)) := do
  let bounds ← typeParameters? env ctx
  let params ← typedParameters env ctx
  sign "=>"
  let result ← resultType env ctx
  pure (bounds ++ params ++ result)

/-! ### Members -/

/-- The parameters and the result of a method without a body. -/
def callSignature (env : Env n) (ctx : Context) : Parse (List (Node n)) := do
  let bounds ← typeParameters? env ctx
  let params ← typedParameters env ctx
  let result ← declaredResult? env ctx
  pure (bounds ++ params ++ result)

/-- A parameter between brackets that stands for every name of a type. -/
def indexSignature (env : Env n) (ctx : Context) : Parse (List (Node n)) := do
  sign "["
  let _ ← name ctx
  sign ":"
  let key ← env.type ctx
  sign "]"
  let value ← declaredType? env ctx
  pure (key ++ value)

/-- Whether a bracket in sight opens an index signature. -/
def atIndexSignature (ctx : Context) : Parse Bool := do
  if ← atSign "[" then
    behind do pure ((← atName ctx) && (← behind (atSign ":")))
  else pure false

/-- Whether a property name is in sight. -/
def atPropertyName : Parse Bool := do
  match ← token with
  | .word _ _ | .number | .text | .privateName => pure true
  | .sign "[" => pure true
  | _ => pure false

/-- Takes words that qualify the member behind them. -/
def qualifiers (env : Env n) (words : List String) : Parse Unit := do
  let _ ← env.gather do
    if (← atWords words) && (← behind atPropertyName) then
      take
      pure (some [])
    else pure none

/-- The end of a member. -/
def memberEnd : Parse Unit := do
  if (← eatSign ";") || (← eatSign ",") then pure ()
  else require ((← atSign "\x7d") || (← onNewLine))

/-- A member of an interface or of an object type. -/
def typeMember (env : Env n) (ctx : Context) : Parse (List (Node n)) := do
  let parts ←
    if ← atSigns ["(", "<"] then callSignature env ctx
    else if (← atWord "new") && (← behind (atSigns ["(", "<"])) then do
      take
      callSignature env ctx
    else do
      qualifiers env ["readonly", "static", "public", "private", "protected", "declare"]
      qualifiers env ["get", "set"]
      if ← atIndexSignature ctx then indexSignature env ctx
      else do
        let key ← env.propertyName ctx
        let _ ← eatSign "?"
        if ← atSigns ["(", "<"] then pure (key ++ (← callSignature env ctx))
        else pure (key ++ (← declaredType? env ctx))
  memberEnd
  pure parts

/-- The members of an interface or of an object type, up to the closing brace. -/
def typeMembers (env : Env n) (ctx : Context) : Parse (List (Node n)) := do
  sign "\x7b"
  env.gather do
    if ← eatSign "\x7d" then pure none else do pure (some (← typeMember env ctx))

/-- Whether a brace in sight opens a mapped type. -/
def atMappedType (ctx : Context) : Parse Bool :=
  behind do
    if ← atSigns ["+", "-"] then behind (atWord "readonly")
    else
      let opensKey : Parse Bool := do
        if ← atSign "[" then
          behind do
            if ← atName ctx then behind (atWord "in") else pure false
        else pure false
      if ← atWord "readonly" then do pure ((← behind opensKey) || (← opensKey))
      else opensKey

/-- A word or sign that makes a mapped property optional or fixed. -/
def mappedMark (mark : Parse Bool) : Parse Unit := do
  if (← eatSign "+") || (← eatSign "-") then require (← mark)
  else
    let _ ← mark

/-- A mapped type. -/
def mappedType (env : Env n) (ctx : Context) : Parse (List (Node n)) := do
  sign "\x7b"
  mappedMark (eatWord "readonly")
  sign "["
  let _ ← name ctx
  word "in"
  let keys ← env.type ctx
  let renamed ← if ← eatWord "as" then env.type ctx else pure []
  sign "]"
  mappedMark (eatSign "?")
  let value ← declaredType? env ctx
  let _ ← (eatSign ";" <|> pure false)
  let _ ← eatSign ","
  sign "\x7d"
  pure (keys ++ renamed ++ value)

/-! ### Operands -/

/-- The words that are types by themselves although they name nothing. -/
def typeWords : List String := ["void", "null", "true", "false", "this"]

/-- Further names behind dots. -/
def dottedNames (env : Env n) : Parse Unit := do
  let _ ← env.gather do
    if ← eatSign "." then
      if (← token) = .privateName then take else anyWord
      pure (some [])
    else pure none

/-- Type arguments on the same line. -/
def appliedArguments (env : Env n) (ctx : Context) : Parse (List (Node n)) := do
  if ← onNewLine then pure [] else typeArguments? env ctx

/-- A type from another module, behind its word. -/
def importType (env : Env n) (ctx : Context) : Parse (List (Node n)) := do
  sign "("
  let source ← env.type ctx
  let options ← if ← eatSign "," then
      if ← atSign ")" then pure [] else do
        let e ← env.value ctx
        let _ ← eatSign ","
        pure [e]
    else pure []
  sign ")"
  dottedNames env
  let args ← appliedArguments env ctx
  pure (source ++ options ++ args)

/-- An item of a tuple type, which may have a label. -/
def tupleItem (env : Env n) (ctx : Context) : Parse (List (Node n)) := do
  let _ ← eatSign "..."
  let _ ← attempt do
    anyWord
    let _ ← eatSign "?"
    sign ":"
  let item ← env.type ctx
  let _ ← eatSign "?"
  pure item

/-- The pieces of a template type. -/
def templateType (env : Env n) (ctx : Context) : Parse (List (Node n)) := do
  match ← token with
  | .template last _ => do
    take
    if last then pure []
    else
      let ended ← iterate (fun (s : Bool × List (Node n)) => do
        if s.1 then pure none
        else do
          let parts ← env.type ctx
          require (← atSign "\x7d")
          rescan scanTemplate
          match ← token with
          | .template last _ => do
            take
            pure (some (last, s.2 ++ parts))
          | _ => failure) env.fuel (false, [])
      pure ended.2
  | _ => failure

/-- A type that is one word, name or bracketed construct. -/
def primaryType (env : Env n) (ctx : Context) : Parse (List (Node n)) := do
  match ← token with
  | .number | .text => do take; pure []
  | .template _ _ => templateType env ctx
  | .sign "-" => do
    take
    require ((← token) = .number)
    take
    pure []
  | .sign "(" => do
    take
    let t ← env.type ctx
    sign ")"
    pure t
  | .sign "[" => do
    take
    env.listUntil "]" (tupleItem env ctx)
  | .sign "\x7b" => do
    if ← atMappedType ctx then mappedType env ctx else typeMembers env ctx
  | .word "typeof" false => do
    take
    if ← eatWord "import" then importType env ctx
    else do
      if ← atWord "this" then take else
        let _ ← name ctx
      dottedNames env
      appliedArguments env ctx
  | .word "import" false => do
    take
    importType env ctx
  | .word w _ => do
    require (ctx.isName w || typeWords.contains w)
    take
    dottedNames env
    appliedArguments env ctx
  | _ => failure

/-- Brackets behind a type: an array of it, or what it has under an index. -/
def typeSuffixes (env : Env n) (ctx : Context) (t : List (Node n)) : Parse (List (Node n)) := do
  let suffixes ← env.gather do
    if (← atSign "[") && !(← onNewLine) then
      take
      if ← eatSign "]" then pure (some [])
      else do
        let index ← env.type ctx
        sign "]"
        pure (some index)
    else pure none
  pure (t ++ suffixes)

/-- A type without `|`, `&` and conditions. -/
def typeOperand (env : Env n) (ctx : Context) : Parse (List (Node n)) := do
  if ← atWords ["keyof", "unique", "readonly"] then
    take
    env.run (.typeOperand ctx)
  else if ← eatWord "infer" then
    let _ ← name ctx
    let bound ← attempt do
      word "extends"
      let t ← env.run (.type ctx false)
      require (!(← atSign "?"))
      pure t
    pure (bound.getD [])
  else do
    let t ← primaryType env ctx
    typeSuffixes env ctx t

/-- Types joined by a sign, which may also stand in front. -/
def joinedTypes (env : Env n) (joint : String) (part : Parse (List (Node n))) : Parse (List (Node n)) := do
  let _ ← eatSign joint
  let first ← part
  let rest ← env.gather do
    if ← eatSign joint then do pure (some (← part)) else pure none
  pure (first ++ rest)

/-- Whether a function type of an abstract or concrete class is in sight. -/
def atConstructorType : Parse Bool := do
  if ← atWord "new" then pure true
  else if ← atWord "abstract" then behind (atWord "new")
  else pure false

/-- A function type, if one is in sight. -/
def functionType? (env : Env n) (ctx : Context) : Parse (Option (List (Node n))) := do
  if ← atConstructorType then
    let _ ← eatWord "abstract"
    word "new"
    pure (some (← functionType env ctx))
  else if ← atSign "<" then do pure (some (← functionType env ctx))
  else if ← atSign "(" then attempt (functionType env ctx)
  else pure none

/-- An operand of `&` or `|`, which may be a function type. -/
def unionOperand (env : Env n) (ctx : Context) : Parse (List (Node n)) := do
  match ← functionType? env ctx with
  | some t => pure t
  | none => typeOperand env ctx

/-- A type; `conditional` allows a condition at its outermost level. -/
def typeRule (env : Env n) (ctx : Context) (conditional : Bool) : Parse (List (Node n)) := do
  match ← functionType? env ctx with
  | some t => pure t
  | none => do
    let t ← joinedTypes env "|" (joinedTypes env "&" (unionOperand env ctx))
    if conditional && (← atWord "extends") && !(← onNewLine) then
      take
      let bound ← env.run (.type ctx false)
      sign "?"
      let yes ← env.type ctx
      sign ":"
      let no ← env.type ctx
      pure (t ++ bound ++ yes ++ no)
    else pure t

end ChainLint.Syntax
