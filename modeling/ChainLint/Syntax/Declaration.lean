import ChainLint.Syntax.Class

/-!
# Declarations

* `variableBindings`: the names that one statement or loop binds, with their values.
* `functionDeclaration`, `classDeclaration`: functions and classes that have names.
* `typedDeclaration?`: the declarations of typed code: interfaces, names of types, enumerations,
  namespaces, and declarations of what exists elsewhere.
* `declaration?`: any declaration, if one is in sight.
-/

namespace ChainLint.Syntax

variable {n : Nat}

/-! ### Variables -/

/-- What a declaration of variables binds. -/
structure Declared (n : Nat) where
  parts : List (Node n)
  /-- How many bindings there are. -/
  count : Nat
  /-- Whether some binding has a value. -/
  valued : Bool
  /-- Whether every binding that needs a value has one. -/
  complete : Bool

/-- One binding with its value; a pattern and a fixed name need one. -/
def declarator (env : Env n) (ctx : Context) (fixed : Bool) (done : Declared n) : Parse (Declared n) := do
  let needed := fixed || (← atSigns ["[", "\x7b"])
  let target ← env.binding ctx
  if ctx.kind.typed then
    let _ ← eatSign "!"
  let bound ← declaredType? env ctx
  let valued ← eatSign "="
  let initial ← if valued then do pure [← env.value ctx] else pure []
  pure ⟨done.parts ++ target ++ bound ++ initial, done.count + 1, done.valued || valued,
    done.complete && (valued || !needed || ctx.ambient)⟩

/-- Whether the word in sight binds the name behind it on the same line. -/
def atUsing (ctx : Context) : Parse Bool := do
  if ← atWord "using" then behind do pure ((← atName ctx) && !(← onNewLine) && !(← atWord "of"))
  else pure false

/-- Whether a declaration of variables is in sight. -/
def atVariables (ctx : Context) : Parse Bool := do
  if ← atWords ["var", "const"] then pure true
  else if ← atWord "let" then behind do pure ((← atName ctx) || (← atSigns ["[", "\x7b"]))
  else if ← atWord "await" then behind do pure (!(← onNewLine) && (← atUsing ctx))
  else atUsing ctx

/-- A declaration of variables without its end. -/
def variableBindings (env : Env n) (ctx : Context) : Parse (Declared n) := do
  let _ ← eatWord "await"
  let fixed ← atWords ["const", "using"]
  take
  let first ← declarator env ctx fixed ⟨[], 0, false, true⟩
  iterate (fun (done : Declared n) => do
    if ← eatSign "," then do pure (some (← declarator env ctx fixed done)) else pure none)
    env.fuel first

/-- A declaration of variables as a statement. -/
def variableStatement (env : Env n) (ctx : Context) : Parse (List (Node n)) := do
  let declared ← variableBindings env ctx
  require declared.complete
  semicolon
  pure declared.parts

/-! ### Functions and classes -/

/-- Whether the word of a function, or one before it, is in sight. -/
def atFunction : Parse Bool := do
  if ← atWord "function" then pure true
  else if ← atWord "async" then behind do pure ((← atWord "function") && !(← onNewLine))
  else pure false

/-- A function; typed code may leave its body out. -/
def functionDeclaration (env : Env n) (ctx : Context) (nameRequired : Bool) : Parse (List (Node n)) := do
  let async ← eatWord "async"
  word "function"
  let generator ← eatSign "*"
  if nameRequired || (← atName ctx) then
    let _ ← name ctx
  functionRest env (ctx.function async generator) false

/-- Whether the word of a class, or one before it, is in sight. -/
def atClass (ctx : Context) : Parse Bool := do
  if ← atWord "class" then pure true
  else if ctx.kind.typed && (← atWord "abstract") then
    behind do pure ((← atWord "class") && !(← onNewLine))
  else pure false

/-- A class behind its decorators. -/
def classDeclaration (env : Env n) (ctx : Context) (nameRequired : Bool) : Parse (List (Node n)) := do
  if ctx.kind.typed then
    let _ ← eatWord "abstract"
  word "class"
  require (!nameRequired || (← atName ctx))
  env.run (.classTail ctx)

/-! ### Types -/

/-- An interface behind its word. -/
def interfaceDeclaration (env : Env n) (ctx : Context) : Parse (List (Node n)) := do
  let _ ← name ctx
  let bounds ← typeParameters? env ctx
  let parents ←
    if ← eatWord "extends" then env.commaList (env.run (.typeOperand ctx)) else pure []
  let members ← typeMembers env ctx
  pure (bounds ++ parents ++ members)

/-- A name of a type behind its word. -/
def typeDeclaration (env : Env n) (ctx : Context) : Parse (List (Node n)) := do
  let _ ← name ctx
  let bounds ← typeParameters? env ctx
  sign "="
  let t ← env.type ctx
  semicolon
  pure (bounds ++ t)

/-- A member of an enumeration with its value. -/
def enumMember (env : Env n) (ctx : Context) : Parse (List (Node n)) := do
  require (!([.number, .privateName].contains (← token)))
  let key ← env.propertyName ctx
  pure (key ++ (← default? env ctx))

/-- An enumeration behind its word. -/
def enumDeclaration (env : Env n) (ctx : Context) : Parse (List (Node n)) := do
  let _ ← name ctx
  sign "\x7b"
  env.listUntil "\x7d" (enumMember env ctx)

/-- A namespace behind its word; one of a module may lack its body. -/
def namespaceDeclaration (env : Env n) (ctx : Context) : Parse (List (Node n)) := do
  let inner := { ctx.nested with top := true, returns := false }
  if (← token) = .text then
    take
    if ← atSign "\x7b" then block env inner else do semicolon; pure []
  else
    let _ ← name ctx
    dottedNames env
    block env inner

/-- Whether a name follows the word in sight on its line. -/
def namedOnLine (ctx : Context) : Parse Bool :=
  behind do pure ((← atName ctx) && !(← onNewLine))

/-- The declarations of typed code whose words may also be names. -/
def contextualDeclaration? (env : Env n) (ctx : Context) (w : String) :
    Parse (Option (List (Node n))) := do
  if w = "interface" && (← namedOnLine ctx) then
    take
    pure (some (← interfaceDeclaration env ctx))
  else if w = "type" && (← namedOnLine ctx) then
    take
    pure (some (← typeDeclaration env ctx))
  else if (w = "namespace" || w = "module") && (← namedOnLine ctx) then
    take
    pure (some (← namespaceDeclaration env ctx))
  else if w = "module" && (← behind do pure ((← token) = .text && !(← onNewLine))) then
    take
    pure (some (← namespaceDeclaration env ctx))
  else if w = "global" && (← behind (atSign "\x7b")) then
    take
    pure (some (← block env { ctx.nested with top := true, returns := false }))
  else pure none

/-- A declaration of typed code, if one is in sight. -/
def typedDeclaration? (env : Env n) (ctx : Context) : Parse (Option (List (Node n))) := do
  match ← token with
  | .word w false =>
    if w = "enum" then
      take
      pure (some (← enumDeclaration env ctx))
    else if w = "const" && (← behind (atWord "enum")) then
      take
      take
      pure (some (← enumDeclaration env ctx))
    else contextualDeclaration? env ctx w
  | _ => pure none

/-! ### Any declaration -/

/-- A declaration other than of something that exists elsewhere. -/
def plainDeclaration? (env : Env n) (ctx : Context) : Parse (Option (List (Node n))) := do
  let typed ← if ctx.kind.typed then typedDeclaration? env ctx else pure none
  match typed with
  | some parts => pure (some parts)
  | none =>
    if ← atFunction then do pure (some (← functionDeclaration env ctx true))
    else if ← atClass ctx then do pure (some (← classDeclaration env ctx true))
    else if ← atVariables ctx then do pure (some (← variableStatement env ctx))
    else pure none

/-- A declaration, if one is in sight. -/
def declaration? (env : Env n) (ctx : Context) : Parse (Option (List (Node n))) := do
  if ctx.kind.typed && (← atWord "declare") then
    let outer ← get
    take
    if ← onNewLine then do set outer; pure none
    else
      match ← plainDeclaration? env { ctx with ambient := true } with
      | some parts => pure (some parts)
      | none => do set outer; pure none
  else plainDeclaration? env ctx

end ChainLint.Syntax
