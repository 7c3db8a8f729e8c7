import ChainLint.Syntax.Declaration

/-!
# Imports and exports

The statements by which modules take names from one another.  They stand only at the outermost level
of a module or a namespace.
-/

namespace ChainLint.Syntax

variable {n : Nat}

/-! ### Sources -/

/-- What is said of a source besides its name. -/
def sourceAttributes (env : Env n) (ctx : Context) : Parse (List (Node n)) := do
  if (← atWord "with") || ((← atWord "assert") && !(← onNewLine)) then
    take
    sign "\x7b"
    env.listUntil "\x7d" do
      let key ← env.propertyName ctx
      sign ":"
      require ((← token) = .text)
      take
      pure key
  else pure []

/-- The name of a source. -/
def sourceName (env : Env n) (ctx : Context) : Parse (List (Node n)) := do
  require ((← token) = .text)
  take
  sourceAttributes env ctx

/-- The word before a source, the source, and the end of the statement. -/
def fromSource (env : Env n) (ctx : Context) : Parse (List (Node n)) := do
  word "from"
  let parts ← sourceName env ctx
  semicolon
  pure parts

/-- The name that a module gives to something: a word or a text. -/
def linkName : Parse Unit := do
  match ← token with
  | .word _ _ | .text => take
  | _ => failure

/-- Whether a source follows. -/
def atSource : Parse Bool := do
  if ← atWord "from" then behind do pure ((← token) = .text) else pure false

/-! ### Imports -/

/-- The end of an item between braces. -/
def itemEnd : Parse Unit := do require (← atSigns [",", "\x7d"])

/-- A name taken from a source, under its own or another name. -/
def importedName (ctx : Context) : Parse (List (Node n)) := do
  let own ← atName ctx
  linkName
  if ← eatWord "as" then
    let _ ← name ctx
  else require own
  itemEnd
  pure []

/-- An item of an import; in typed code it may be marked as a type. -/
def importItem (ctx : Context) : Parse (List (Node n)) :=
  importedName ctx <|> do
    require ctx.kind.typed
    word "type"
    importedName ctx

/-- What stands in braces or behind a star. -/
def importedNames (env : Env n) (ctx : Context) : Parse Unit := do
  if ← eatSign "*" then
    word "as"
    let _ ← name ctx
  else
    sign "\x7b"
    let _ ← env.listUntil "\x7d" (importItem ctx)

/-- Another name for a module or for what is in a namespace, from its equals sign. -/
def importAlias (env : Env n) (ctx : Context) : Parse (List (Node n)) := do
  sign "="
  if (← atWord "require") && (← behind (atSign "(")) then
    take
    sign "("
    require ((← token) = .text)
    take
    sign ")"
  else
    let _ ← name ctx
    dottedNames env
  semicolon
  pure []

/-- Takes a word that says how an import is meant. -/
def importMark (ctx : Context) : Parse Unit := do
  let named (w : String) : Parse Bool := do
    if ← atWord w then
      let source ← behind atSource
      behind do pure ((← atName ctx) && !source)
    else pure false
  let typed ← if ctx.kind.typed && (← atWord "type") then do
      pure ((← named "type") || (← behind (atSigns ["\x7b", "*"])))
    else pure false
  let deferred ← if ← atWord "defer" then behind (atSign "*") else pure false
  if typed || deferred || (← named "source") then take

/-- An import. -/
def importDeclaration (env : Env n) (ctx : Context) : Parse (List (Node n)) := do
  word "import"
  if (← token) = .text then
    let parts ← sourceName env ctx
    semicolon
    pure parts
  else do
    importMark ctx
    if ← atName ctx then
      let _ ← name ctx
      if ctx.kind.typed && (← atSign "=") then importAlias env ctx
      else do
        if ← eatSign "," then importedNames env ctx
        fromSource env ctx
    else do
      importedNames env ctx
      fromSource env ctx

/-! ### Exports -/

/-- An item of an export, whose own name is read by `own`. -/
def exportedName (own : Parse Unit) : Parse (List (Node n)) := do
  own
  if ← eatWord "as" then linkName
  itemEnd
  pure []

/-- Names between braces; without a source they must be names of this module. -/
def exportedNames (env : Env n) (ctx : Context) : Parse (List (Node n)) := do
  sign "\x7b"
  let items (own : Parse Unit) : Parse (List (Node n)) :=
    env.listUntil "\x7d" (exportedName own <|> do
      require ctx.kind.typed
      word "type"
      exportedName own)
  let here : Parse (List (Node n)) := do
    let parts ← items (do
      let _ ← name ctx)
    require (!(← atWord "from"))
    semicolon
    pure parts
  here <|> do
    let _ ← items linkName
    fromSource env ctx

/-- Everything of a source, perhaps under one name. -/
def exportedAll (env : Env n) (ctx : Context) : Parse (List (Node n)) := do
  sign "*"
  if ← eatWord "as" then linkName
  fromSource env ctx

/-- The value that a module stands for, behind its words. -/
def exportedDefault (env : Env n) (ctx : Context) : Parse (List (Node n)) := do
  let marks ← decorators env ctx
  if ← atClass ctx then do pure (marks ++ (← classDeclaration env ctx false))
  else do
    require marks.isEmpty
    if ← atFunction then functionDeclaration env ctx false
    else if ctx.kind.typed && (← atWord "interface") && (← namedOnLine ctx) then
      take
      interfaceDeclaration env ctx
    else do
      let e ← env.value ctx
      semicolon
      pure [e]

/-- The exports of typed code alone. -/
def typedExport? (env : Env n) (ctx : Context) : Parse (Option (List (Node n))) := do
  if ← eatSign "=" then
    let e ← env.expression ctx
    semicolon
    pure (some [e])
  else if (← atWord "as") && (← behind (atWord "namespace")) then
    take
    take
    let _ ← name ctx
    semicolon
    pure (some [])
  else if ← eatWord "import" then
    importMark ctx
    let _ ← name ctx
    pure (some (← importAlias env ctx))
  else if (← atWord "type") && (← behind (atSigns ["\x7b", "*"])) then
    take
    if ← atSign "*" then do pure (some (← exportedAll env ctx))
    else do pure (some (← exportedNames env ctx))
  else pure none

/-- A class behind decorators, or a declaration. -/
def exportedDeclaration (env : Env n) (ctx : Context) : Parse (List (Node n)) := do
  if ← atSign "@" then
    let marks ← decorators env ctx
    pure (marks ++ (← classDeclaration env ctx true))
  else
    match ← declaration? env ctx with
    | some parts => pure parts
    | none => failure

/-- An export. -/
def exportDeclaration (env : Env n) (ctx : Context) : Parse (List (Node n)) := do
  word "export"
  if ← atSign "*" then exportedAll env ctx
  else if ← atSign "\x7b" then exportedNames env ctx
  else if ← eatWord "default" then exportedDefault env ctx
  else do
    let typed ← if ctx.kind.typed then typedExport? env ctx else pure none
    match typed with
    | some parts => pure parts
    | none => exportedDeclaration env ctx

end ChainLint.Syntax
