import ChainLint.Syntax.Linkage

/-!
# Statements

* `statementRule`: a statement in a list of statements or alone behind a condition, a loop or a label.

A rule gives the expressions of a statement in the order in which they are written, except that the
condition of a loop that ends with it comes behind the body either way.
-/

namespace ChainLint.Syntax

variable {n : Nat}

/-! ### Conditions and loops -/

/-- A statement that belongs to the construct before it. -/
def bodyStatement (env : Env n) (ctx : Context) : Parse (List (Node n)) :=
  env.statement ctx.nested .alone

/-- A condition, behind its word. -/
def ifStatement (env : Env n) (ctx : Context) : Parse (List (Node n)) := do
  let test ← env.parenthesized ctx
  let yes ← bodyStatement env ctx
  let no ← if ← eatWord "else" then bodyStatement env ctx else pure []
  pure (test :: yes ++ no)

/-- An expression in parentheses and a statement, as in a loop while a condition holds. -/
def headedStatement (env : Env n) (ctx : Context) : Parse (List (Node n)) := do
  let head ← env.parenthesized ctx
  pure (head :: (← bodyStatement env ctx))

/-- A loop that ends with its condition, behind its word. -/
def doStatement (env : Env n) (ctx : Context) : Parse (List (Node n)) := do
  let body ← bodyStatement env ctx
  word "while"
  let test ← env.parenthesized ctx
  let _ ← eatSign ";"
  pure (body ++ [test])

/-- An expression up to a sign, if one stands before it. -/
def expressionUpTo (env : Env n) (ctx : Context) (close : String) : Parse (List (Node n)) := do
  if ← eatSign close then pure []
  else do
    let e ← env.expression ctx
    sign close
    pure [e]

/-- The rest of a loop with a condition and a step, from the semicolon behind its start. -/
def countedLoop (env : Env n) (ctx : Context) (start : List (Node n)) : Parse (List (Node n)) := do
  sign ";"
  let test ← expressionUpTo env ctx.inside ";"
  let step ← expressionUpTo env ctx.inside ")"
  pure (start ++ test ++ step ++ (← bodyStatement env ctx))

/-- Whether the word of a loop over items is in sight. -/
def atItems (awaited : Bool) : Parse Bool := do
  pure ((← atWord "of") || (!awaited && (← atWord "in")))

/-- The rest of a loop over items, from the word before them. -/
def itemLoop (env : Env n) (ctx : Context) (start : List (Node n)) : Parse (List (Node n)) := do
  let items ← if ← eatWord "of" then env.value ctx.inside else do
    word "in"
    env.expression ctx.inside
  sign ")"
  pure (start ++ items :: (← bodyStatement env ctx))

/-- A loop with a head in parentheses, behind its word. -/
def forStatement (env : Env n) (ctx : Context) : Parse (List (Node n)) := do
  let awaited ← if ctx.awaits then eatWord "await" else pure false
  sign "("
  let head := { ctx.nested with takesIn := false }
  if ← atSign ";" then do
    require !awaited
    countedLoop env ctx []
  else if ← atVariables head then
    let declared ← variableBindings env head
    if ← atItems awaited then
      require (declared.count = 1 && !declared.valued)
      itemLoop env ctx declared.parts
    else
      require (!awaited && declared.complete)
      countedLoop env ctx declared.parts
  else
    let o ← env.expressionOperand head
    if ← atItems awaited then
      require o.isTarget
      itemLoop env ctx [o.expr]
    else
      require !awaited
      countedLoop env ctx [← o.value]

/-! ### Choices and handlers -/

/-- One case of a choice with its statements. -/
def caseClause (env : Env n) (ctx : Context) : Parse (List (Node n)) := do
  let test ← if ← eatWord "case" then do pure [← env.expression ctx.inside] else do
    word "default"
    pure []
  sign ":"
  let body ← env.gather do
    if (← atSign "\x7d") || (← atWords ["case", "default"]) then pure none
    else do pure (some (← env.statement ctx.nested .list))
  pure (test ++ body)

/-- A choice among cases, behind its word. -/
def switchStatement (env : Env n) (ctx : Context) : Parse (List (Node n)) := do
  let subject ← env.parenthesized ctx
  sign "\x7b"
  let cases ← env.gather do
    if ← eatSign "\x7d" then pure none else do pure (some (← caseClause env ctx))
  pure (subject :: cases)

/-- What handles a thrown value, behind its word. -/
def catchClause (env : Env n) (ctx : Context) : Parse (List (Node n)) := do
  let caught ←
    if ← eatSign "(" then do
      let target ← env.binding ctx.nested
      let bound ← declaredType? env ctx
      sign ")"
      pure (target ++ bound)
    else pure []
  pure (caught ++ (← block env ctx.nested))

/-- A guarded block, behind its word, with a handler or an ending or both. -/
def tryStatement (env : Env n) (ctx : Context) : Parse (List (Node n)) := do
  let body ← block env ctx.nested
  require (← atWords ["catch", "finally"])
  let handler ← if ← eatWord "catch" then catchClause env ctx else pure []
  let ending ← if ← eatWord "finally" then block env ctx.nested else pure []
  pure (body ++ handler ++ ending)

/-! ### Jumps -/

/-- An end with nothing in front, or an expression and an end. -/
def returned (env : Env n) (ctx : Context) : Parse (List (Node n)) := do
  if (← atSigns [";", "\x7d"]) || (← token) = .finish || (← onNewLine) then
    semicolon
    pure []
  else do
    let e ← env.expression ctx
    semicolon
    pure [e]

/-- A jump out of a loop or to its next round, behind its word. -/
def jump (ctx : Context) : Parse (List (Node n)) := do
  if (← atName ctx) && !(← onNewLine) then
    let _ ← name ctx
  semicolon
  pure []

/-- The statement that throws a value, behind its word. -/
def throwStatement (env : Env n) (ctx : Context) : Parse (List (Node n)) := do
  require (!(← onNewLine))
  let e ← env.expression ctx
  semicolon
  pure [e]

/-! ### Statements -/

/-- An expression as a statement. -/
def expressionStatement (env : Env n) (ctx : Context) : Parse (List (Node n)) := do
  let e ← env.expression ctx
  semicolon
  pure [e]

/-- A statement that begins with a word of its own, by that word. -/
def keywordStatement? (w : String) : Option (Env n → Context → Parse (List (Node n))) :=
  match w with
  | "if" => some ifStatement
  | "while" | "with" => some headedStatement
  | "do" => some doStatement
  | "for" => some forStatement
  | "switch" => some switchStatement
  | "try" => some tryStatement
  | "throw" => some throwStatement
  | "break" | "continue" => some fun _ ctx => jump ctx
  | "debugger" => some fun _ _ => do semicolon; pure []
  | "return" => some fun env ctx => do
    require ctx.returns
    returned env ctx
  | _ => none

/-- A declaration where it may stand, a label with its statement, or an expression. -/
def otherStatement (env : Env n) (ctx : Context) (place : Place) : Parse (List (Node n)) := do
  let begins ← if place = .alone then do pure ((← atClass ctx) || (← atVariables ctx)) else pure false
  require (!begins || (← atWord "var"))
  match ← declaration? env ctx with
  | some parts => pure parts
  | none =>
    if (← atName ctx) && (← behind (atSign ":")) then
      take
      take
      bodyStatement env ctx
    else expressionStatement env ctx

/-- A statement that begins with a word. -/
def wordStatement (env : Env n) (ctx : Context) (place : Place) (w : String) : Parse (List (Node n)) := do
  match keywordStatement? w with
  | some rule => do
    take
    rule env ctx
  | none =>
    if w = "export" || (w = "import" && !(← behind (atSigns ["(", "."]))) then
      require ctx.top
      if w = "export" then exportDeclaration env ctx else importDeclaration env ctx
    else otherStatement env ctx place

/-- A class or an export behind decorators. -/
def decoratedStatement (env : Env n) (ctx : Context) : Parse (List (Node n)) := do
  let marks ← decorators env ctx
  if ← atWord "export" then
    require ctx.top
    pure (marks ++ (← exportDeclaration env ctx))
  else do pure (marks ++ (← classDeclaration env ctx true))

/-- A statement. -/
def statementRule (env : Env n) (ctx : Context) (place : Place) : Parse (List (Node n)) := do
  match ← token with
  | .sign ";" => do
    take
    pure []
  | .sign "\x7b" => block env ctx.nested
  | .sign "@" => decoratedStatement env ctx
  | .word w false => wordStatement env ctx place w
  | .word _ true => otherStatement env ctx place
  | _ => expressionStatement env ctx

end ChainLint.Syntax
