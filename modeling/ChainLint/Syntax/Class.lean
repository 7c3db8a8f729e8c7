import ChainLint.Syntax.Expression

/-!
# Classes

* `classRule`: a class behind its word: its name, what it extends and implements, and its members.
* `classMember`: one member, from its decorators to its end.

A word such as `static` or `get` qualifies the member behind it, and is itself the member's name when
no name follows.
-/

namespace ChainLint.Syntax

variable {n : Nat}

/-! ### Qualifiers -/

/-- Words before a member of a class. -/
structure Qualifier where
  word : String
  /-- Whether the word must stand on the line of what it qualifies. -/
  sameLine : Bool
  /-- Whether only typed code has it. -/
  typed : Bool

/-- The words that qualify a member; `async` and the words of accessors stand behind them. -/
def memberQualifiers : List Qualifier :=
  [⟨"static", false, false⟩, ⟨"accessor", true, false⟩] ++
    ["public", "private", "protected", "readonly", "abstract", "declare", "override"].map
      fun w => ⟨w, true, true⟩

/-- Whether what is in sight may be qualified. -/
def atQualified (sameLine : Bool) : Parse Bool := do
  pure ((← atMethodName) && !(sameLine && (← onNewLine)))

/-- Takes the words that qualify a member. -/
def qualified (env : Env n) (ctx : Context) : Parse Unit := do
  let _ ← env.gather do
    match ← token with
    | .word w false =>
      match memberQualifiers.find? (·.word = w) with
      | some q =>
        if (!q.typed || ctx.kind.typed) && (← behind (atQualified q.sameLine)) then
          take
          pure (some [])
        else pure none
      | none => pure none
    | _ => pure none

/-! ### Members -/

/-- A field behind its name: its type, its value and its end. -/
def field (env : Env n) (ctx : Context) : Parse (List (Node n)) := do
  let bound ← declaredType? env ctx
  let initial ← if ← eatSign "=" then do pure [← env.value ctx.classPart] else pure []
  semicolon
  pure (bound ++ initial)

/-- A method or a field from its name. -/
def methodOrField (env : Env n) (ctx : Context) : Parse (List (Node n)) := do
  if (← atWords ["get", "set"]) && (← behind atPropertyName) then
    take
    let key ← env.propertyName ctx
    pure (key ++ (← functionRest env (ctx.function false false) false))
  else do
    let async ←
      if (← atWord "async") && (← behind (atQualified true)) then do take; pure true
      else pure false
    let generator ← eatSign "*"
    let key ← env.propertyName ctx
    if ctx.kind.typed then
      let _ ← (do pure ((← eatSign "?") || (!(← onNewLine) && (← eatSign "!"))))
    if async || generator || (← atSigns ["(", "<"]) then
      pure (key ++ (← functionRest env (ctx.function async generator) false))
    else pure (key ++ (← field env ctx))

/-- A member of a class. -/
def classMember (env : Env n) (ctx : Context) : Parse (List (Node n)) := do
  if ← eatSign ";" then pure []
  else do
    let marks ← decorators env ctx
    if (← atWord "static") && (← behind (atSign "\x7b")) then
      take
      pure (marks ++ (← block env ctx.classPart))
    else do
      qualified env ctx
      if ctx.kind.typed && (← atIndexSignature ctx) then
        let parts ← indexSignature env ctx
        memberEnd
        pure (marks ++ parts)
      else do pure (marks ++ (← methodOrField env ctx))

/-! ### Classes -/

/-- What a class extends and what it implements. -/
def heritage (env : Env n) (ctx : Context) : Parse (List (Node n)) := do
  let parent ←
    if ← eatWord "extends" then do
      let e ← (← suffixed env ctx.inside).value
      let args ← typeArguments? env ctx
      pure (e :: args)
    else pure []
  let promised ←
    if ctx.kind.typed && (← eatWord "implements") then env.commaList (env.run (.typeOperand ctx))
    else pure []
  pure (parent ++ promised)

/-- A class behind its word. -/
def classRule (env : Env n) (ctx : Context) : Parse (List (Node n)) := do
  if (← atName ctx) && !(ctx.kind.typed && (← atWord "implements")) then
    let _ ← name ctx
  let bounds ← typeParameters? env ctx
  let inherited ← heritage env ctx
  sign "\x7b"
  let members ← env.gather do
    if ← eatSign "\x7d" then pure none else do pure (some (← classMember env ctx))
  pure (bounds ++ inherited ++ members)

end ChainLint.Syntax
