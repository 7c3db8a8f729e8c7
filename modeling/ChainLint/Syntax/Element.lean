import ChainLint.Syntax.Type

/-!
# Elements

Tags in a program: `<a b={c}>text {d}</a>`.  Text between tags is no program, so blanks, comments and
signs in it are read as text; comments inside tags and braces are comments.

* `elementRule`: an element or a fragment at an opening angle bracket.
-/

namespace ChainLint.Syntax

variable {n : Nat}

/-- A part of a tag's name. -/
def elementWord : Parse String := do
  match ← token with
  | .word _ _ => do
    rescan scanElementName
    match ← token with
    | .word w _ => do
      take
      pure w
    | _ => failure
  | _ => failure

/-- The name of a tag, with its colon or dots. -/
def elementName (env : Env n) : Parse (List String) := do
  let first ← elementWord
  if ← eatSign ":" then do pure [first, ":", ← elementWord]
  else
    let names ← iterate (fun (done : List String) => do
      if ← eatSign "." then do pure (some (done ++ [".", ← elementWord])) else pure none)
      env.fuel [first]
    pure names

/-- An expression between braces. -/
def braced (env : Env n) (ctx : Context) : Parse (List (Node n)) := do
  sign "\x7b"
  let e ← env.expression ctx.inside
  sign "\x7d"
  pure [e]

/-- The value of an attribute. -/
def attributeValue (env : Env n) (ctx : Context) : Parse (List (Node n)) := do
  rescan fun c => match scanQuoted c with
    | (.text, after) => (.text, after)
    | _ => scan c
  match ← token with
  | .text => do take; pure []
  | .sign "\x7b" => braced env ctx
  | .sign "<" => do pure [← env.run (.element ctx)]
  | _ => failure

/-- The attributes of a tag. -/
def attributes (env : Env n) (ctx : Context) : Parse (List (Node n)) :=
  env.gather do
    if ← eatSign "\x7b" then
      sign "..."
      let e ← env.value ctx.inside
      sign "\x7d"
      pure (some [e])
    else
      match ← token with
      | .word _ _ => do
        let _ ← elementWord
        if ← eatSign ":" then
          let _ ← elementWord
        if ← eatSign "=" then do pure (some (← attributeValue env ctx)) else pure (some [])
      | _ => pure none

/-- An expression, a spread or nothing between braces among children. -/
def bracedChild (env : Env n) (ctx : Context) : Parse (List (Node n)) := do
  sign "\x7b"
  if ← atSign "\x7d" then do take; pure []
  else do
    let _ ← eatSign "..."
    let e ← env.expression ctx.inside
    sign "\x7d"
    pure [e]

/-- Whether a closing tag is in sight. -/
def atClosingTag : Parse Bool := do
  if ← atSign "<" then behind (atSign "/") else pure false

/-- What stands between tags, up to the closing tag. -/
def children (env : Env n) (ctx : Context) : Parse (List (Node n)) :=
  env.gather do
    rescanTight scanElementText
    match ← token with
    | .elementText => do
      take
      pure (some [])
    | .sign "\x7b" => do pure (some (← bracedChild env ctx))
    | .sign "<" => do
      if ← atClosingTag then pure none else do pure (some [← env.run (.element ctx)])
    | _ => failure

/-- A closing tag up to its name. -/
def closeTag : Parse Unit := do
  sign "<"
  sign "/"

/-- An element or a fragment, from its opening to its closing angle bracket. -/
def elementRule (env : Env n) (ctx : Context) : Parse (Node n) := do
  let start ← hereOffset
  sign "<"
  if ← atSign ">" then
    take
    let inside ← children env ctx
    closeTag
    sign ">"
    pure (.other (← spanFrom start) inside)
  else do
    let opened ← elementName env
    let args ← typeArguments? env ctx
    let attrs ← attributes env ctx
    if ← eatSign "/" then
      sign ">"
      pure (.other (← spanFrom start) (args ++ attrs))
    else do
      require (← atSign ">")
      take
      let inside ← children env ctx
      closeTag
      let closed ← elementName env
      require (opened = closed)
      sign ">"
      pure (.other (← spanFrom start) (args ++ attrs ++ inside))

end ChainLint.Syntax
