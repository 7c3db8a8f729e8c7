import ChainLint.Syntax.Element
import ChainLint.Syntax.Function

/-!
# Expressions

The grammar of expressions by strength: `assignmentRule` is the weakest rule without a comma, then
come `conditional`, `binaryRule`, `unaryRule`, the suffixes of `suffixed` and the words and brackets of
`primary`.

A logical operator may not stand beside the other kind without parentheses: `??` takes no bare `&&`
or `||`, nor they a bare `??`.  An arrow function is tried wherever its parameters could begin.
-/

namespace ChainLint.Syntax

variable {n : Nat}

/-! ### Literals -/

/-- The expressions in a template; a tagged one may hold escapes that stand for nothing. -/
def template (env : Env n) (ctx : Context) (tagged : Bool) : Parse (List (Node n)) := do
  match ← token with
  | .template last sound => do
    require (sound || tagged)
    take
    if last then pure []
    else
      let ended ← iterate (fun (s : Bool × List (Node n)) => do
        if s.1 then pure none
        else do
          let e ← env.expression ctx.inside
          require (← atSign "\x7d")
          rescan scanTemplate
          match ← token with
          | .template last sound => do
            require (sound || tagged)
            take
            pure (some (last, s.2 ++ [e]))
          | _ => failure) env.fuel (false, [])
      pure ended.2
  | _ => failure

/-- Items of a literal with what they say of it as a pattern. -/
structure Items (n : Nat) where
  parts : List (Node n)
  isPattern : Bool
  unsettled : Bool

/-- An operand as an item. -/
def Items.ofOperand (o : Operand n) : Items n := ⟨[o.expr], o.isPatternItem, o.unsettled⟩

/-- An operand that takes the rest of a literal. -/
def Items.ofRest (o : Operand n) : Items n := ⟨[o.expr], o.isTarget, o.unsettled⟩

/-- Items in front of items. -/
def Items.append (a b : Items n) : Items n :=
  ⟨a.parts ++ b.parts, a.isPattern && b.isPattern, a.unsettled || b.unsettled⟩

/-- No items. -/
def Items.empty : Items n := ⟨[], true, false⟩

/-- Repeats a step that gives further items. -/
def gatherItems (env : Env n) (step : Parse (Option (Items n))) : Parse (Items n) :=
  iterate (fun (done : Items n) => do
    match ← step with
    | some items => pure (some (done.append items))
    | none => pure none) env.fuel .empty

/-- A literal from its items. -/
def Items.toOperand (items : Items n) (span : Span) : Operand n :=
  ⟨.other span items.parts, if items.isPattern then .pattern else .value, items.unsettled⟩

/-- The rest of an array or object; a pattern has nothing behind it. -/
def spreadItem (env : Env n) (ctx : Context) (close : String) : Parse (Items n) := do
  sign "..."
  let items := Items.ofRest (← env.assignment ctx.inside)
  pure { items with isPattern := items.isPattern && (← atSign close) }

/-- An array. -/
def arrayLiteral (env : Env n) (ctx : Context) : Parse (Operand n) := do
  let start ← hereOffset
  sign "["
  let items ← gatherItems env do
    if ← eatSign "]" then pure none
    else if ← eatSign "," then pure (some .empty)
    else do
      let item ←
        if ← atSign "..." then spreadItem env ctx "]"
        else do pure (Items.ofOperand (← env.assignment ctx.inside))
      require ((← eatSign ",") || (← atSign "]"))
      pure (some item)
  pure (items.toOperand (← spanFrom start))

/-- Whether a property name, or a star and one, is in sight. -/
def atMethodName : Parse Bool := do pure ((← atPropertyName) || (← atSign "*"))

/-- A method of an object behind its name. -/
def objectMethod (env : Env n) (ctx : Context) (key : List (Node n)) (async generator : Bool) :
    Parse (Items n) := do
  let parts ← functionRest env (ctx.function async generator) true
  pure ⟨key ++ parts, false, false⟩

/-- A property of an object that is no spread. -/
def property (env : Env n) (ctx : Context) : Parse (Items n) := do
  require ((← token) ≠ .privateName)
  if (← atWords ["get", "set"]) && (← behind atPropertyName) then
    take
    objectMethod env ctx (← env.propertyName ctx) false false
  else do
    let async ←
      if (← atWord "async") && (← behind do pure ((← atMethodName) && !(← onNewLine))) then do
        take
        pure true
      else pure false
    let generator ← eatSign "*"
    let shorthand ← atName ctx
    let key ← env.propertyName ctx
    if async || generator || (← atSigns ["(", "<"]) then objectMethod env ctx key async generator
    else if ← eatSign ":" then
      let o ← env.assignment ctx.inside
      let items := Items.ofOperand o
      pure { items with parts := key ++ items.parts }
    else do
      require shorthand
      if ← eatSign "=" then
        let initial ← env.value ctx.inside
        pure ⟨[initial], true, true⟩
      else pure ⟨[], true, false⟩

/-- An object. -/
def objectLiteral (env : Env n) (ctx : Context) : Parse (Operand n) := do
  let start ← hereOffset
  sign "\x7b"
  let items ← gatherItems env do
    if ← eatSign "\x7d" then pure none
    else do
      let item ← if ← atSign "..." then spreadItem env ctx "\x7d" else property env ctx
      require ((← eatSign ",") || (← atSign "\x7d"))
      pure (some item)
  pure (items.toOperand (← spanFrom start))

/-! ### Words and brackets -/

/-- An expression in parentheses, which names a place if the one inside does. -/
def parens (env : Env n) (ctx : Context) : Parse (Operand n) := do
  let start ← hereOffset
  sign "("
  let o ← env.expressionOperand ctx.inside
  let e ← o.value
  sign ")"
  let e := Node.paren (← spanFrom start) e
  pure ⟨e, if o.form = .reference then .reference else .value, false⟩

/-- A function, from its word. -/
def functionExpression (env : Env n) (ctx : Context) : Parse (Node n) := do
  let start ← hereOffset
  let async ← eatWord "async"
  word "function"
  let generator ← eatSign "*"
  let own := ctx.function async generator
  if ← atName own then
    let _ ← name own
  let parts ← functionRest env own true
  pure (.other (← spanFrom start) parts)

/-- A class, from its decorators. -/
def classExpression (env : Env n) (ctx : Context) : Parse (Node n) := do
  let start ← hereOffset
  let marks ← decorators env ctx
  word "class"
  let parts ← env.run (.classTail ctx)
  pure (.other (← spanFrom start) (marks ++ parts))

/-- The arguments of a call. -/
def arguments (env : Env n) (ctx : Context) : Parse (List (Node n)) := do
  sign "("
  env.listUntil ")" do
    if ← atSign "..." then
      let start ← hereOffset
      take
      let e ← env.value ctx.inside
      pure [.other (← spanFrom start) [e]]
    else do pure [← env.value ctx.inside]

/-- What begins with the word `import`: a request for a module, or what is known of this one. -/
def importExpression (env : Env n) (ctx : Context) : Parse (Node n) := do
  let start ← hereOffset
  word "import"
  if ← eatSign "." then
    anyWord
    let parts ← if ← atSign "(" then arguments env ctx else pure []
    pure (.other (← spanFrom start) parts)
  else do
    let parts ← arguments env ctx
    require (!parts.isEmpty)
    pure (.other (← spanFrom start) parts)

/-- The primary expression of a word. -/
def wordExpression (env : Env n) (ctx : Context) (w : String) (escaped : Bool) : Parse (Operand n) := do
  let start ← hereOffset
  if escaped then
    let text ← name ctx
    pure (.ofReference (.name (← spanFrom start) text))
  else if w = "function" then do pure (.ofValue (← functionExpression env ctx))
  else if w = "class" then do pure (.ofValue (← classExpression env ctx))
  else if w = "new" then env.run (.construct ctx)
  else if w = "import" then do pure (.ofValue (← importExpression env ctx))
  else if w = "async" &&
      (← behind do pure ((← atWord "function") && !(← onNewLine))) then do
    pure (.ofValue (← functionExpression env ctx))
  else if ["this", "null", "true", "false"].contains w then
    take
    pure (.ofValue (.literal (← spanFrom start)))
  else if w = "super" then
    take
    require (← atSigns ["(", ".", "["])
    pure (.ofValue (.literal (← spanFrom start)))
  else do
    let text ← name ctx
    pure (.ofReference (.name (← spanFrom start) text))

/-- A constant, a name, or what stands in brackets. -/
def primary (env : Env n) (ctx : Context) : Parse (Operand n) := do
  let start ← hereOffset
  match ← token with
  | .number | .text => do
    take
    pure (.ofValue (.literal (← spanFrom start)))
  | .template _ _ => do
    let parts ← template env ctx false
    pure (.ofValue (.other (← spanFrom start) parts))
  | .privateName => do
    take
    require (ctx.takesIn && (← atWord "in"))
    pure (.ofValue (.literal (← spanFrom start)))
  | .word w escaped => wordExpression env ctx w escaped
  | .sign "(" => parens env ctx
  | .sign "[" => arrayLiteral env ctx
  | .sign "\x7b" => objectLiteral env ctx
  | .sign "@" => do pure (.ofValue (← classExpression env ctx))
  | .sign "<" => do
    require ctx.kind.elements
    pure (.ofValue (← env.run (.element ctx)))
  | .sign s => do
    require (s = "/" || s = "/=")
    rescan scanRegex
    require ((← token) = .regex)
    take
    pure (.ofValue (.literal (← spanFrom start)))
  | _ => failure

/-! ### Suffixes -/

/-- Whether an expression that is no operator goes on right behind type arguments. -/
def atOperandStart : Parse Bool := do
  match ← token with
  | .word w false => pure (!(["in", "instanceof", "as", "satisfies"].contains w))
  | .word _ true | .number | .text | .privateName => pure true
  | .sign s => pure (["<", ">", "+", "-", "[", "\x7b", "!", "~", "++", "--", "@"].contains s)
  | _ => pure false

/-- Type arguments of an expression, if angle brackets in sight can be nothing else. -/
def expressionTypeArguments? (env : Env n) (ctx : Context) : Parse (Option (List (Node n))) := do
  if ctx.kind.typed && (← atSigns ["<", "<<"]) then
    attempt do
      let args ← typeArguments env ctx
      let follows ← match ← token with
        | .sign "(" | .template _ _ => pure true
        | .sign s =>
          if ["<", ">", "+", "-"].contains s then pure false
          else do pure ((← onNewLine) || !(← atOperandStart))
        | _ => do pure ((← onNewLine) || !(← atOperandStart))
      require follows
      pure args
  else pure none

/-- A property behind a dot. -/
def dotted (start : Nat) (o : Operand n) : Parse (Operand n) := do
  let e ← o.value
  if (← token) = .privateName then take else anyWord
  pure (.ofReference (.property (← spanFrom start) e))

/-- A property between brackets. -/
def indexed (env : Env n) (ctx : Context) (start : Nat) (o : Operand n) : Parse (Operand n) := do
  let e ← o.value
  sign "["
  let index ← env.expression ctx.inside
  sign "]"
  pure (.ofReference (.other (← spanFrom start) [e, index]))

/-- A call, given the type arguments before its parentheses. -/
def called (env : Env n) (ctx : Context) (start : Nat) (o : Operand n) (types : List (Node n)) :
    Parse (Operand n) := do
  let e ← o.value
  let args ← arguments env ctx
  pure (.ofValue (.call (← spanFrom start) e (types ++ args)))

/-- A template behind an expression that gives it a meaning. -/
def tagged (env : Env n) (ctx : Context) (start : Nat) (o : Operand n) (types : List (Node n)) :
    Parse (Operand n) := do
  let e ← o.value
  let parts ← template env ctx true
  pure (.ofValue (.other (← spanFrom start) (e :: types ++ parts)))

/-- The mark of typed code that an expression is there. -/
def presence (start : Nat) (o : Operand n) : Parse (Operand n) := do
  let e ← o.value
  take
  pure ⟨.other (← spanFrom start) [e], o.form, false⟩

/-- What may follow a question mark and a dot. -/
def optionalSuffix (env : Env n) (ctx : Context) (start : Nat) (o : Operand n) : Parse (Operand n) := do
  if ← atSign "(" then called env ctx start o []
  else if ← atSign "[" then indexed env ctx start o
  else if ctx.kind.typed && (← atSigns ["<", "<<"]) then
    let types ← typeArguments env ctx
    called env ctx start o types
  else dotted start o

/-- One suffix of an expression, if one is in sight; the flag tells if a suffix so far was optional. -/
def suffix? (env : Env n) (ctx : Context) (start : Nat) (s : Operand n × Bool) :
    Parse (Option (Operand n × Bool)) := do
  let (o, optional) := s
  match ← token with
  | .sign "." => do
    take
    pure (some (← dotted start o, optional))
  | .sign "?." => do
    take
    pure (some (← optionalSuffix env ctx start o, true))
  | .sign "[" => do pure (some (← indexed env ctx start o, optional))
  | .sign "(" => do pure (some (← called env ctx start o [], optional))
  | .template _ _ => do
    require (!optional)
    pure (some (← tagged env ctx start o [], optional))
  | .sign "!" => do
    if ctx.kind.typed && !(← onNewLine) then do pure (some (← presence start o, optional))
    else pure none
  | .sign _ => do
    match ← expressionTypeArguments? env ctx with
    | none => pure none
    | some types =>
      if ← atSign "(" then do pure (some (← called env ctx start o types, optional))
      else
        match ← token with
        | .template _ _ => do
          require (!optional)
          pure (some (← tagged env ctx start o types, optional))
        | _ => do
          let e ← o.value
          pure (some (.ofValue (.other (← spanFrom start) (e :: types)), optional))
  | _ => pure none

/-- An expression with its suffixes.  One with an optional suffix is a whole of its own, so that it is
neither a call nor a place. -/
def suffixed (env : Env n) (ctx : Context) : Parse (Operand n) := do
  let start ← hereOffset
  let base ← primary env ctx
  let (o, optional) ← iterate (suffix? env ctx start) env.fuel (base, false)
  if optional then do
    let e ← o.value
    pure (.ofValue (.other e.expr.span [e]))
  else pure o

/-- A suffix of a class that an object is made of; calls belong to the object. -/
def constructSuffix? (env : Env n) (ctx : Context) (start : Nat) (o : Operand n) :
    Parse (Option (Operand n)) := do
  match ← token with
  | .sign "." => do
    take
    pure (some (← dotted start o))
  | .sign "[" => do pure (some (← indexed env ctx start o))
  | .sign "?." => failure
  | .template _ _ => do pure (some (← tagged env ctx start o []))
  | .sign "!" => do
    if ctx.kind.typed && !(← onNewLine) then do pure (some (← presence start o)) else pure none
  | _ => pure none

/-- The making of an object, or the expression behind the at-sign of a decorator. -/
def constructRule (env : Env n) (ctx : Context) : Parse (Operand n) := do
  let start ← hereOffset
  if ← eatWord "new" then
    if ← eatSign "." then
      word "target"
      pure (.ofValue (.literal (← spanFrom start)))
    else do
      let calleeStart ← hereOffset
      let base ← primary env ctx
      let o ← iterate (constructSuffix? env ctx calleeStart) env.fuel base
      let callee ← o.value
      let types ← expressionTypeArguments? env ctx
      let args ← if ← atSign "(" then arguments env ctx else pure []
      pure (.ofValue (.construct (← spanFrom start) callee (types.getD [] ++ args)))
  else suffixed env ctx

/-! ### Operators -/

/-- Assigns to an operand by one or two signs behind it. -/
def stepped (start : Nat) (o : Operand n) : Parse (Operand n) := do
  require (o.form = .reference)
  take
  pure (.ofValue (.unary (← spanFrom start) o.expr))

/-- An expression with suffixes and perhaps a doubled sign behind it. -/
def postfixed (env : Env n) (ctx : Context) : Parse (Operand n) := do
  let start ← hereOffset
  let o ← suffixed env ctx
  if (← atSigns ["++", "--"]) && !(← onNewLine) then stepped start o else pure o

/-- The operand of a sign or word in front, which is taken first. -/
def behindOperator (env : Env n) (ctx : Context) : Parse (Node n) := do
  take
  (← env.unary ctx).value

/-- The type between angle brackets that is said of the operand behind them. -/
def leadingType (env : Env n) (ctx : Context) : Parse (List (Node n)) := do
  openAngle
  let t ← if ← eatWord "const" then pure [] else env.type ctx
  sign ">"
  pure t

/-- An expression without binary operators. -/
def unaryRule (env : Env n) (ctx : Context) : Parse (Operand n) := do
  let start ← hereOffset
  match ← token with
  | .sign "!" => do
    let e ← behindOperator env ctx
    pure ⟨.not (← spanFrom start) e, .unary, false⟩
  | .sign s => do
    if ["+", "-", "~"].contains s then
      let e ← behindOperator env ctx
      pure ⟨.unary (← spanFrom start) e, .unary, false⟩
    else if ["++", "--"].contains s then
      take
      let o ← env.unary ctx
      require (o.form = .reference)
      pure (.ofValue (.unary (← spanFrom start) o.expr))
    else if ["<", "<<"].contains s && ctx.kind.typed && !ctx.kind.elements then
      let types ← leadingType env ctx
      let o ← env.unary ctx
      let e ← o.value
      let form := if o.form = .reference then Form.reference else .unary
      pure ⟨.other (← spanFrom start) (types ++ [e]), form, false⟩
    else postfixed env ctx
  | .word w false => do
    if ["typeof", "void", "delete"].contains w || (w = "await" && ctx.awaits) then
      let e ← behindOperator env ctx
      pure ⟨.unary (← spanFrom start) e, .unary, false⟩
    else postfixed env ctx
  | _ => postfixed env ctx

/-- The signs between operands with their strength. -/
def binarySigns : List (String × Nat) :=
  [("??", 1), ("||", 2), ("&&", 3), ("|", 4), ("^", 5), ("&", 6), ("==", 7), ("!=", 7), ("===", 7),
    ("!==", 7), ("<", 8), (">", 8), ("<=", 8), (">=", 8), ("<<", 9), (">>", 9), (">>>", 9),
    ("+", 10), ("-", 10), ("*", 11), ("/", 11), ("%", 11), ("**", 12)]

/-- The strength of the words between operands. -/
def relationStrength : Nat := 8

/-- The binary operator in sight and its strength. -/
def binaryOperator? (ctx : Context) : Parse (Option (String × Nat)) := do
  if ← atSign ">" then rescan scanAngle
  match ← token with
  | .sign s => pure ((binarySigns.lookup s).map (s, ·))
  | .word w false => do
    if w = "instanceof" || (w = "in" && ctx.takesIn) then pure (some (w, relationStrength))
    else if (w = "as" || w = "satisfies") && ctx.kind.typed && !(← onNewLine) then
      pure (some (w, relationStrength))
    else pure none
  | _ => pure none

/-- The logical operator of a sign. -/
def connective? : String → Option Connective
  | "&&" => some .and
  | "||" => some .or
  | "??" => some .nullish
  | _ => none

/-- Whether an operand of a logical operator is a bare expression of the other kind. -/
def mixes (op : Connective) (e : Node n) : Bool :=
  match e.expr with
  | .logical _ inner _ _ => (op = .nullish) != (inner = .nullish)
  | _ => false

/-- An expression of a binary operator and two operands. -/
def joined (op : String) (start : Fin n) (left right : Node n) : Parse (Node n) := do
  let span ← spanFrom start
  match connective? op with
  | some c => do
    require (!mixes c left && !mixes c right)
    pure (.logical start span.stop c left right)
  | none => pure (.other span [left, right])

/-- A type that an operand is said to have. -/
def ascription (env : Env n) (ctx : Context) (start : Nat) (o : Operand n) : Parse (Operand n) := do
  let e ← o.value
  take
  let types ← if ← eatWord "const" then pure [] else env.type ctx
  let form := if o.form = .reference then Form.reference else .value
  pure ⟨.other (← spanFrom start) (e :: types), form, false⟩

/-- One binary operator of at least some strength with its right operand. -/
def binaryStep? (env : Env n) (ctx : Context) (least : Nat) (start : Fin n) (o : Operand n) :
    Parse (Option (Operand n)) := do
  match ← binaryOperator? ctx with
  | none => pure none
  | some (op, strength) =>
    if strength < least then pure none
    else if op = "as" || op = "satisfies" then do pure (some (← ascription env ctx start o))
    else do
      let left ← o.value
      require (!(op = "**" && o.form = .unary))
      take
      let right ← (← env.binary ctx (if op = "**" then strength else strength + 1)).value
      pure (some (.ofValue (← joined op start left right)))

/-- An expression of operators that bind at least as strongly as `least`. -/
def binaryRule (env : Env n) (ctx : Context) (least : Nat) : Parse (Operand n) := do
  let start ← operandStart
  let first ← env.unary ctx
  iterate (binaryStep? env ctx least start) env.fuel first

/-- A choice between two expressions, or an expression without one. -/
def conditional (env : Env n) (ctx : Context) : Parse (Operand n) := do
  let start ← hereOffset
  let o ← env.binary ctx 0
  if ← atSign "?" then
    let test ← o.value
    take
    let yes ← env.value { ctx.inside with choice := true }
    sign ":"
    let no ← env.value ctx
    pure (.ofValue (.conditional (← spanFrom start) test yes no))
  else pure o

/-! ### Arrow functions -/

/-- Parameters and result of an arrow function between parentheses, and its arrow. -/
def arrowHead (env : Env n) (ctx : Context) : Parse (List (Node n) × Bool) := do
  let bounds ← typeParameters? env ctx
  let params ← parameters env ctx
  let hasResult := ctx.kind.typed && (← atSign ":")
  let result ← declaredResult? env ctx
  require (!(← onNewLine))
  sign "=>"
  pure (bounds ++ params ++ result, hasResult)

/-- The body of an arrow function: a block or an expression. -/
def arrowBody (env : Env n) (ctx : Context) (async : Bool) : Parse (List (Node n)) := do
  if ← atSign "\x7b" then block env (ctx.function async false)
  else do
    pure [← env.value { ctx with yields := false, awaits := async }]

/-- Whether the parentheses in sight may hold parameters, as far as two tokens show. -/
def mayBeParameters (ctx : Context) : Parse Bool :=
  behind do
    match ← token with
    | .sign s => pure ([")", "...", "[", "\x7b", "@"].contains s)
    | .word w _ => do
      let marks := [",", "=", ")"] ++ if ctx.kind.typed then [":", "?"] else []
      let named := ctx.isName w || (ctx.kind.typed && w = "this")
      let qualified := ctx.kind.typed && fieldWords.contains w
      pure ((named && (← behind (atSigns marks))) || (qualified && (← behind (atName ctx))))
    | _ => pure false

/-- Whether the angle bracket in sight opens type parameters rather than a tag. -/
def mayBeTypeParameters (ctx : Context) : Parse Bool := do
  if !ctx.kind.typed then pure false
  else if !ctx.kind.elements then pure true
  else
    behind do
      if ← atWord "const" then pure true
      else if ← atName ctx then
        behind do
          if ← atSigns [",", "="] then pure true
          else if ← atWord "extends" then
            behind do pure !(← atSigns ["=", ">", "/"])
          else pure false
      else pure false

/-- Tries a rule for an arrow function unless it failed here before. -/
def tryArrow (p : Parse α) : Parse (Option α) := do
  let o ← hereOffset
  if (← (getThe (List Nat) : StateM (List Nat) (List Nat))).contains o then pure none
  else
    match ← attempt p with
    | some a => pure (some a)
    | none => do
      modifyThe (List Nat) (o :: ·)
      pure none

/-- An arrow function whose parameters stand in parentheses, if one is in sight. -/
def arrow? (env : Env n) (ctx : Context) (async : Bool) (start : Nat) : Parse (Option (Node n)) := do
  let possible ← if ← atSign "(" then mayBeParameters ctx else
    if ← atSign "<" then mayBeTypeParameters ctx else pure false
  if !possible then pure none
  else
    let own := { ctx.inside with awaits := ctx.awaits || async }
    let whole : Parse (Node n) := do
      let (head, hasResult) ← arrowHead env own
      let body ← arrowBody env ctx async
      require (!(ctx.choice && hasResult) || (← atSign ":"))
      pure (.other (← spanFrom start) (head ++ body))
    if ctx.choice then attempt whole
    else
      match ← tryArrow (arrowHead env own) with
      | none => pure none
      | some (head, _) => do
        let body ← arrowBody env ctx async
        pure (some (.other (← spanFrom start) (head ++ body)))

/-- An arrow function of one parameter without parentheses, if one is in sight. -/
def shortArrow? (env : Env n) (ctx : Context) (async : Bool) (start : Nat) :
    Parse (Option (Node n)) := do
  if (← atName ctx) && (← behind do pure ((← atSign "=>") && !(← onNewLine))) then
    let _ ← name ctx
    sign "=>"
    let body ← arrowBody env ctx async
    pure (some (.other (← spanFrom start) body))
  else pure none

/-- An arrow function, if one is in sight. -/
def anyArrow? (env : Env n) (ctx : Context) : Parse (Option (Node n)) := do
  let start ← hereOffset
  match ← shortArrow? env ctx false start with
  | some e => pure (some e)
  | none =>
    if (← atWord "async") && (← behind do pure !(← onNewLine)) then
      attempt do
        take
        match ← shortArrow? env ctx true start with
        | some e => pure e
        | none =>
          match ← arrow? env ctx true start with
          | some e => pure e
          | none => failure
    else arrow? env ctx false start

/-! ### Assignments -/

/-- The signs that assign. -/
def assignmentSigns : List String :=
  ["=", "+=", "-=", "*=", "/=", "%=", "**=", "<<=", ">>=", ">>>=", "&=", "|=", "^=", "&&=", "||=",
    "??="]

/-- A value handed out of a generator. -/
def yieldExpression (env : Env n) (ctx : Context) : Parse (Node n) := do
  let start ← hereOffset
  take
  if ← onNewLine then pure (.literal (← spanFrom start))
  else if ← eatSign "*" then
    let e ← env.value ctx
    pure (.unary (← spanFrom start) e)
  else
    let ends ← match ← token with
      | .finish => pure true
      | .word "in" false | .word "of" false => pure true
      | .sign s => pure ([")", "]", "\x7d", ",", ";", ":"].contains s)
      | _ => pure false
    if ends then pure (.literal (← spanFrom start))
    else do
      let e ← env.value ctx
      pure (.unary (← spanFrom start) e)

/-- An assignment to an operand, whose sign is in sight. -/
def assigned (env : Env n) (ctx : Context) (start : Nat) (o : Operand n) : Parse (Operand n) := do
  let plain ← atSign "="
  require (o.form = .reference || (plain && o.form = .pattern))
  take
  let right ← env.value ctx
  let e := Node.other (← spanFrom start) [o.expr, right]
  pure ⟨e, if plain then .patternWithDefault else .value, false⟩

/-- An expression without a comma. -/
def assignmentRule (env : Env n) (ctx : Context) : Parse (Operand n) := do
  let start ← hereOffset
  if ctx.yields && (← atWord "yield") then do pure (.ofValue (← yieldExpression env ctx))
  else
    match ← anyArrow? env ctx with
    | some e => pure (.ofValue e)
    | none => do
      let o ← conditional env ctx
      if ← atSigns assignmentSigns then assigned env ctx start o else pure o

end ChainLint.Syntax
