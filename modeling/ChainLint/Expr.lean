import ChainLint.Text.Position

/-!
# Expressions

The rules look at few forms of an expression: names, calls, logical expressions, negations and
parentheses.  Every other form is `other`, of which only the span and the expressions inside matter;
the abbreviations below it say which parts those are.

* `Expr.bare e`: the expression inside any parentheses.
* `Expr.logicals e`: the logical expressions in `e`, each before what it contains, left before right.
-/

namespace ChainLint

/-- The three logical operators. -/
inductive Connective
  | and
  | or
  | nullish
deriving DecidableEq, Inhabited

/-- An expression with the spans of its nodes. -/
inductive Expr
  | name (span : Span) (text : String)
  | call (span : Span) (callee : Expr) (args : List Expr)
  | logical (span : Span) (op : Connective) (left right : Expr)
  | not (span : Span) (arg : Expr)
  | paren (span : Span) (inner : Expr)
  | other (span : Span) (parts : List Expr)
deriving Inhabited

/-- A logical expression on its own. -/
structure Logical where
  span : Span
  op : Connective
  left : Expr
  right : Expr
deriving Inhabited

namespace Expr

/-- A constant. -/
abbrev literal (span : Span) : Expr := .other span []

/-- A call that is left out when its callee is missing. -/
abbrev optionalCall (span : Span) (callee : Expr) (args : List Expr) : Expr :=
  .other span (callee :: args)

/-- The making of an object. -/
abbrev construct (span : Span) (callee : Expr) (args : List Expr) : Expr :=
  .other span (callee :: args)

/-- A property of an object by its name. -/
abbrev property (span : Span) (object : Expr) : Expr := .other span [object]

/-- A unary operator other than negation. -/
abbrev unary (span : Span) (arg : Expr) : Expr := .other span [arg]

/-- A choice between two expressions. -/
abbrev conditional (span : Span) (test yes no : Expr) : Expr := .other span [test, yes, no]

/-- Expressions of which the last is the value. -/
abbrev sequence (span : Span) (parts : List Expr) : Expr := .other span parts

/-- The items of an array. -/
abbrev array (span : Span) (parts : List Expr) : Expr := .other span parts

/-- The span of an expression. -/
def span : Expr → Span
  | .name s _ => s
  | .call s _ _ => s
  | .logical s _ _ _ => s
  | .not s _ => s
  | .paren s _ => s
  | .other s _ => s

/-- The expression inside any parentheses. -/
def bare : Expr → Expr
  | .paren _ e => bare e
  | e => e

mutual

/-- The logical expressions of an expression, each before what it contains. -/
def logicals : Expr → List Logical
  | .name _ _ => []
  | .call _ f args => logicals f ++ logicalsIn args
  | .logical s op l r => ⟨s, op, l, r⟩ :: (logicals l ++ logicals r)
  | .not _ e => logicals e
  | .paren _ e => logicals e
  | .other _ parts => logicalsIn parts

/-- The logical expressions of several expressions in order. -/
def logicalsIn : List Expr → List Logical
  | [] => []
  | e :: es => logicals e ++ logicalsIn es

end

end Expr

end ChainLint
