import ChainLint.Expr

/-!
# Nodes of a source

A `Node n` is an expression of a source of `n` bytes: each logical expression in it begins before the
end of the source.  The grammar builds its expressions as nodes, of which only a logical expression
has to show where it begins, so that whatever a source is read as points into the source.

* `Node.logical start stop op left right`: a logical expression, which begins inside the source.
* `Node.inside_parts`: so do all logical expressions of several nodes.
-/

namespace ChainLint.Syntax

/-- An expression of a source of `n` bytes. -/
structure Node (n : Nat) where
  expr : Expr
  inside : ∀ l ∈ expr.logicals, l.span.start < n

namespace Node

variable {n : Nat}

/-- The logical expressions of several nodes begin inside the source. -/
theorem inside_parts (parts : List (Node n)) :
    ∀ l ∈ Expr.logicalsIn (parts.map expr), l.span.start < n := by
  induction parts with
  | nil => simp [Expr.logicalsIn]
  | cons e es ih =>
    rw [List.map_cons, Expr.logicalsIn]
    exact List.forall_mem_append.mpr ⟨e.inside, ih⟩

/-- A name. -/
def name (span : Span) (text : String) : Node n :=
  ⟨.name span text, by simp [Expr.logicals]⟩

/-- A call. -/
def call (span : Span) (callee : Node n) (args : List (Node n)) : Node n where
  expr := .call span callee.expr (args.map expr)
  inside := by
    rw [Expr.logicals]
    exact List.forall_mem_append.mpr ⟨callee.inside, inside_parts args⟩

/-- A logical expression from its start, which lies inside the source, to its end. -/
def logical (start : Fin n) (stop : Nat) (op : Connective) (left right : Node n) : Node n where
  expr := .logical ⟨start, stop⟩ op left.expr right.expr
  inside := by
    rw [Expr.logicals]
    exact List.forall_mem_cons.mpr
      ⟨start.isLt, List.forall_mem_append.mpr ⟨left.inside, right.inside⟩⟩

/-- A negation. -/
def not (span : Span) (arg : Node n) : Node n where
  expr := .not span arg.expr
  inside := by
    rw [Expr.logicals]
    exact arg.inside

/-- An expression in parentheses. -/
def paren (span : Span) (inner : Node n) : Node n where
  expr := .paren span inner.expr
  inside := by
    rw [Expr.logicals]
    exact inner.inside

/-- An expression of another form. -/
def other (span : Span) (parts : List (Node n)) : Node n where
  expr := .other span (parts.map expr)
  inside := by
    rw [Expr.logicals]
    exact inside_parts parts

/-- A constant. -/
abbrev literal (span : Span) : Node n := .other span []

/-- The making of an object. -/
abbrev construct (span : Span) (callee : Node n) (args : List (Node n)) : Node n :=
  .other span (callee :: args)

/-- A property of an object by its name. -/
abbrev property (span : Span) (object : Node n) : Node n := .other span [object]

/-- A unary operator other than negation. -/
abbrev unary (span : Span) (arg : Node n) : Node n := .other span [arg]

/-- A choice between two expressions. -/
abbrev conditional (span : Span) (test yes no : Node n) : Node n := .other span [test, yes, no]

/-- Expressions of which the last is the value. -/
abbrev sequence (span : Span) (parts : List (Node n)) : Node n := .other span parts

instance : Inhabited (Node n) := ⟨.literal default⟩

end Node

end ChainLint.Syntax
