import ChainLint.Syntax.Statement

/-!
# Sources

* `goals n`: the meaning of the grammar's goals when rules may be nested `n` deep.
* `Program.parse? kind source`: the program that a source of a kind holds, unless it is malformed.

Every goal within a goal takes a token or stands behind one of a few fixed chains of goals, so a depth
that grows with the length of the source should be out of reach.  This is assumed here and not proved:
a source that is nested deeper than `depthFor` allows would be taken for a malformed one.
-/

namespace ChainLint.Syntax

variable {n : Nat}

/-- The rule of a goal. -/
def goalRule (env : Env n) : (g : Goal) → Parse (g.Out n)
  | .assignment ctx => assignmentRule env ctx
  | .binary ctx least => binaryRule env ctx least
  | .unary ctx => unaryRule env ctx
  | .construct ctx => constructRule env ctx
  | .binding ctx => bindingRule env ctx
  | .statement ctx place => statementRule env ctx place
  | .type ctx conditional => typeRule env ctx conditional
  | .typeOperand ctx => typeOperand env ctx
  | .element ctx => elementRule env ctx
  | .classTail ctx => classRule env ctx

/-- The goals at a depth, made from those one level below. -/
def goals : Nat → (g : Goal) → Parse (g.Out n)
  | 0, _ => failure
  | n + 1, g => goalRule ⟨n, goals n⟩ g

/-- The statements of a whole source. -/
def statements (env : Env n) (ctx : Context) : Parse (List (Node n)) :=
  env.gather do
    if (← token) = .finish then pure none
    else do pure (some (← env.statement ctx .list))

/-- A depth for sources of a length.  It is assumed, not proved, that none of them reaches it; one that
did would fail to parse, as a malformed source does. -/
def depthFor (length : Nat) : Nat := 32 * length + 64

/-- The state before the first token of a source. -/
def State.start (source : List Char) : State :=
  let c := Cursor.start source
  ⟨c, [], .at c⟩

end ChainLint.Syntax

namespace ChainLint

open Syntax in
/-- The program of a source, unless the source is malformed. -/
def Program.parse? (kind : SourceKind) (source : List Char) : Option Program :=
  let depth := depthFor source.length
  let env : Env (Text.byteLength source) := ⟨depth, goals depth⟩
  match (((statements env (.outermost kind)).run (.start source)).run.run []).1 with
  | some (body, s) => some ⟨(s.here.comments ++ s.comments).reverse, body.map Node.expr⟩
  | none => none

end ChainLint
