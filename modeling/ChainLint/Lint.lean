import ChainLint.Comment.Check
import ChainLint.Program
import ChainLint.RuleSet

/-!
# Linting a program

The findings of a program are those of the rule on comments, in the order of the comments, and then
those of the rule on chains, in the order of the logical expressions; each takes the level set for
its rule.  `lint rules source program` lists them by span, and findings of equal span keep their order.

* `chainFindings rule program`: the findings on chains, and the nodes that were looked at for them.
* `lintNotes`: the log record of a run.
-/

namespace ChainLint

/-- The findings on the chains of a program, with the nodes that were looked at. -/
def chainFindings (rule : ChainRule) (program : Program) : List Diagnostic × Seen :=
  rule.checkAll program.logicals .empty

/-- The findings of the rules that run, with the nodes that were looked at. -/
def rawFindings (rules : RuleSet) (source : List Char) (program : Program) :
    List Diagnostic × Seen :=
  let comments := if rules.comments then Comment.findings source program.comments else []
  match rules.chains with
  | none => (comments, .empty)
  | some rule =>
    let (chains, seen) := chainFindings rule program
    (comments ++ chains, seen)

/-- A finding at the level set for its rule. -/
def RuleSet.relevel (rules : RuleSet) (d : Diagnostic) : Diagnostic :=
  match rules.level? d.rule with
  | some level => d.withLevel level
  | none => d

/-- The findings of a program by span. -/
def lint (rules : RuleSet) (source : List Char) (program : Program) : List Diagnostic :=
  ((rawFindings rules source program).1.map rules.relevel).mergeSort Diagnostic.precedes

/-- The log record of linting a program. -/
def lintNotes (rules : RuleSet) (kind : SourceKind) (source : List Char) (program : Program) :
    List LogRecord :=
  let (found, seen) := rawFindings rules source program
  [⟨.debug, .runner, "Linted " ++ toString (Text.byteLength source) ++ " bytes of " ++ kind.text ++
    ": " ++ toString found.length ++ " diagnostic(s), " ++ toString seen.size ++
    " chain operand(s) examined"⟩]

/-- How many findings have a level. -/
def countLevel (level : Level) (found : List Diagnostic) : Nat :=
  found.countP (·.level = level)

end ChainLint
