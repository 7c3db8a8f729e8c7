import ChainLint.Report.Style
import ChainLint.Rule

/-!
# The list of rules

* `renderRules`: every registered rule with its id, category and description, and its documentation
  on a line below.
-/

namespace ChainLint

/-- The two lines of a rule. -/
def Rule.lines (p : Palette) (r : Rule) : String :=
  p.paint .bold r.id ++ "  " ++ r.category.text ++ "  " ++ r.description ++ "\n    " ++
    p.paint .dimmed r.docsUrl ++ "\n"

/-- The list of the registered rules. -/
def renderRules (p : Palette) : String := String.join (Rule.all.map (Rule.lines p))

end ChainLint
