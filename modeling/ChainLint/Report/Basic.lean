import ChainLint.Outcome

/-!
# Reports

A `Report` is the outcome of linting one file, with what is needed to show it.

* `Report.hasErrors`: whether the report makes the program fail.
* `shown quiet found`: the findings that are listed.
-/

namespace ChainLint

/-- The outcome of linting one file. -/
structure Report where
  path : String
  source : List Char
  outcome : Outcome
deriving Inhabited

/-- Whether a file has an error among its findings or could not be linted. -/
def Report.hasErrors (r : Report) : Bool :=
  match r.outcome with
  | .ok found => found.any (·.level = .error)
  | .error _ => true

/-- The findings that are listed: all of them, or only errors. -/
def shown (quiet : Bool) (found : List Diagnostic) : List Diagnostic :=
  found.filter fun d => !quiet || d.level = .error

end ChainLint
