import ChainLint.Report.Basic
import ChainLint.Report.Style

/-!
# Reports as lines

One line for each finding and for each file that could not be linted, and a summary of how many
errors and warnings were listed.

* `Report.lines`, `summary`, `renderPretty`: the lines, the summary, and both together.
-/

namespace ChainLint

/-- How many errors and warnings are listed. -/
structure Tally where
  errors : Nat
  warnings : Nat
deriving DecidableEq, Inhabited

namespace Tally

/-- Nothing is listed. -/
def zero : Tally := ⟨0, 0⟩

/-- Both counts together. -/
def add (a b : Tally) : Tally := ⟨a.errors + b.errors, a.warnings + b.warnings⟩

/-- One finding at a level. -/
def one : Level → Tally
  | .error => ⟨1, 0⟩
  | .warning => ⟨0, 1⟩

/-- Errors and warnings together. -/
def total (t : Tally) : Nat := t.errors + t.warnings

end Tally

/-- The word for a level in its colour. -/
def Palette.level (p : Palette) (level : Level) : String :=
  match level with
  | .error => p.paint .red level.text
  | .warning => p.paint .yellow level.text

/-- The line of a finding. -/
def findingLine (p : Palette) (path : String) (source : List Char) (d : Diagnostic) : String :=
  let place := d.place source
  path ++ ":" ++ toString place.line ++ ":" ++ toString place.column ++ "  " ++ p.level d.level ++
    "  " ++ d.message ++ "  " ++ p.paint .dimmed (qualified d.rule) ++ "\n"

/-- The lines of a report. -/
def Report.lines (p : Palette) (quiet : Bool) (r : Report) : List String :=
  match r.outcome with
  | .ok found => (shown quiet found).map (findingLine p r.path r.source)
  | .error e => [r.path ++ "  " ++ p.level .error ++ "  " ++ e.message ++ "\n"]

/-- What a report adds to the counts; a file that could not be linted is an error. -/
def Report.tally (quiet : Bool) (r : Report) : Tally :=
  match r.outcome with
  | .ok found => ((shown quiet found).map fun d => Tally.one d.level).foldl Tally.add .zero
  | .error _ => .one .error

/-- The summary of the counts. -/
def summary (p : Palette) (t : Tally) : String :=
  if t.total = 0 then p.paint .green "No problems found" ++ "\n"
  else
    "\nFound " ++ toString t.total ++ " problem(s) (" ++ p.paint .red (toString t.errors) ++
      " error(s), " ++ p.paint .yellow (toString t.warnings) ++ " warning(s))\n"

/-- Reports as lines with a summary. -/
def renderPretty (p : Palette) (quiet : Bool) (reports : List Report) : String :=
  String.join (reports.flatMap (Report.lines p quiet)) ++
    summary p ((reports.map (Report.tally quiet)).foldl Tally.add .zero)

end ChainLint
