import ChainLint.Text.Position
import ChainLint.Json.Value

/-!
# Diagnostics

A `Diagnostic` is one finding: the name of its rule, the span it points at, a message and a level.

* `Diagnostic.place source`: the line and column where it starts.
* `Diagnostic.precedes`: the order in which findings are listed, by start and then by end.
-/

namespace ChainLint

/-- How serious a finding is. -/
inductive Level
  | error
  | warning
deriving DecidableEq, Inhabited

/-- The name of a level. -/
def Level.text : Level → String
  | .error => "error"
  | .warning => "warning"

/-- A finding of a rule. -/
structure Diagnostic where
  rule : String
  span : Span
  message : String
  level : Level
deriving DecidableEq, Inhabited

namespace Diagnostic

/-- A finding at the level that rules use by themselves. -/
def warning (rule : String) (span : Span) (message : String) : Diagnostic :=
  ⟨rule, span, message, .warning⟩

/-- A finding at the highest level. -/
def error (rule : String) (span : Span) (message : String) : Diagnostic :=
  ⟨rule, span, message, .error⟩

/-- The same finding at another level. -/
def withLevel (d : Diagnostic) (level : Level) : Diagnostic := { d with level := level }

/-- The line and column where a finding starts. -/
def place (d : Diagnostic) (source : List Char) : Position := Text.position source d.span.start

/-- Whether `a` is listed before `b` or at the same span. -/
def precedes (a b : Diagnostic) : Bool :=
  a.span.start < b.span.start || (a.span.start = b.span.start && a.span.stop ≤ b.span.stop)

/-- A finding as a document. -/
def toJson (d : Diagnostic) : Json :=
  .object [("rule", .string d.rule), ("start", Json.ofNat d.span.start),
    ("end", Json.ofNat d.span.stop), ("message", .string d.message),
    ("severity", .string d.level.text)]

end Diagnostic

end ChainLint
