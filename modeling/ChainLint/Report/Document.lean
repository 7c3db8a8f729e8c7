import ChainLint.Json.Printer
import ChainLint.Report.Basic

/-!
# Reports as a document

An array with one object for each file: its name, its findings and, if it could not be linted, why.

* `Report.toJson`, `reportsToJson`: the values.
* `renderJson`: the text of the array.
-/

namespace ChainLint

/-- What is registered of a finding's rule, as members. -/
def ruleMembers (name : String) : List (String × Json) :=
  match Rule.find? name with
  | some rule => [("category", .string rule.category.text), ("docsUrl", .string rule.docsUrl)]
  | none => []

/-- A finding with its place and what is registered of its rule. -/
def findingJson (source : List Char) (d : Diagnostic) : Json :=
  let place := d.place source
  .object ([("rule", .string (qualified d.rule)), ("message", .string d.message),
    ("severity", .string d.level.text), ("line", Json.ofNat place.line),
    ("column", Json.ofNat place.column), ("start", Json.ofNat d.span.start),
    ("end", Json.ofNat d.span.stop)] ++ ruleMembers d.rule)

/-- A report as a value. -/
def Report.toJson (quiet : Bool) (r : Report) : Json :=
  match r.outcome with
  | .ok found =>
    .object [("file", .string r.path),
      ("diagnostics", .array ((shown quiet found).map (findingJson r.source)))]
  | .error e =>
    .object [("file", .string r.path), ("diagnostics", .array []), ("error", .string e.message)]

/-- Reports as a value. -/
def reportsToJson (quiet : Bool) (reports : List Report) : Json :=
  .array (reports.map (Report.toJson quiet))

/-- The text of reports as a value. -/
def renderJson (quiet : Bool) (reports : List Report) : String :=
  String.ofList (Json.pretty (reportsToJson quiet reports))

end ChainLint
