import Mathlib.Data.List.Basic
import ChainLint.Report.Document

/-!
# Reading a document of reports

The document of reports is read back into entries: for each file its name, its findings with their
places, and why it could not be linted.  What is registered of a finding's rule is passed over.

* `Entry`, `entries? v`: what a document says, if it is a document of reports.
* `Diagnostic.toFinding source d`, `Report.toEntry quiet r`: what is said of a finding and of a report.
* `entries?_reportsToJson`: the document of reports says exactly that.
-/

namespace ChainLint

/-! ### Parts of a document -/

namespace Json

/-- The member of an object under a key. -/
def member? (key : String) : Json → Option Json
  | .object members => members.lookup key
  | _ => none

/-- A text. -/
def string? : Json → Option String
  | .string s => some s
  | _ => none

/-- A whole number from zero on. -/
def natural? : Json → Option Nat
  | .number (.integer (.ofNat n)) => some n
  | _ => none

/-- The items of an array. -/
def items? : Json → Option (List Json)
  | .array items => some items
  | _ => none

end Json

/-- The level of a name. -/
def Level.ofText? (text : String) : Option Level :=
  [Level.error, .warning].find? (·.text = text)

theorem Level.ofText?_text (level : Level) : ofText? level.text = some level := by
  cases level <;> decide

/-! ### Entries -/

/-- What a document says of a file. -/
structure Entry where
  file : String
  findings : List Finding
  error : Option String
deriving DecidableEq, Inhabited

/-- A finding of a document. -/
def Finding.ofJson? (v : Json) : Option Finding := do
  let rule ← (v.member? "rule").bind Json.string?
  let message ← (v.member? "message").bind Json.string?
  let severity ← (v.member? "severity").bind Json.string?
  let level ← Level.ofText? severity
  let line ← (v.member? "line").bind Json.natural?
  let column ← (v.member? "column").bind Json.natural?
  let start ← (v.member? "start").bind Json.natural?
  let stop ← (v.member? "end").bind Json.natural?
  pure ⟨rule, message, level, ⟨line, column⟩, ⟨start, stop⟩⟩

/-- The entry of a file in a document. -/
def Entry.ofJson? (v : Json) : Option Entry := do
  let file ← (v.member? "file").bind Json.string?
  let findings ← ((v.member? "diagnostics").bind Json.items?).bind (·.mapM Finding.ofJson?)
  pure ⟨file, findings, (v.member? "error").bind Json.string?⟩

/-- The entries of a document. -/
def entries? (v : Json) : Option (List Entry) :=
  v.items?.bind (·.mapM Entry.ofJson?)

/-! ### What is said of reports -/

/-- A diagnostic as a finding at its place. -/
def Diagnostic.toFinding (source : List Char) (d : Diagnostic) : Finding where
  rule := qualified d.rule
  message := d.message
  level := d.level
  place := d.place source
  span := d.span

/-- A report as an entry. -/
def Report.toEntry (quiet : Bool) (r : Report) : Entry :=
  match r.outcome with
  | .ok found => ⟨r.path, (shown quiet found).map (Diagnostic.toFinding r.source), none⟩
  | .error e => ⟨r.path, [], some e.message⟩

theorem mapM_ofJson {α β : Type} {write : α → Json} {read : Json → Option β} {view : α → β}
    (h : ∀ a, read (write a) = some (view a)) (items : List α) :
    (items.map write).mapM read = some (items.map view) := by
  induction items with
  | nil => rfl
  | cons a items ih => rw [List.map_cons, List.mapM_cons, h, ih]; rfl

theorem Finding.ofJson?_findingJson (source : List Char) (d : Diagnostic) :
    ofJson? (findingJson source d) = some (d.toFinding source) := by
  have hseverity := Level.ofText?_text d.level
  simp [ofJson?, findingJson, Json.member?, Json.string?, Json.natural?, Json.ofNat, List.lookup_cons,
    hseverity]
  rfl

theorem Entry.ofJson?_toJson (quiet : Bool) (r : Report) :
    ofJson? (r.toJson quiet) = some (r.toEntry quiet) := by
  rw [ofJson?, Report.toJson, Report.toEntry]
  cases r.outcome with
  | ok found =>
    have hfindings := mapM_ofJson (Finding.ofJson?_findingJson r.source) (shown quiet found)
    simp [Json.member?, Json.string?, Json.items?, List.lookup_cons, hfindings]
  | error e => simp [Json.member?, Json.string?, Json.items?, List.lookup_cons]

/-- **The document of reports** says of each report, in order, its file, its listed findings with
their places, and why it could not be linted. -/
theorem entries?_reportsToJson (quiet : Bool) (reports : List Report) :
    entries? (reportsToJson quiet reports) = some (reports.map (Report.toEntry quiet)) :=
  mapM_ofJson (Entry.ofJson?_toJson quiet) reports

end ChainLint
