import ChainLint.Lint
import ChainLint.Syntax.Source

/-!
# Linting a source

* `lintSource file source rules`: the findings of a source, or why it has none to list.  The file's
  name tells which forms the source may use.
* `lintText source file? config?`: the same from the text of a configuration, each finding as a
  `Finding` with its place.
-/

namespace ChainLint

/-- Why no findings can be listed. -/
inductive LintError
  | malformed (file : String) (messages : List String)
  | config (error : ConfigError)
deriving DecidableEq, Inhabited

namespace LintError

/-- What failed, without the reasons. -/
def headline : LintError → String
  | .malformed file _ => "failed to parse " ++ file
  | .config e => e.message

/-- The wording of an error. -/
def message : LintError → String
  | .malformed file messages => "failed to parse " ++ file ++ ": " ++ "; ".intercalate messages
  | .config e => e.message

end LintError

/-- The findings of a source, or why it has none to list. -/
abbrev Outcome := Except LintError (List Diagnostic)

/-- What is said of a source that is malformed.  This one text stands for all that could be said of what
is wrong with a source, so malformed sources of one name are not told apart. -/
def malformedMessages : List String := ["Unexpected token"]

/-- The findings of a source; a malformed one is not linted at all. -/
def lintSource (file : String) (source : List Char) (rules : RuleSet) : Outcome :=
  match Program.parse? (.ofPath file) source with
  | some program => .ok (lint rules source program)
  | none => .error (.malformed file malformedMessages)

/-- The log records of linting a source. -/
def lintSourceNotes (file : String) (source : List Char) (rules : RuleSet) : List LogRecord :=
  let kind := SourceKind.ofPath file
  match Program.parse? kind source with
  | some program =>
    lintNotes rules kind source program ++
      [⟨.debug, .front, file ++ ": " ++ toString (lint rules source program).length ++
        " diagnostic(s)"⟩]
  | none => []

/-! ### From the text of a configuration -/

/-- A finding as an editor shows it: under the rule's id and at its place, in numbers of 32 bits. -/
structure Finding where
  rule : String
  message : String
  level : Level
  place : Position
  span : Span
deriving DecidableEq, Inhabited

/-- A diagnostic of a source as a finding. -/
def Finding.of (source : List Char) (d : Diagnostic) : Finding where
  rule := qualified d.rule
  message := d.message
  level := d.level
  place := (d.place source).narrow
  span := d.span

/-- The name of a source that has none. -/
def unnamedFile : String := "input.tsx"

/-- The rules of a configuration's text, or all of them as they are. -/
def rulesOf (config : Option String) : Except LintError RuleSet :=
  match config with
  | some text => (RuleSet.ofText text).mapError .config
  | none => .ok .default

/-- The findings of a source under the rules of a configuration's text. -/
def lintText (source : List Char) (file config : Option String) : Except LintError (List Finding) :=
  match rulesOf config with
  | .error e => .error e
  | .ok rules => (lintSource (file.getD unnamedFile) source rules).map (·.map (Finding.of source))

/-- The log records of linting a source under the rules of a configuration's text. -/
def lintTextNotes (source : List Char) (file config : Option String) : List LogRecord :=
  ((config.map RuleSet.textNotes).getD []) ++
    match rulesOf config with
    | .error _ => []
    | .ok rules => lintSourceNotes (file.getD unnamedFile) source rules

end ChainLint
