import ChainLint.CommandLine.Arguments
import ChainLint.CommandLine.Collect
import ChainLint.Report.Document
import ChainLint.Report.Pretty
import ChainLint.Report.Rules

/-!
# A run of the program

`run palette disk args` is what the program answers to its arguments: an exit status and what it
writes to its two outputs.  The status is two for arguments that are not accepted, and one for a
failure, for a finding that is an error and for a file that could not be linted, whether listed or not.
-/

namespace ChainLint.CommandLine

/-- What a run gives. -/
structure Answer where
  exit : Nat
  output : String
  errors : String
deriving DecidableEq, Inhabited

/-- The rules of a configuration file, or those of the empty configuration. -/
def loadRules (disk : Disk) (config : Option String) : Except Failure RuleSet := do
  let c ←
    match config with
    | none => pure Config.empty
    | some path => do
      let node ← (disk path).mapError (.unreadable path)
      let text ← node.text?.mapError (.unreadable path)
      (Config.read text).mapError (.malformedConfig path)
  (RuleSet.ofConfig c).mapError .invalidConfig

/-- The report on a file. -/
def lintFile (rules : RuleSet) (file : SourceFile) : Except Failure Report := do
  let text ← (Node.file file.bytes).text?.mapError (.unreadable file.path)
  pure ⟨file.path, text.toList, lintSource file.path text.toList rules⟩

/-- What is said when no rule runs. -/
def warningText (p : Palette) (rules : RuleSet) : String :=
  if rules.enabled.isEmpty then p.paint .yellow "Warning: No rules enabled" ++ "\n" else ""

/-- What is said before files are linted. -/
def announcement (rules : RuleSet) (format : Format) (files : List SourceFile) : String :=
  match format with
  | .json => ""
  | .pretty =>
    "Linting " ++ toString files.length ++ " file(s) with " ++ toString rules.enabled.length ++
      " rule(s): " ++ ", ".intercalate rules.enabled ++ "\n"

/-- Reports in a format. -/
def render (p : Palette) (r : LintRequest) (reports : List Report) : String :=
  match r.format with
  | .pretty => renderPretty p r.quiet reports
  | .json => renderJson r.quiet reports ++ "\n"

/-- The exit status after reports. -/
def exitStatus (reports : List Report) : Nat := if reports.any Report.hasErrors then 1 else 0

/-- The answer of a run that failed after it had written something. -/
def failed (written : String) (f : Failure) : Answer := ⟨1, "", written ++ f.text⟩

/-- The answer to a request for linting. -/
def lintAnswer (p : Palette) (disk : Disk) (r : LintRequest) : Answer :=
  match loadRules disk r.config with
  | .error f => failed "" f
  | .ok rules =>
    let warned := warningText p rules
    match collect disk r.paths with
    | .error f => failed warned f
    | .ok files =>
      let said := warned ++ announcement rules r.format files
      match files.mapM (lintFile rules) with
      | .error f => failed said f
      | .ok reports => ⟨exitStatus reports, render p r reports, said⟩

/-- What the program says of its use. -/
def usage : String :=
  "Usage: rc-lint [OPTIONS] [PATHS]...\n\n" ++
    "Options:\n" ++
    "      --list-rules       Print the available rules and exit\n" ++
    "  -c, --config <CONFIG>  Path to a JSON config\n" ++
    "  -f, --format <FORMAT>  Output format: pretty or json\n" ++
    "  -q, --quiet            Report errors only\n" ++
    "  -h, --help             Print help\n"

/-- The answer of the program to its arguments. -/
def run (p : Palette) (disk : Disk) (args : List String) : Answer :=
  match Request.ofArguments args with
  | .error e => ⟨2, "", "error: " ++ e.message ++ "\n"⟩
  | .ok .help => ⟨0, usage, ""⟩
  | .ok .listRules => ⟨0, renderRules p, ""⟩
  | .ok (.lint r) => lintAnswer p disk r

end ChainLint.CommandLine
