/-!
# Log records

What the program tells about its work beside its results.  A function that has something to tell
has a partner that lists its records, so results can be stated without them.
-/

namespace ChainLint

/-- How much a record matters. -/
inductive LogLevel
  | debug
  | trace
deriving DecidableEq, Inhabited

/-- The part of the program that a record comes from. -/
inductive LogSource
  | front
  | config
  | runner
deriving DecidableEq, Inhabited

/-- One record. -/
structure LogRecord where
  level : LogLevel
  source : LogSource
  text : String
deriving DecidableEq, Inhabited

/-- The name of a level. -/
def LogLevel.text : LogLevel → String
  | .debug => "DEBUG"
  | .trace => "TRACE"

/-- The name under which a part of the program writes. -/
def LogSource.text : LogSource → String
  | .front => "ringcentral_lint"
  | .config => "ringcentral_linter::config"
  | .runner => "ringcentral_linter::visitor"

/-- A record on one line. -/
def LogRecord.line (r : LogRecord) : String :=
  r.level.text ++ " " ++ r.source.text ++ " " ++ r.text

end ChainLint
