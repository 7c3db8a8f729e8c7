import ChainLint.CommandLine.Disk
import ChainLint.Config.Error

/-!
# Failures of a run

A `Failure` ends a run before anything is reported.  `Failure.text` shows its message and, indented
below, its causes; several causes are numbered from the nearest one.
-/

namespace ChainLint.CommandLine

/-- Why a run ends without a report. -/
inductive Failure
  | pathNotFound (path : String)
  | unreadable (path : String) (fault : ReadFault)
  | malformedConfig (path : String) (error : ConfigError)
  | invalidConfig (error : ConfigError)
deriving DecidableEq, Inhabited

namespace Failure

/-- What failed. -/
def message : Failure → String
  | .pathNotFound path => "Path not found: " ++ path
  | .unreadable path _ => "Failed to read " ++ path
  | .malformedConfig path _ => "Failed to parse " ++ path
  | .invalidConfig _ => "Invalid lint configuration"

/-- Why it failed, the nearest cause first. -/
def causes : Failure → List String
  | .pathNotFound _ => []
  | .unreadable _ fault => [fault.message]
  | .malformedConfig _ e => e.message :: e.cause?.toList
  | .invalidConfig e => e.message :: e.cause?.toList

/-- A text whose further lines stand behind a margin. -/
def indentLines (margin : String) (text : String) : String :=
  String.join (text.toList.map fun c => if c = '\n' then "\n" ++ margin else c.toString)

/-- A number at the end of five columns. -/
def numberColumn (n : Nat) : String :=
  let text := toString n
  String.ofList (List.replicate (5 - text.length) ' ') ++ text

/-- Causes with their numbers. -/
def numberedCauses : Nat → List String → String
  | _, [] => ""
  | n, c :: cs =>
    "\n" ++ numberColumn n ++ ": " ++ indentLines "       " c ++ numberedCauses (n + 1) cs

/-- The causes below a message. -/
def causesText : List String → String
  | [] => ""
  | [c] => "\n\nCaused by:\n    " ++ indentLines "    " c
  | cs => "\n\nCaused by:" ++ numberedCauses 0 cs

/-- A failure as it is shown. -/
def text (f : Failure) : String := "Error: " ++ f.message ++ causesText f.causes ++ "\n"

end Failure

end ChainLint.CommandLine
