import ChainLint.Comment.Body
import ChainLint.Comment.Marker
import ChainLint.Diagnostic
import ChainLint.Rule

/-!
# Comments that mark work

`Comment.findings source comments` has one finding for every comment whose body marks work without
naming a task or a person, in the order of the comments.
-/

namespace ChainLint.Comment

/-- The message on a comment. -/
def message : String :=
  "Please specify comment with a task id or username " ++
    "(e.g. TODO [UIA-12345] summary | TODO (username) summary)"

/-- Whether the body of a comment marks work without saying whose or which task it is. -/
def isUnspecified (source : List Char) (c : Comment) : Bool :=
  Marker.isUnspecified (body source c.span)

/-- The finding on a comment. -/
def finding (c : Comment) : Diagnostic := .warning Rule.commentName c.span message

/-- The findings on the comments of a program. -/
def findings (source : List Char) (comments : List Comment) : List Diagnostic :=
  (comments.filter (isUnspecified source)).map finding

end ChainLint.Comment
