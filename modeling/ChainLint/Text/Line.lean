/-!
# Line ends

Four characters end a line of a program or of a comment.
-/

namespace ChainLint.Text

/-- Line feed, carriage return, and the line and paragraph separators. -/
def isLineEnd (c : Char) : Bool :=
  c = '\n' || c = '\r' || c = '\u2028' || c = '\u2029'

end ChainLint.Text
