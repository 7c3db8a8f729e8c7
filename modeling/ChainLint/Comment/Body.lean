import ChainLint.Text.Position

/-!
# Comments

`Comment.body source span` is the text of a comment without its delimiters: what follows `//`, or
what stands between the slash-star pair.  The closing pair is looked for behind the opening one, so
the two never share a star.  A span that is no part of the source has an empty body.
-/

namespace ChainLint

/-- Whether a comment ends with its line or with a closing delimiter. -/
inductive CommentKind
  | line
  | block
deriving DecidableEq, Inhabited

/-- A comment of a program, delimiters included in its span. -/
structure Comment where
  kind : CommentKind
  span : Span
deriving DecidableEq, Inhabited

namespace Comment

/-- The text without a closing star-slash at its end, if it has one. -/
def dropClosing (cs : List Char) : List Char :=
  if ['*', '/'].isSuffixOf cs then cs.take (cs.length - 2) else cs

/-- The text of a comment without its delimiters. -/
def bare : List Char → List Char
  | '/' :: '/' :: cs => cs
  | '/' :: '*' :: cs => dropClosing cs
  | cs => cs

/-- The body of the comment that `span` covers. -/
def body (source : List Char) (span : Span) : List Char :=
  bare ((Text.slice? source span).getD [])

end Comment

end ChainLint
