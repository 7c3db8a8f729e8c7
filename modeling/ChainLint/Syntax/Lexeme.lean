import ChainLint.Comment.Body
import ChainLint.Syntax.Token

/-!
# Lexemes

A `Lexeme` is a token with the gap before it.  The gap holds blanks, line ends and comments; the
comments are kept, and so is whether the token begins a new line, by which statements may end.

* `skipGap`: the gap at a cursor.
* `Lexeme.at c`: the first lexeme behind a cursor.
* `Cursor.start source`: behind a first line that names an interpreter.
-/

namespace ChainLint.Syntax

/-- Where in a gap the cursor stands: between comments, or inside one that began at an offset. -/
inductive GapMode
  | blank
  | line (start : Nat)
  | block (start : Nat)

/-- A gap: its comments, the latest first, whether it ends a line, whether its last comment is
closed, and the cursor behind it. -/
structure Gap where
  comments : List Comment
  newline : Bool
  closed : Bool
  after : Cursor

/-- The gap at an offset of a source. -/
def skipGap : GapMode → Bool → List Comment → Nat → List Char → Gap
  | .blank, newline, done, o, [] => ⟨done, newline, true, ⟨[], o⟩⟩
  | .line s, newline, done, o, [] => ⟨⟨.line, ⟨s, o⟩⟩ :: done, newline, true, ⟨[], o⟩⟩
  | .block _, newline, done, o, [] => ⟨done, newline, false, ⟨[], o⟩⟩
  | .blank, newline, done, o, '/' :: '/' :: cs => skipGap (.line o) newline done (o + 2) cs
  | .blank, newline, done, o, '/' :: '*' :: cs => skipGap (.block o) newline done (o + 2) cs
  | .block s, newline, done, o, '*' :: '/' :: cs =>
    skipGap .blank newline (⟨.block, ⟨s, o + 2⟩⟩ :: done) (o + 2) cs
  | .blank, newline, done, o, c :: cs =>
    if Text.isLineEnd c then skipGap .blank true done (o + c.utf8Size) cs
    else if isBlank c then skipGap .blank newline done (o + c.utf8Size) cs
    else ⟨done, newline, true, ⟨c :: cs, o⟩⟩
  | .line s, newline, done, o, c :: cs =>
    if Text.isLineEnd c then skipGap .blank true (⟨.line, ⟨s, o⟩⟩ :: done) (o + c.utf8Size) cs
    else skipGap (.line s) newline done (o + c.utf8Size) cs
  | .block s, newline, done, o, c :: cs =>
    skipGap (.block s) (newline || Text.isLineEnd c) done (o + c.utf8Size) cs

/-- A token between two cursors and the gap before it. -/
structure Lexeme where
  token : Token
  source : Cursor
  after : Cursor
  newline : Bool
  comments : List Comment
deriving Inhabited

/-- The first lexeme behind a cursor. -/
def Lexeme.at (c : Cursor) : Lexeme :=
  let gap := skipGap .blank false [] c.offset c.rest
  if gap.closed then
    let (token, after) := scan gap.after
    ⟨token, gap.after, after, gap.newline, gap.comments⟩
  else ⟨.invalid, gap.after, gap.after, gap.newline, gap.comments⟩

/-- The start of a source, behind a first line that names an interpreter. -/
def Cursor.start (source : List Char) : Cursor :=
  match source with
  | '#' :: '!' :: cs => (Cursor.mk source 0).skip (2 + (cs.takeWhile (!Text.isLineEnd ·)).length)
  | _ => ⟨source, 0⟩

end ChainLint.Syntax
