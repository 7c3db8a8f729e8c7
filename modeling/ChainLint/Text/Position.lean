/-!
# Byte offsets and positions

A text is a list of characters, and places in it are byte offsets into its UTF-8 form.

* `slice? cs s`: the characters of the bytes `s.start ≤ i < s.stop`, or `none` when the span is
  reversed, leaves the text or cuts a character.
* `position cs n`: the line and column of the offset `n`.  Lines and columns count from one, a line
  ends at `'\n'` only, and a column is one character.  An offset that is no character boundary of
  the text stands for its end.
-/

namespace ChainLint

/-- A half-open range of byte offsets. -/
structure Span where
  start : Nat
  stop : Nat
deriving DecidableEq, Inhabited

/-- A line and a column, both counted from one. -/
structure Position where
  line : Nat
  column : Nat
deriving DecidableEq, Inhabited

namespace Position

/-- The first place of every text. -/
def origin : Position := ⟨1, 1⟩

/-- The place just behind the character `c`. -/
def step (p : Position) (c : Char) : Position :=
  if c = '\n' then ⟨p.line + 1, 1⟩ else ⟨p.line, p.column + 1⟩

/-- How many numbers 32 bits can hold. -/
def narrowBound : Nat := 4294967296

/-- The position in numbers of 32 bits. -/
def narrow (p : Position) : Position := ⟨p.line % narrowBound, p.column % narrowBound⟩

end Position

namespace Text

/-- The length of the UTF-8 form. -/
def byteLength : List Char → Nat
  | [] => 0
  | c :: cs => c.utf8Size + byteLength cs

/-- The characters of the first `n` bytes. -/
def takeBytes : Nat → List Char → Option (List Char)
  | 0, _ => some []
  | _ + 1, [] => none
  | n + 1, c :: cs =>
    if c.utf8Size ≤ n + 1 then (takeBytes (n + 1 - c.utf8Size) cs).map (c :: ·) else none

/-- The characters behind the first `n` bytes. -/
def dropBytes : Nat → List Char → Option (List Char)
  | 0, cs => some cs
  | _ + 1, [] => none
  | n + 1, c :: cs => if c.utf8Size ≤ n + 1 then dropBytes (n + 1 - c.utf8Size) cs else none

/-- The part of the text that a span covers. -/
def slice? (cs : List Char) (s : Span) : Option (List Char) :=
  if s.start ≤ s.stop then (dropBytes s.start cs).bind (takeBytes (s.stop - s.start)) else none

/-- The text before an offset; all of it when the offset is no boundary of the text. -/
def before (cs : List Char) (offset : Nat) : List Char :=
  (takeBytes offset cs).getD cs

/-- The line and column of a byte offset. -/
def position (cs : List Char) (offset : Nat) : Position :=
  (before cs offset).foldl Position.step .origin

end Text

end ChainLint
