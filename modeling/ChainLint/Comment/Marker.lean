import ChainLint.Text.Line

/-!
# Markers, task ids and annotations

A comment is *unspecified* when it holds a marker (`todo` or `fixme`, letter case aside) but neither
a task id such as `[UIA-12345]` nor an annotation such as `(username)`.  Each of the three tests looks
for its pattern at every place of the text.

* `hasMarker`: the marker stands alone, so neither neighbour is an ASCII letter, digit or underscore.
* `hasTaskId`: a bracketed upper-case project key, a hyphen and a number.
* `hasNote`: a parenthesis closed on its own line with something in between.
* `isUnspecified`: the verdict on a whole comment body.
-/

namespace ChainLint.Marker

/-- ASCII letters, digits and the underscore; every other character bounds a word. -/
def isWordChar (c : Char) : Bool :=
  c.isAlphanum || c = '_'

/-- The words that mark work left to do. -/
def words : List (List Char) :=
  ["todo".toList, "fixme".toList]

/-- What follows the word `w` at the head of a text, ASCII letter case aside. -/
def afterWord? : List Char → List Char → Option (List Char)
  | [], cs => some cs
  | _ :: _, [] => none
  | w :: ws, c :: cs => if c.toLower = w then afterWord? ws cs else none

/-- Whether no word goes on at the head of the text. -/
def atWordEnd : List Char → Bool
  | [] => true
  | c :: _ => !isWordChar c

/-- Whether a marker and the end of a word stand at the head of the text. -/
def markerHere (cs : List Char) : Bool :=
  words.any fun w => (afterWord? w cs).any atWordEnd

/-- Whether a marker begins in the text; `inWord` tells if a word character precedes it. -/
def markerFrom (inWord : Bool) : List Char → Bool
  | [] => false
  | c :: cs => (!inWord && markerHere (c :: cs)) || markerFrom (isWordChar c) cs

/-- Whether the text holds a marker that stands alone. -/
def hasMarker (cs : List Char) : Bool :=
  markerFrom false cs

/-- Upper-case letters and digits, of which a project key is made. -/
def isKeyChar (c : Char) : Bool :=
  c.isUpper || c.isDigit

/-- Whether a hyphen, a number and a closing bracket stand at the head of the text. -/
def taskNumberHere : List Char → Bool
  | '-' :: cs =>
    !(cs.takeWhile Char.isDigit).isEmpty && (cs.dropWhile Char.isDigit).head? = some ']'
  | _ => false

/-- Whether a task id stands at the head of the text. -/
def taskIdHere : List Char → Bool
  | '[' :: c :: cs =>
    c.isUpper && !(cs.takeWhile isKeyChar).isEmpty && taskNumberHere (cs.dropWhile isKeyChar)
  | _ => false

/-- Whether the text holds a task id. -/
def hasTaskId : List Char → Bool
  | [] => false
  | c :: cs => taskIdHere (c :: cs) || hasTaskId cs

/-- Whether an annotation stands at the head of the text. -/
def noteHere : List Char → Bool
  | '(' :: cs => ((cs.takeWhile (!Text.isLineEnd ·)).drop 1).contains ')'
  | _ => false

/-- Whether the text holds an annotation. -/
def hasNote : List Char → Bool
  | [] => false
  | c :: cs => noteHere (c :: cs) || hasNote cs

/-- Whether a comment body marks work without saying whose or which task it is. -/
def isUnspecified (cs : List Char) : Bool :=
  hasMarker cs && !hasTaskId cs && !hasNote cs

end ChainLint.Marker
