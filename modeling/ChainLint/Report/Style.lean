/-!
# Coloured text

A style is switched on by a code and off by the reset code.  Where the text itself holds a reset code
the style is switched on again behind it.

* `Palette.paint p style text`: a text in a style, if the palette has colours.
-/

namespace ChainLint

/-- How a part of a report looks. -/
inductive Style
  | red
  | yellow
  | green
  | dimmed
  | bold
deriving DecidableEq, Inhabited

namespace Style

/-- The number of a style. -/
def number : Style → String
  | .red => "31"
  | .yellow => "33"
  | .green => "32"
  | .dimmed => "2"
  | .bold => "1"

/-- The code of a number. -/
def codeOf (number : String) : List Char := '\x1b' :: '[' :: number.toList ++ ['m']

/-- The code that switches a style on. -/
def code (s : Style) : List Char := codeOf s.number

/-- The code that switches every style off. -/
def reset : List Char := codeOf "0"

/-- A text with a code behind every reset code in it; `skip` characters belong to one already seen. -/
def resume (code : List Char) : Nat → List Char → List Char
  | _, [] => []
  | 0, c :: cs =>
    if reset.isPrefixOf (c :: cs) then c :: resume code (reset.length - 1) cs
    else c :: resume code 0 cs
  | 1, c :: cs => c :: (code ++ resume code 0 cs)
  | n + 2, c :: cs => c :: resume code (n + 1) cs

end Style

/-- Whether reports have colours. -/
inductive Palette
  | plain
  | coloured
deriving DecidableEq, Inhabited

/-- A text in a style. -/
def Palette.paint (p : Palette) (s : Style) (text : String) : String :=
  match p with
  | .plain => text
  | .coloured => String.ofList (s.code ++ Style.resume s.code 0 text.toList ++ Style.reset)

end ChainLint
