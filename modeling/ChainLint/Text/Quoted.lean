import ChainLint.Text.Visible

/-!
# Quoted text in messages

`quoted cs` puts a text between double quotes for a message: tab, line feed, carriage return, the
null character, the backslash and the quote have short escapes, every other character that does not
show on its own is written as its code point in hexadecimal, and all else stands for itself.
-/

namespace ChainLint.Text

/-- A code point in braces, in lower-case hexadecimal. -/
def codePointEscape (c : Char) : List Char :=
  ['\\', 'u', '{'] ++ Nat.toDigits 16 c.toNat ++ ['}']

/-- One character between the quotes. -/
def quotedChar (c : Char) : List Char :=
  if c = '\x00' then ['\\', '0']
  else if c = '\t' then ['\\', 't']
  else if c = '\r' then ['\\', 'r']
  else if c = '\n' then ['\\', 'n']
  else if c = '\\' || c = '"' then ['\\', c]
  else if isVisible c then [c]
  else codePointEscape c

/-- A text between double quotes. -/
def quoted (cs : List Char) : List Char :=
  '"' :: cs.flatMap quotedChar ++ ['"']

end ChainLint.Text
