import ChainLint.Json.Value

/-!
# Printing JSON

* `compact v`: one line without blanks.
* `pretty v`: one item or member a line, each level two blanks deeper; an empty array or object stays
  on its line.

Strings escape the quote, the backslash and the control characters below the space, the common ones
by a letter and the others by their code point.
-/

namespace ChainLint.Json

/-- The four hexadecimal digits of a control character. -/
def controlEscape (c : Char) : List Char :=
  let ds := Nat.toDigits 16 c.toNat
  ['\\', 'u'] ++ List.replicate (4 - ds.length) '0' ++ ds

/-- One character of a string. -/
def stringChar (c : Char) : List Char :=
  if c = '"' || c = '\\' then ['\\', c]
  else if c = '\x08' then ['\\', 'b']
  else if c = '\t' then ['\\', 't']
  else if c = '\n' then ['\\', 'n']
  else if c = '\x0c' then ['\\', 'f']
  else if c = '\r' then ['\\', 'r']
  else if c.toNat < 0x20 then controlEscape c
  else [c]

/-- A string between its quotes. -/
def stringText (s : String) : List Char :=
  '"' :: s.toList.flatMap stringChar ++ ['"']

mutual

/-- A document on one line. -/
def compact : Json → List Char
  | .null => "null".toList
  | .bool true => "true".toList
  | .bool false => "false".toList
  | .number n => n.text
  | .string s => stringText s
  | .array items => '[' :: compactItems items ++ [']']
  | .object members => '{' :: compactMembers members ++ ['}']

/-- Items with commas between them. -/
def compactItems : List Json → List Char
  | [] => []
  | [v] => compact v
  | v :: rest => compact v ++ ',' :: compactItems rest

/-- Members with commas between them. -/
def compactMembers : List (String × Json) → List Char
  | [] => []
  | [(k, v)] => stringText k ++ ':' :: compact v
  | (k, v) :: rest => stringText k ++ ':' :: compact v ++ ',' :: compactMembers rest

end

/-- A new line at a depth. -/
def newLine (depth : Nat) : List Char :=
  '\n' :: List.replicate (2 * depth) ' '

mutual

/-- A document over several lines, its own brackets standing at `depth`. -/
def prettyAt (depth : Nat) : Json → List Char
  | .null => "null".toList
  | .bool true => "true".toList
  | .bool false => "false".toList
  | .number n => n.text
  | .string s => stringText s
  | .array [] => ['[', ']']
  | .array (v :: rest) =>
    '[' :: prettyItems (depth + 1) (v :: rest) ++ newLine depth ++ [']']
  | .object [] => ['{', '}']
  | .object (m :: rest) =>
    '{' :: prettyMembers (depth + 1) (m :: rest) ++ newLine depth ++ ['}']

/-- Items, each on a line at `depth`. -/
def prettyItems (depth : Nat) : List Json → List Char
  | [] => []
  | [v] => newLine depth ++ prettyAt depth v
  | v :: rest => newLine depth ++ prettyAt depth v ++ ',' :: prettyItems depth rest

/-- Members, each on a line at `depth`. -/
def prettyMembers (depth : Nat) : List (String × Json) → List Char
  | [] => []
  | [(k, v)] => newLine depth ++ stringText k ++ [':', ' '] ++ prettyAt depth v
  | (k, v) :: rest =>
    newLine depth ++ stringText k ++ [':', ' '] ++ prettyAt depth v ++
      ',' :: prettyMembers depth rest

end

/-- A document over several lines. -/
def pretty (v : Json) : List Char := prettyAt 0 v

/-- The compact text of a document. -/
def toText (v : Json) : String := String.ofList (compact v)

end ChainLint.Json
