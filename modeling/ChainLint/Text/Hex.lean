/-!
# Hexadecimal digits

* `hexValue? c`: the value of a digit, in either letter case.
* `hexQuad? cs`: the value of the four digits at the head of a text.
-/

namespace ChainLint.Text

/-- The value of a hexadecimal digit. -/
def hexValue? (c : Char) : Option Nat :=
  if c.isDigit then some (c.toNat - '0'.toNat)
  else if 'a' ≤ c && c ≤ 'f' then some (c.toNat - 'a'.toNat + 10)
  else if 'A' ≤ c && c ≤ 'F' then some (c.toNat - 'A'.toNat + 10)
  else none

/-- Whether a character is a hexadecimal digit. -/
def isHex (c : Char) : Bool := (hexValue? c).isSome

/-- The number that a run of hexadecimal digits denotes. -/
def hexNumber (cs : List Char) : Nat :=
  cs.foldl (fun n c => n * 16 + (hexValue? c).getD 0) 0

/-- The value of four hexadecimal digits. -/
def hexQuad? : List Char → Option Nat
  | a :: b :: c :: d :: _ => if [a, b, c, d].all isHex then some (hexNumber [a, b, c, d]) else none
  | _ => none

end ChainLint.Text
