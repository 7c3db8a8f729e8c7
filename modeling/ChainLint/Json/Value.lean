import ChainLint.Number.Shortest

/-!
# JSON values

`Json` is a document.  A number is a whole number or a binary float; the two differ even where they
are equal, as in `1` and `1.0`.  The members of an object are kept in the order they were given;
`insertMember` builds the order by key in which a later member replaces an earlier one.

`Table` is such an ordered list as a type of its own: its keys rise strictly, so every key occurs
once.  Keys compare by code point, which is the order of their UTF-8 bytes.
-/

namespace ChainLint

namespace Json

/-- A number as it was written: without or with a fraction or exponent. -/
inductive Number
  | integer (value : Int)
  | real (value : Binary64)
deriving DecidableEq, Inhabited

/-- The exponents that a document writes positionally: `0.00001` up to `1000000000000000.0`. -/
def numberStyle : DecimalStyle := ⟨-5, 15⟩

/-- The digits of a whole number behind its sign. -/
def integerText (i : Int) : List Char :=
  (if i < 0 then ['-'] else []) ++ Nat.toDigits 10 i.natAbs

/-- The written form of a number. -/
def Number.text : Number → List Char
  | .integer i => integerText i
  | .real x => x.text numberStyle

end Json

/-- A JSON document. -/
inductive Json
  | null
  | bool (value : Bool)
  | number (value : Json.Number)
  | string (value : String)
  | array (items : List Json)
  | object (members : List (String × Json))
deriving Inhabited

namespace Json

/-- Puts a member at its place by key; an equal key gives way. -/
def insertMember {α : Type} (key : String) (value : α) :
    List (String × α) → List (String × α)
  | [] => [(key, value)]
  | (k, v) :: rest =>
    if key < k then (key, value) :: (k, v) :: rest
    else if key = k then (key, value) :: rest
    else (k, v) :: insertMember key value rest

/-- The members by key; the last of equal keys stays. -/
def sortMembers {α : Type} (members : List (String × α)) : List (String × α) :=
  members.foldl (fun done m => insertMember m.1 m.2 done) []

/-- A whole number. -/
def ofNat (n : Nat) : Json := .number (.integer n)

/-- A list of texts. -/
def ofStrings (texts : List String) : Json := .array (texts.map .string)

end Json

end ChainLint
