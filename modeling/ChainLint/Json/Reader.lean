import ChainLint.Json.Fault
import ChainLint.Text.Hex
import ChainLint.Text.Position

/-!
# Reading JSON text

A `Reader` takes a cursor over the characters of a text and either returns a value behind which the
cursor stands, or fails with a fault.  A failure keeps its cursor, because the enclosing bracket is
still looked for behind it and decides the place of a fault that has none yet.

* `Reader.value room`: any value; `room` bounds how deep brackets may nest.
* `Reader.skip`: a value nobody asked for, which is checked for its form only.
* `Reader.items`, `Reader.members`: the inside of brackets.
* `Json.read text`: the value of a whole text.
-/

namespace ChainLint.Json

/-- What is left of the text, and how many bytes have been read. -/
structure Cursor where
  rest : List Char
  offset : Nat
deriving Inhabited

/-- A fault and the offset it is blamed on. -/
structure Blame where
  fault : Fault
  offset : Option Nat

/-- A step of reading, which moves the cursor also when it fails. -/
abbrev Reader (α : Type) := EStateM Blame Cursor α

namespace Reader

variable {α σ : Type}

/-! ### Steps -/

/-- The next character, if there is one. -/
def peek : Reader (Option Char) := fun c => .ok c.rest.head? c

/-- Moves behind the next character. -/
def advance : Reader Unit := fun c =>
  match c.rest with
  | [] => .ok () c
  | x :: xs => .ok () ⟨xs, c.offset + x.utf8Size⟩

/-- Fails at what has been read so far. -/
def fail (f : Fault) : Reader α := fun c => .error ⟨f, some c.offset⟩ c

/-- Fails one byte further, at the character in sight, or at the end of the text. -/
def failAhead (f : Fault) : Reader α := fun c =>
  .error ⟨f, some (if c.rest.isEmpty then c.offset else c.offset + 1)⟩ c

/-- Fails without a place. -/
def refuse (f : Fault) : Reader α := fun c => .error ⟨f, none⟩ c

/-- Gives a fault without a place the place that has been reached. -/
def placed (r : Reader α) : Reader α := fun c =>
  match r c with
  | .ok a c => .ok a c
  | .error ⟨f, none⟩ c => .error ⟨f, some c.offset⟩ c
  | .error e c => .error e c

/-- The four blanks between tokens. -/
def isBlank (c : Char) : Bool := c = ' ' || c = '\n' || c = '\t' || c = '\r'

/-- Moves behind the characters at the cursor that satisfy `p`, all of them single bytes. -/
def takeWhile (p : Char → Bool) : Reader (List Char) := fun c =>
  let run := c.rest.takeWhile p
  .ok run ⟨c.rest.drop run.length, c.offset + run.length⟩

/-- The next character behind any blanks. -/
def peekToken : Reader (Option Char) := do
  let _ ← takeWhile isBlank
  peek

/-- What is left of the text bounds every loop over it. -/
def remaining : Reader Nat := fun c => .ok (c.rest.length + 1) c

/-! ### Words and numbers -/

/-- The rest of a literal name. -/
def word : List Char → Reader Unit
  | [] => pure ()
  | w :: ws => do
    match ← peek with
    | none => failAhead (.endOfInput .value)
    | some c => if c = w then do advance; word ws else failAhead .expectedIdent

/-- The value of a decimal digit. -/
def digitValue (c : Char) : Nat := c.toNat - '0'.toNat

/-- The largest significand that is kept exactly. -/
def significandLimit : Nat := Nat.pow 2 64 - 1

/-- Digits read so far: a significand, the power of ten it is short of, and whether it is full. -/
structure Significand where
  value : Nat
  exponent : Int
  full : Bool

/-- A digit before the point; one that no longer fits counts as a power of ten. -/
def Significand.whole (s : Significand) (c : Char) : Significand :=
  let v := s.value * 10 + digitValue c
  if !s.full && v ≤ significandLimit then { s with value := v }
  else { s with exponent := s.exponent + 1, full := true }

/-- A digit behind the point; one that no longer fits is dropped with all that follow. -/
def Significand.fraction (s : Significand) (c : Char) : Significand :=
  let v := s.value * 10 + digitValue c
  if !s.full && v ≤ significandLimit then { s with value := v, exponent := s.exponent - 1 }
  else { s with full := true }

/-- The whole part of a number: a zero, or digits that do not start with one. -/
def wholePart : Reader Significand := do
  match ← peek with
  | none => fail (.endOfInput .value)
  | some '0' => do
    advance
    match ← peek with
    | some c => if c.isDigit then failAhead .invalidNumber else pure ⟨0, 0, false⟩
    | none => pure ⟨0, 0, false⟩
  | some c =>
    if c.isDigit then do
      let ds ← takeWhile Char.isDigit
      pure (ds.foldl Significand.whole ⟨0, 0, false⟩)
    else failAhead .invalidNumber

/-- The digits behind the point, at least one. -/
def fractionPart (s : Significand) : Reader Significand := do
  advance
  let ds ← takeWhile Char.isDigit
  if ds.isEmpty then
    match ← peek with
    | none => fail (.endOfInput .value)
    | some _ => failAhead .invalidNumber
  else
    -- A whole part that overflowed leaves room for a smaller digit here.
    pure (ds.foldl Significand.fraction { s with full := false })

/-- The float of a significand, if it is in range. -/
def realNumber (negative : Bool) (significand : Nat) (exponent : Int) : Reader Number :=
  match Binary64.ofDecimal negative significand exponent with
  | some x => pure (.real x)
  | none => fail .numberOutOfRange

/-- The largest exponent that is counted. -/
def exponentLimit : Nat := Nat.pow 2 31 - 1

/-- The digits of an exponent; beyond the limit a number is zero or out of range at once. -/
def exponentDigits (negative below : Bool) (s : Significand) : Nat → Nat → Reader Number
  | 0, _ => fail .invalidNumber
  | fuel + 1, e => do
    match ← peek with
    | some c =>
      if c.isDigit then do
        advance
        let e := e * 10 + digitValue c
        if e ≤ exponentLimit then exponentDigits negative below s fuel e
        else if s.value ≠ 0 && !below then fail .numberOutOfRange
        else do
          let _ ← takeWhile Char.isDigit
          pure (.real (.zero negative))
      else realNumber negative s.value (s.exponent + if below then -(e : Int) else e)
    | none => realNumber negative s.value (s.exponent + if below then -(e : Int) else e)

/-- The sign of an exponent: whether it is a minus. -/
def exponentSign : Reader Bool := do
  match ← peek with
  | some '+' => do advance; pure false
  | some '-' => do advance; pure true
  | _ => pure false

/-- The exponent behind its mark, at least one digit. -/
def exponentPart (negative : Bool) (s : Significand) : Reader Number := do
  advance
  let below ← exponentSign
  match ← peek with
  | none => fail (.endOfInput .value)
  | some c =>
    if c.isDigit then do exponentDigits negative below s (← remaining) 0
    else failAhead .invalidNumber

/-- A whole number of 64 bits; minus zero and what does not fit become floats. -/
def wholeNumber (negative : Bool) (s : Significand) : Reader Number :=
  if s.full then realNumber negative s.value s.exponent
  else if !negative then pure (.integer s.value)
  else if s.value = 0 || Nat.pow 2 63 < s.value then realNumber true s.value 0
  else pure (.integer (-(s.value : Int)))

/-- A number behind its sign. -/
def unsigned (negative : Bool) : Reader Number := do
  let s ← wholePart
  match ← peek with
  | some '.' => do
    let s ← fractionPart s
    match ← peek with
    | some 'e' | some 'E' => exponentPart negative s
    | _ => realNumber negative s.value s.exponent
  | some 'e' | some 'E' => exponentPart negative s
  | _ => wholeNumber negative s

/-- A number whose first character is in sight. -/
def number : Reader Number := do
  match ← peek with
  | some '-' => do advance; unsigned true
  | _ => unsigned false

/-! ### Strings -/

/-- The four bytes of a hexadecimal escape. -/
def hexEscape : Reader Nat := fun c =>
  match Text.hexQuad? c.rest with
  | some n => .ok n ⟨c.rest.drop 4, c.offset + 4⟩
  | none =>
    let left := Text.byteLength c.rest
    if left < 4 then .error ⟨.endOfInput .string, some (c.offset + left)⟩ c
    else .error ⟨.invalidEscape, some (c.offset + 4)⟩ c

/-- Expects a character of the second half of a surrogate pair. -/
def pairChar (x : Char) : Reader Unit := do
  match ← peek with
  | none => fail (.endOfInput .string)
  | some c => if c = x then advance else failAhead .endOfHexEscape

/-- A character escaped by one or, outside the basic plane, two hexadecimal escapes. -/
def escapedCodePoint : Reader Char := do
  let n ← hexEscape
  if 0xDC00 ≤ n && n ≤ 0xDFFF then fail .loneSurrogate
  else if n < 0xD800 || 0xDBFF < n then pure (Char.ofNat n)
  else do
    pairChar '\\'
    pairChar 'u'
    let m ← hexEscape
    if m < 0xDC00 || 0xDFFF < m then fail .loneSurrogate
    else pure (Char.ofNat (0x10000 + (n - 0xD800) * 0x400 + (m - 0xDC00)))

/-- The character that a one-letter escape stands for. -/
def letterEscape? : Char → Option Char
  | '"' => some '"'
  | '\\' => some '\\'
  | '/' => some '/'
  | 'b' => some '\x08'
  | 'f' => some '\x0c'
  | 'n' => some '\n'
  | 'r' => some '\r'
  | 't' => some '\t'
  | _ => none

/-- What follows a backslash. -/
def escape : Reader Char := do
  match ← peek with
  | none => fail (.endOfInput .string)
  | some 'u' => do advance; escapedCodePoint
  | some c =>
    match letterEscape? c with
    | some x => do advance; pure x
    | none => failAhead .invalidEscape

/-- The inside of a string and its closing quote. -/
def stringTail : Nat → List Char → Reader String
  | 0, _ => fail (.endOfInput .string)
  | fuel + 1, done => do
    match ← peek with
    | none => fail (.endOfInput .string)
    | some '"' => do advance; pure (String.ofList done.reverse)
    | some '\\' => do
      advance
      let c ← escape
      stringTail fuel (c :: done)
    | some c =>
      if c.toNat < 0x20 then failAhead .controlCharacter
      else do advance; stringTail fuel (c :: done)

/-- A string whose quote is in sight. -/
def string : Reader String := do
  advance
  stringTail (← remaining) []

/-! ### Brackets -/

/-- Whether an item follows: at the start anything but the bracket, later a comma and an item. -/
def hasItem (first : Bool) : Reader Bool := do
  match ← peekToken with
  | none => failAhead (.endOfInput .list)
  | some ']' => pure false
  | some c =>
    if first then pure true
    else if c = ',' then do
      advance
      match ← peekToken with
      | some ']' => failAhead .trailingComma
      | some _ => pure true
      | none => failAhead (.endOfInput .value)
    else failAhead .expectedCommaOrBracket

/-- Whether a member follows: its quote is then in sight. -/
def hasMember (first : Bool) : Reader Bool := do
  match ← peekToken with
  | none => failAhead (.endOfInput .object)
  | some '}' => pure false
  | some c =>
    if first then if c = '"' then pure true else failAhead .keyNotString
    else if c = ',' then do
      advance
      match ← peekToken with
      | some '"' => pure true
      | some '}' => failAhead .trailingComma
      | some _ => failAhead .keyNotString
      | none => failAhead (.endOfInput .value)
    else failAhead .expectedCommaOrBrace

/-- The colon behind a key. -/
def colon : Reader Unit := do
  match ← peekToken with
  | some ':' => advance
  | some _ => failAhead .expectedColon
  | none => failAhead (.endOfInput .object)

/-- The bracket behind the last item that was asked for. -/
def closeList : Reader Unit := do
  match ← peekToken with
  | some ']' => advance
  | some ',' => do
    advance
    match ← peekToken with
    | some ']' => failAhead .trailingComma
    | _ => failAhead .trailingCharacters
  | some _ => failAhead .trailingCharacters
  | none => failAhead (.endOfInput .list)

/-- The brace behind the last member. -/
def closeObject : Reader Unit := do
  match ← peekToken with
  | some '}' => advance
  | some ',' => failAhead .trailingComma
  | some _ => failAhead .trailingCharacters
  | none => failAhead (.endOfInput .object)

/-- The inside of brackets; the closing one is looked for even when the inside fails. -/
def enclosed (inside : Reader α) (close : Reader Unit) : Reader α := fun c =>
  match inside c with
  | .ok a c =>
    match close c with
    | .ok () c => .ok a c
    | .error e c => .error e c
  | .error e c =>
    match close c with
    | .ok () c => .error e c
    | .error _ c => .error e c

/-- The items up to the closing bracket. -/
def items (item : Reader α) : Nat → Bool → Reader (List α)
  | 0, _ => failAhead (.endOfInput .list)
  | fuel + 1, first => do
    if ← hasItem first then
      let a ← item
      let rest ← items item fuel false
      pure (a :: rest)
    else pure []

/-- The members up to the closing brace, each taken into a state by its key. -/
def members (member : String → σ → Reader σ) : Nat → Bool → σ → Reader σ
  | 0, _, _ => failAhead (.endOfInput .object)
  | fuel + 1, first, s => do
    if ← hasMember first then
      let key ← string
      let s ← member key s
      members member fuel false s
    else pure s

/-- The items of a list whose bracket is in sight. -/
def list (item : Reader α) : Reader (List α) := do
  advance
  enclosed (do items item (← remaining) true) closeList

/-- The members of an object whose brace is in sight. -/
def object (member : String → σ → Reader σ) (s : σ) : Reader σ := do
  advance
  enclosed (do members member (← remaining) true s) closeObject

/-- How deep brackets may nest. -/
def depthLimit : Nat := 127

/-- A value, given how to read an array and an object whose bracket is in sight. -/
def valueWith (array object : Reader Json) : Reader Json := do
  match ← peekToken with
  | none => failAhead (.endOfInput .value)
  | some 'n' => do advance; word ['u', 'l', 'l']; pure .null
  | some 't' => do advance; word ['r', 'u', 'e']; pure (.bool true)
  | some 'f' => do advance; word ['a', 'l', 's', 'e']; pure (.bool false)
  | some '"' => do pure (.string (← string))
  | some '[' => array
  | some '{' => object
  | some c =>
    if c = '-' || c.isDigit then do pure (.number (← number)) else failAhead .expectedValue

/-- A member of an object being read, given how to read its value. -/
def member (value : Reader Json) (key : String) (done : List (String × Json)) :
    Reader (List (String × Json)) := do
  colon
  pure (insertMember key (← value) done)

/-- Any value with at most `room` levels of brackets. -/
def value : Nat → Reader Json
  | 0 => valueWith (failAhead .recursionLimit) (failAhead .recursionLimit)
  | room + 1 =>
    valueWith (do pure (.array (← list (value room))))
      (do pure (.object (← object (member (value room)) [])))

/-! ### Values nobody asked for -/

/-- The whole part of a skipped number. -/
def skipWhole : Reader Unit := do
  match ← peek with
  | some '0' => do
    advance
    match ← peek with
    | some c => if c.isDigit then failAhead .invalidNumber else pure ()
    | none => pure ()
  | some c =>
    if c.isDigit then do
      let _ ← takeWhile Char.isDigit
      pure ()
    else failAhead .invalidNumber
  | none => failAhead .invalidNumber

/-- The exponent of a skipped number. -/
def skipExponent : Reader Unit := do
  advance
  let _ ← exponentSign
  match ← peek with
  | some c =>
    if c.isDigit then do
      let _ ← takeWhile Char.isDigit
      pure ()
    else failAhead .invalidNumber
  | none => failAhead .invalidNumber

/-- A number of which only the form is looked at. -/
def skipNumber : Reader Unit := do
  skipWhole
  match ← peek with
  | some '.' => do
    advance
    let ds ← takeWhile Char.isDigit
    if ds.isEmpty then failAhead .invalidNumber
    else
      match ← peek with
      | some 'e' | some 'E' => skipExponent
      | _ => pure ()
  | some 'e' | some 'E' => skipExponent
  | _ => pure ()

/-- The inside of a skipped string, in which any hexadecimal escape will do. -/
def skipString : Nat → Reader Unit
  | 0 => fail (.endOfInput .string)
  | fuel + 1 => do
    match ← peek with
    | none => fail (.endOfInput .string)
    | some '"' => advance
    | some '\\' => do
      advance
      match ← peek with
      | none => fail (.endOfInput .string)
      | some 'u' => do
        advance
        let _ ← hexEscape
        skipString fuel
      | some c =>
        if (letterEscape? c).isSome then do advance; skipString fuel
        else failAhead .invalidEscape
    | some c =>
      if c.toNat < 0x20 then fail .controlCharacter
      else do advance; skipString fuel

/-- Items of a skipped list behind an item: commas and items up to the bracket. -/
def skipItems (item : Reader Unit) : Nat → Reader Unit
  | 0 => failAhead (.endOfInput .list)
  | fuel + 1 => do
    item
    match ← peekToken with
    | some ']' => advance
    | some ',' => do advance; skipItems item fuel
    | some _ => failAhead .expectedCommaOrBracket
    | none => failAhead (.endOfInput .list)

/-- A key and a colon of a skipped object. -/
def skipKey : Reader Unit := do
  match ← peekToken with
  | some '"' => do
    advance
    skipString (← remaining)
    match ← peekToken with
    | some ':' => advance
    | some _ => failAhead .expectedColon
    | none => failAhead (.endOfInput .object)
  | some _ => failAhead .keyNotString
  | none => failAhead (.endOfInput .object)

/-- Members of a skipped object up to the brace. -/
def skipMembers (item : Reader Unit) : Nat → Reader Unit
  | 0 => failAhead (.endOfInput .object)
  | fuel + 1 => do
    skipKey
    item
    match ← peekToken with
    | some '}' => advance
    | some ',' => do advance; skipMembers item fuel
    | some _ => failAhead .expectedCommaOrBrace
    | none => failAhead (.endOfInput .object)

/-- A value of which only the form is looked at, however deep; `fuel` bounds the nesting. -/
def skip : Nat → Reader Unit
  | 0 => failAhead .expectedValue
  | fuel + 1 => do
    match ← peekToken with
    | none => failAhead (.endOfInput .value)
    | some 'n' => do advance; word ['u', 'l', 'l']
    | some 't' => do advance; word ['r', 'u', 'e']
    | some 'f' => do advance; word ['a', 'l', 's', 'e']
    | some '"' => do advance; skipString (← remaining)
    | some '-' => do advance; skipNumber
    | some '[' => do
      advance
      match ← peekToken with
      | some ']' => advance
      | none => failAhead (.endOfInput .list)
      | some _ => do skipItems (skip fuel) (← remaining)
    | some '{' => do
      advance
      match ← peekToken with
      | some '}' => advance
      | none => failAhead (.endOfInput .object)
      | some _ => do skipMembers (skip fuel) (← remaining)
    | some c => if c.isDigit then skipNumber else failAhead .expectedValue

/-- The end of the text, blanks aside. -/
def finish : Reader Unit := do
  match ← peekToken with
  | none => pure ()
  | some _ => failAhead .trailingCharacters

/-- Reads a whole text. -/
def run (r : Reader α) (text : String) : Except Error α :=
  let cs := text.toList
  match (do let a ← r; finish; pure a : Reader α) ⟨cs, 0⟩ with
  | .ok a _ => .ok a
  | .error e _ => .error ⟨e.fault, e.offset.map (Place.of cs)⟩

end Reader

/-- The value of a text. -/
def read (text : String) : Except Error Json := (Reader.value Reader.depthLimit).run text

end ChainLint.Json
