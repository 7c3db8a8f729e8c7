import ChainLint.Json.Reader
import ChainLint.Json.Table

/-!
# Decoders

A `Decoder α` reads an `α` in two ways: `ofText` from text, where it fails at a place, and `ofJson`
from a value that has been read already, where it has no place to name.  Both are built from the same
parts, so a type says once what its documents look like.

* `string`, `number`, `any`, `table`, `list`: the basic parts.
* `record name fields`: an object with these fields, all of them optional, or an array of them in
  order.  A member of another name is skipped.
* `via`: a decoder followed by a test of its own.
-/

namespace ChainLint.Json

/-- How to read an `α`; `ofText` takes the number of bracket levels that are left. -/
structure Decoder (α : Type) where
  ofText : Nat → Reader α
  ofJson : Json → Except Fault α

namespace Decoder

variable {α β σ : Type}

/-- Whole documents from text. -/
def decode (d : Decoder α) (text : String) : Except Error α :=
  (d.ofText Reader.depthLimit).run text

/-- Fails because of the form of the value in sight, which is read as far as its form shows. -/
def mismatch (expected : String) : Reader α :=
  let wrong (f : Found) : Reader α := Reader.refuse (.wrongType f expected)
  Reader.placed do
    match ← Reader.peekToken with
    | some 'n' => do Reader.advance; Reader.word ['u', 'l', 'l']; wrong .null
    | some 't' => do Reader.advance; Reader.word ['r', 'u', 'e']; wrong (.bool true)
    | some 'f' => do Reader.advance; Reader.word ['a', 'l', 's', 'e']; wrong (.bool false)
    | some '"' => do wrong (.string (← Reader.string))
    | some '[' => wrong .sequence
    | some '{' => wrong .map
    | some c =>
      if c = '-' || c.isDigit then do wrong (.number (← Reader.number))
      else Reader.failAhead .expectedValue
    | none => Reader.failAhead .expectedValue

/-- The fault of a value of another form. -/
def wrong (v : Json) (expected : String) : Except Fault α :=
  .error (.wrongType (Found.of v) expected)

/-- Goes on only when a value is in sight. -/
def whenPresent (r : Char → Reader α) : Reader α := do
  match ← Reader.peekToken with
  | none => Reader.failAhead (.endOfInput .value)
  | some c => r c

/-- Enters a bracket when a level is left. -/
def enter (room : Nat) (r : Nat → Reader α) : Reader α :=
  match room with
  | 0 => Reader.failAhead .recursionLimit
  | room + 1 => r room

/-- Any document. -/
def any : Decoder Json where
  ofText := Reader.value
  ofJson v := .ok v

/-- A string. -/
def string : Decoder String where
  ofText _ := whenPresent fun c =>
    if c = '"' then Reader.string else mismatch "a string"
  ofJson
    | .string s => .ok s
    | v => wrong v "a string"

/-- A number of either kind. -/
def number : Decoder Number where
  ofText _ := whenPresent fun c =>
    if c = '-' || c.isDigit then Reader.number else mismatch "f64"
  ofJson
    | .number n => .ok n
    | v => wrong v "f64"

/-- A list. -/
def list (d : Decoder α) : Decoder (List α) where
  ofText room := whenPresent fun c =>
    if c = '[' then enter room fun room => Reader.placed (Reader.list (d.ofText room))
    else mismatch "a sequence"
  ofJson
    | .array items => items.mapM d.ofJson
    | v => wrong v "a sequence"

/-- An object with members of any name. -/
def table : Decoder (Table Json) where
  ofText room := whenPresent fun c =>
    if c = '{' then enter room fun room => do
      let members ← Reader.placed (Reader.object (Reader.member (Reader.value room)) [])
      pure (.ofList members)
    else mismatch "a map"
  ofJson
    | .object members => .ok (.ofList members)
    | v => wrong v "a map"

/-- A decoder whose result is tested further. -/
def via (d : Decoder α) (f : α → Except Fault β) : Decoder β where
  ofText room := do
    let a ← d.ofText room
    match f a with
    | .ok b => pure b
    | .error e => Reader.refuse e
  ofJson v := (d.ofJson v).bind f

/-- A decoder whose result is put into another form. -/
def map (f : α → β) (d : Decoder α) : Decoder β where
  ofText room := do pure (f (← d.ofText room))
  ofJson v := (d.ofJson v).map f

/-- A field of a record: its name and how to read it into the record. -/
structure Field (σ : Type) where
  name : String
  into : σ → Decoder σ

/-- The field of a name whose value is put into the record by `set`. -/
def Field.of (name : String) (d : Decoder α) (set : α → σ → σ) : Field σ :=
  ⟨name, fun s => d.map (set · s)⟩

/-- The fields of an array in order, as many as it has items. -/
def positionalText (room : Nat) : List (Field σ) → Bool → σ → Reader σ
  | [], _, s => pure s
  | f :: fs, first, s => do
    if ← Reader.hasItem first then
      let s ← (f.into s).ofText room
      positionalText room fs false s
    else positionalText room fs first s

/-- A member of a record: one of its fields, which may not come twice, or anything else. -/
def namedText (fields : List (Field σ)) (room : Nat) (key : String) (s : List String × σ) :
    Reader (List String × σ) := do
  match fields.find? (·.name = key) with
  | some f =>
    if s.1.contains key then Reader.refuse (.duplicateField key)
    else do
      Reader.colon
      let r ← (f.into s.2).ofText room
      pure (key :: s.1, r)
  | none => do
    Reader.colon
    Reader.skip (← Reader.remaining)
    pure s

/-- The fields of an array that has been read. -/
def positionalJson : List (Field σ) → List Json → σ → Except Fault σ
  | f :: fs, v :: vs, s => do positionalJson fs vs (← (f.into s).ofJson v)
  | _, _, s => .ok s

/-- The fields of an object that has been read, in the order of its members. -/
def namedJson (fields : List (Field σ)) : List (String × Json) → σ → Except Fault σ
  | [], s => .ok s
  | (key, v) :: rest, s =>
    match fields.find? (·.name = key) with
    | some f => do namedJson fields rest (← (f.into s).ofJson v)
    | none => namedJson fields rest s

/-- A record, of which `initial` holds the defaults. -/
def record (name : String) (initial : σ) (fields : List (Field σ)) : Decoder σ where
  ofText room := whenPresent fun c =>
    if c = '[' then enter room fun room => do
      Reader.advance
      Reader.placed (Reader.enclosed (positionalText room fields true initial) Reader.closeList)
    else if c = '{' then enter room fun room => do
      let (_, s) ← Reader.placed (Reader.object (namedText fields room) ([], initial))
      pure s
    else mismatch ("struct " ++ name)
  ofJson
    | .array items => do
      let s ← positionalJson fields items initial
      if fields.length < items.length then .error (.tooLong items.length) else .ok s
    | .object members => namedJson fields members initial
    | v => wrong v ("struct " ++ name)

end Decoder

end ChainLint.Json
