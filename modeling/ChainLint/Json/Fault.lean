import ChainLint.Json.Value
import ChainLint.Text.Quoted

/-!
# What can be wrong with a document

A `Fault` is a cause, either of the text (`endOfInput`, `expectedColon`, …) or of the value it holds
(`wrongType`, `duplicateField`, …).  An `Error` is a fault with the place where reading stood, if the
document was read from text.  All wording is in `Fault.message` and `Error.message`.

A place counts lines from one and, in a column, the bytes already read on the line.
-/

namespace ChainLint.Json

/-- What was being read when the text ended. -/
inductive Unfinished
  | value
  | string
  | list
  | object
deriving DecidableEq, Inhabited

/-- The name of an unfinished part. -/
def Unfinished.text : Unfinished → String
  | .value => "a value"
  | .string => "a string"
  | .list => "a list"
  | .object => "an object"

/-- What stands where something else was expected. -/
inductive Found
  | null
  | bool (value : Bool)
  | number (value : Number)
  | string (value : String)
  | sequence
  | map
deriving DecidableEq, Inhabited

/-- The description of a value by its outermost form. -/
def Found.of : Json → Found
  | .null => .null
  | .bool b => .bool b
  | .number n => .number n
  | .string s => .string s
  | .array _ => .sequence
  | .object _ => .map

/-- The wording of a found value. -/
def Found.text : Found → String
  | .null => "null"
  | .bool true => "boolean `true`"
  | .bool false => "boolean `false`"
  | .number (.integer i) => "integer `" ++ String.ofList (integerText i) ++ "`"
  | .number (.real x) => "floating point `" ++ String.ofList (x.text numberStyle) ++ "`"
  | .string s => "string " ++ String.ofList (Text.quoted s.toList)
  | .sequence => "sequence"
  | .map => "map"

/-- A cause for which a document is refused. -/
inductive Fault
  | endOfInput (part : Unfinished)
  | expectedValue
  | expectedIdent
  | expectedColon
  | expectedCommaOrBracket
  | expectedCommaOrBrace
  | keyNotString
  | trailingComma
  | trailingCharacters
  | invalidNumber
  | numberOutOfRange
  | invalidEscape
  | endOfHexEscape
  | loneSurrogate
  | controlCharacter
  | recursionLimit
  | duplicateField (name : String)
  | wrongType (found : Found) (expected : String)
  | tooLong (length : Nat)
  | noVariant (name : String)
  | refused (reason : String)
deriving DecidableEq, Inhabited

/-- The wording of a fault. -/
def Fault.message : Fault → String
  | .endOfInput part => "EOF while parsing " ++ part.text
  | .expectedValue => "expected value"
  | .expectedIdent => "expected ident"
  | .expectedColon => "expected `:`"
  | .expectedCommaOrBracket => "expected `,` or `]`"
  | .expectedCommaOrBrace => "expected `,` or `\x7d`"
  | .keyNotString => "key must be a string"
  | .trailingComma => "trailing comma"
  | .trailingCharacters => "trailing characters"
  | .invalidNumber => "invalid number"
  | .numberOutOfRange => "number out of range"
  | .invalidEscape => "invalid escape"
  | .endOfHexEscape => "unexpected end of hex escape"
  | .loneSurrogate => "lone leading surrogate in hex escape"
  | .controlCharacter => "control character (\\u0000-\\u001F) found while parsing a string"
  | .recursionLimit => "recursion limit exceeded"
  | .duplicateField name => "duplicate field `" ++ name ++ "`"
  | .wrongType found expected => "invalid type: " ++ found.text ++ ", expected " ++ expected
  | .tooLong length => "invalid length " ++ toString length ++ ", expected fewer elements in array"
  | .noVariant name => "data did not match any variant of untagged enum " ++ name
  | .refused reason => reason

/-- A line and the number of bytes read on it. -/
structure Place where
  line : Nat
  column : Nat
deriving DecidableEq, Inhabited

/-- The place of a byte offset: each line feed before it opens a line. -/
def Place.after : List Char → Nat → Place → Place
  | [], n, p => ⟨p.line, p.column + n⟩
  | c :: cs, n, p =>
    if n < c.utf8Size then ⟨p.line, p.column + n⟩
    else if c = '\n' then Place.after cs (n - 1) ⟨p.line + 1, 0⟩
    else Place.after cs (n - c.utf8Size) ⟨p.line, p.column + c.utf8Size⟩

/-- The place that lies `offset` bytes into the text. -/
def Place.of (text : List Char) (offset : Nat) : Place := Place.after text offset ⟨1, 0⟩

/-- A fault and, for a document read from text, where reading stood. -/
structure Error where
  fault : Fault
  place : Option Place
deriving DecidableEq, Inhabited

/-- The wording of an error. -/
def Error.message (e : Error) : String :=
  match e.place with
  | none => e.fault.message
  | some p => e.fault.message ++ " at line " ++ toString p.line ++ " column " ++ toString p.column

end ChainLint.Json
