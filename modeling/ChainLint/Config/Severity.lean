import ChainLint.Diagnostic
import ChainLint.Json.Decoder
import ChainLint.Json.Printer

/-!
# Configured severities

A severity is written as a level from zero to two or as a word in any letter case.

* `Severity.ofJson? v`: the severity that a value denotes, or why it denotes none.
* `Severity.level?`: the level of the findings; `off` has none.
-/

namespace ChainLint

/-- How a rule is switched in a configuration. -/
inductive Severity
  | off
  | warn
  | error
deriving DecidableEq, Inhabited

/-- Why a value is no severity; the value as it is shown to the user. -/
inductive SeverityFault
  | unknown (passed : String)
  | wrongKind (passed : String)
deriving DecidableEq, Inhabited

/-- The wording of a fault. -/
def SeverityFault.message : SeverityFault → String
  | .unknown passed =>
    "Severity should be one of the following: 0 = off, 1 = warn, 2 = error (you passed '" ++
      passed ++ "')"
  | .wrongKind passed =>
    "Severity should be a number or a string (you passed '" ++ passed ++ "')"

namespace Severity

/-- The word for a severity. -/
def text : Severity → String
  | .off => "off"
  | .warn => "warn"
  | .error => "error"

/-- The number of a severity. -/
def number : Severity → Nat
  | .off => 0
  | .warn => 1
  | .error => 2

/-- The severity of a number. -/
def ofInt? : Int → Option Severity
  | 0 => some .off
  | 1 => some .warn
  | 2 => some .error
  | _ => none

/-- The severity of a word, letter case aside. -/
def ofText? (word : String) : Option Severity :=
  let lower := word.toList.map Char.toLower
  [Severity.off, .warn, .error].find? fun s => s.text.toList = lower

/-- The severity that a value denotes. -/
def ofJson? (v : Json) : Except SeverityFault Severity :=
  match v with
  | .number (.integer i) =>
    match ofInt? i with
    | some s => .ok s
    | none => .error (.unknown v.toText)
  | .number (.real _) => .error (.unknown v.toText)
  | .string word =>
    match ofText? word with
    | some s => .ok s
    | none => .error (.unknown word)
  | _ => .error (.wrongKind v.toText)

/-- A severity as a document. -/
def toJson (s : Severity) : Json := Json.ofNat s.number

/-- Severities in documents. -/
def decoder : Json.Decoder Severity :=
  Json.Decoder.any.via fun v => (ofJson? v).mapError fun e => .refused e.message

/-- The level of the findings of a rule that is switched on. -/
def level? : Severity → Option Level
  | .off => none
  | .warn => some .warning
  | .error => some .error

end Severity

end ChainLint
