import ChainLint.Config.Error

/-!
# Rule entries

The entry of a rule is a bare severity or an array of a severity and options.

* `RuleEntry.ofJson? v`: the form of an entry; the head of an array is not looked at yet.
* `RuleEntry.resolve e`: its severity and options.
* `RuleEntry.settle? v`: both steps at once.
-/

namespace ChainLint

/-- What a configuration says of a rule. -/
inductive RuleEntry
  | severity (value : Severity)
  | withOptions (items : List Json)
deriving Inhabited

namespace RuleEntry

/-- The entry that a value is. -/
def ofJson? (v : Json) : Option RuleEntry :=
  match Severity.ofJson? v, v with
  | .ok s, _ => some (.severity s)
  | .error _, .array items => some (.withOptions items)
  | .error _, _ => none

/-- Entries in documents. -/
def decoder : Json.Decoder RuleEntry :=
  Json.Decoder.any.via fun v =>
    match ofJson? v with
    | some e => .ok e
    | none => .error (.noVariant "RuleEntry")

/-- An entry as a document. -/
def toJson : RuleEntry → Json
  | .severity s => s.toJson
  | .withOptions items => .array items

/-- The severity and the options of an entry. -/
def resolve : RuleEntry → Except EntryFault (Severity × Option Json)
  | .severity s => .ok (s, none)
  | .withOptions [] => .error .empty
  | .withOptions (head :: rest) =>
    match Severity.ofJson? head with
    | .ok s => .ok (s, rest.head?)
    | .error fault => .error (.severity fault)

/-- The severity and the options that a value denotes. -/
def settle? (v : Json) : Except EntryFault (Severity × Option Json) :=
  match ofJson? v with
  | some e => e.resolve
  | none => .error .noVariant

end RuleEntry

end ChainLint
