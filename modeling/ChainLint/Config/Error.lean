import ChainLint.Config.Severity

/-!
# Faults of a configuration

`ConfigError` lists what can be wrong with a configuration as a whole; `ConfigError.message` is its
wording and `ConfigError.cause?` the message of the document fault behind it, if there is one.
-/

namespace ChainLint

/-- Why the entry of a rule is not accepted. -/
inductive EntryFault
  | noVariant
  | empty
  | severity (fault : SeverityFault)
deriving DecidableEq, Inhabited

/-- The wording of a fault in an entry. -/
def EntryFault.message : EntryFault → String
  | .noVariant => (Json.Fault.noVariant "RuleEntry").message
  | .empty => "expected a severity as the first array element"
  | .severity fault => fault.message

/-- Why a configuration is not accepted. -/
inductive ConfigError
  | unreadable (error : Json.Error)
  | unknownRule (id : String)
  | unknownPreset (name : String)
  | invalidEntry (rule : String) (fault : EntryFault)
  | invalidOptions (rule : String) (fault : Json.Fault)
deriving DecidableEq, Inhabited

/-- The wording of an error. -/
def ConfigError.message : ConfigError → String
  | .unreadable e => "Failed to parse config: " ++ e.message
  | .unknownRule id => "Definition for rule '" ++ id ++ "' was not found"
  | .unknownPreset name => "Unknown preset '" ++ name ++ "'"
  | .invalidEntry rule fault =>
    "Configuration for rule '" ++ rule ++ "' is invalid: " ++ fault.message
  | .invalidOptions rule fault =>
    "Configuration for rule '" ++ rule ++ "' is invalid: " ++ fault.message

/-- The message of the document fault behind an error. -/
def ConfigError.cause? : ConfigError → Option String
  | .unreadable e => some e.message
  | .invalidOptions _ fault => some fault.message
  | _ => none

end ChainLint
