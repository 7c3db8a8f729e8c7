import ChainLint.Config.Document
import ChainLint.Config.Entry
import ChainLint.Log

/-!
# Resolving a configuration

`Config.resolve c` is the severity and the options of every rule that the configuration speaks of.
The presets come first, in their order; then the entries of `rules`, by rising key.  A later layer
sets the severity anew and keeps the options of an earlier one unless it brings its own.  Without
presets and without entries the recommended preset is used.  Keys of other plugins are passed over.

* `Setting`: a rule with its severity and options.
* `Config.resolveNotes c`: the log records of the resolution.
-/

namespace ChainLint

/-- A rule with its severity and options. -/
structure Setting where
  rule : String
  severity : Severity
  options : Option Json
deriving Inhabited

/-- Sets a rule; options that are not given stay as they are. -/
def Setting.update (rule : String) (severity : Severity) (options : Option Json) :
    List Setting → List Setting
  | [] => [⟨rule, severity, options⟩]
  | s :: rest =>
    if s.rule = rule then ⟨s.rule, severity, options.orElse fun _ => s.options⟩ :: rest
    else s :: Setting.update rule severity options rest

namespace Config

/-- Whether a key belongs to this plugin. -/
def isOwnKey (key : String) : Bool := pluginPrefix.toList.isPrefixOf key.toList

/-- Sets every rule of a preset. -/
def applyPreset (settings : List Setting) (p : Preset) : List Setting :=
  p.rules.foldl (fun settings r => Setting.update r.1 r.2 none settings) settings

/-- Sets the rules of the presets in their order, up to a name that is no preset. -/
def applyPresets : List String → List Setting → Except ConfigError (List Setting)
  | [], settings => .ok settings
  | name :: rest, settings =>
    match Preset.ofText? name with
    | some p => applyPresets rest (applyPreset settings p)
    | none => .error (.unknownPreset name)

/-- What an entry of `rules` says: nothing for another plugin's key, else a severity and options. -/
def settleEntry (key : String) (v : Json) :
    Except ConfigError (Option (Severity × Option Json)) :=
  if !isOwnKey key then .ok none
  else if !Rule.isKnown key then .error (.unknownRule key)
  else
    match RuleEntry.settle? v with
    | .ok r => .ok (some r)
    | .error fault => .error (.invalidEntry key fault)

/-- Sets the rules of the entries in their order, up to one that is not accepted. -/
def applyEntries : List (String × Json) → List Setting → Except ConfigError (List Setting)
  | [], settings => .ok settings
  | (key, v) :: rest, settings =>
    match settleEntry key v with
    | .ok none => applyEntries rest settings
    | .ok (some (severity, options)) =>
      applyEntries rest (Setting.update key severity options settings)
    | .error e => .error e

/-- Whether neither presets nor entries are given. -/
def isUnset (c : Config) : Bool := c.presets.isEmpty && c.rules.isEmpty

/-- What holds before the presets: the recommended one when nothing is given. -/
def base (c : Config) : List Setting :=
  if c.isUnset then applyPreset [] .recommended else []

/-- The rules that a configuration speaks of, with severity and options. -/
def resolve (c : Config) : Except ConfigError (List Setting) :=
  match applyPresets c.presets c.base with
  | .ok settings => applyEntries c.rules.entries settings
  | .error e => .error e

/-- The keys of other plugins among the entries that are reached. -/
def foreignKeys : List (String × Json) → List String
  | [] => []
  | (key, v) :: rest =>
    match settleEntry key v with
    | .ok none => key :: foreignKeys rest
    | .ok (some _) => foreignKeys rest
    | .error _ => []

/-- The log records of a resolution. -/
def resolveNotes (c : Config) : List LogRecord :=
  match applyPresets c.presets c.base with
  | .ok _ => (foreignKeys c.rules.entries).map fun key =>
    ⟨.debug, .config, "Ignoring configuration for foreign rule '" ++ key ++ "'"⟩
  | .error _ => []

end Config

end ChainLint
