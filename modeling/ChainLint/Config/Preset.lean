import ChainLint.Config.Error
import ChainLint.Rule

/-!
# Presets

A preset switches every registered rule to one severity.  It is named with or without the name of
the plugin in front.
-/

namespace ChainLint

/-- The named configurations of the plugin. -/
inductive Preset
  | all
  | allWarn
  | recommended
deriving DecidableEq, Inhabited

namespace Preset

/-- The name of a preset. -/
def text : Preset → String
  | .all => "all"
  | .allWarn => "all-warn"
  | .recommended => "recommended"

/-- What may stand before the name of a preset. -/
def pluginMark : String := "plugin:" ++ pluginPrefix

/-- The name with the plugin in front. -/
def reference (p : Preset) : String := pluginMark ++ p.text

/-- The text behind a mark that it starts with, and otherwise the text itself. -/
def dropMark (mark text : List Char) : List Char :=
  if mark.isPrefixOf text then text.drop mark.length else text

/-- The preset of a name. -/
def ofText? (name : String) : Option Preset :=
  let bare := dropMark pluginMark.toList name.toList
  [Preset.all, .allWarn, .recommended].find? fun p => p.text.toList = bare

/-- The severity to which a preset switches every rule. -/
def severity : Preset → Severity
  | .all => .error
  | .allWarn | .recommended => .warn

/-- The ids of the rules with the severity of the preset. -/
def rules (p : Preset) : List (String × Severity) :=
  Rule.all.map fun r => (r.id, p.severity)

end Preset

end ChainLint
