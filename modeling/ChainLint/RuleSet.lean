import ChainLint.Config.Options
import ChainLint.Config.Resolve

/-!
# Rule sets

A `RuleSet` says which rules run, how, and at which level their findings are listed.

* `RuleSet.ofConfig c`: the rules that a configuration switches on.
* `RuleSet.ofText text`: the same from the text of a configuration.
* `RuleSet.level? rules name`: the level set for a rule, if one was set.
-/

namespace ChainLint

/-- The rules that run and the levels of their findings, the latest first. -/
structure RuleSet where
  comments : Bool
  chains : Option ChainRule
  levels : List (String × Level)
deriving Inhabited

namespace RuleSet

/-- No rule runs. -/
def empty : RuleSet := ⟨false, none, []⟩

/-- Runs the rule on comments. -/
def withComments (rules : RuleSet) : RuleSet := { rules with comments := true }

/-- Runs the rule on chains, in place of an earlier one. -/
def withChains (rules : RuleSet) (rule : ChainRule) : RuleSet := { rules with chains := some rule }

/-- Sets the level of a rule's findings, whether it runs or not. -/
def withLevel (rules : RuleSet) (name : String) (level : Level) : RuleSet :=
  { rules with levels := (name, level) :: rules.levels }

/-- Every rule runs as it is. -/
def default : RuleSet := empty.withComments.withChains .default

/-- The level set for a rule. -/
def level? (rules : RuleSet) (name : String) : Option Level := rules.levels.lookup name

/-- The names of the rules that run. -/
def enabled (rules : RuleSet) : List String :=
  (if rules.comments then [Rule.commentName] else []) ++
    (if rules.chains.isSome then [Rule.chainName] else [])

/-- Takes a setting into a rule set; a rule that is off is passed over. -/
def apply (settings : Settings) (rules : RuleSet) (s : Setting) : Except ConfigError RuleSet :=
  match s.severity.level? with
  | none => .ok rules
  | some level =>
    if s.rule = Rule.comment.id then .ok (rules.withComments.withLevel Rule.commentName level)
    else if s.rule = Rule.chain.id then
      match ChainRule.ofOptions? s.options settings with
      | .ok rule => .ok ((rules.withChains rule).withLevel Rule.chainName level)
      | .error fault => .error (.invalidOptions s.rule fault)
    else .ok rules

/-- Takes settings into a rule set in their order, up to one that is not accepted. -/
def applyAll (settings : Settings) : List Setting → RuleSet → Except ConfigError RuleSet
  | [], rules => .ok rules
  | s :: rest, rules =>
    match apply settings rules s with
    | .ok rules => applyAll settings rest rules
    | .error e => .error e

/-- The rule set that a configuration describes. -/
def ofConfig (c : Config) : Except ConfigError RuleSet :=
  match c.resolve with
  | .ok resolved => applyAll c.settings resolved empty
  | .error e => .error e

/-- The record of a setting that has been taken in. -/
def note (s : Setting) : LogRecord :=
  match s.severity.level? with
  | none => ⟨.trace, .runner, "Rule '" ++ s.rule ++ "' is turned off"⟩
  | some level => ⟨.debug, .runner, "Enabled rule '" ++ s.rule ++ "' as " ++ level.text⟩

/-- The records of settings up to one that is not accepted. -/
def notes (settings : Settings) : List Setting → RuleSet → List LogRecord
  | [], _ => []
  | s :: rest, rules =>
    match apply settings rules s with
    | .ok rules => note s :: notes settings rest rules
    | .error _ => []

/-- The log records of taking in a configuration. -/
def configNotes (c : Config) : List LogRecord :=
  c.resolveNotes ++
    match c.resolve with
    | .ok resolved => notes c.settings resolved empty
    | .error _ => []

/-- The rule set that the text of a configuration describes. -/
def ofText (text : String) : Except ConfigError RuleSet :=
  match Config.read text with
  | .ok c => ofConfig c
  | .error e => .error e

/-- The log records of taking in the text of a configuration. -/
def textNotes (text : String) : List LogRecord :=
  match Config.read text with
  | .ok c => configNotes c
  | .error _ => []

end RuleSet

end ChainLint
