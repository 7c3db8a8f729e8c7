import ChainLint.Config.Preset

/-!
# Configuration documents

A `Config` names presets to start from, entries of single rules, and settings that rules share.  All
of it may be left out, and a single preset may stand without its array.

* `Config.decoder`, `Config.read`: from documents and from text.
* `Config.toJson`: as a document.
-/

namespace ChainLint

/-- Settings that every rule may use. -/
structure Settings where
  brandCheckMethods : List String
deriving DecidableEq, Inhabited

/-- A configuration. -/
structure Config where
  presets : List String
  rules : Table Json
  settings : Settings
deriving Inhabited

namespace Settings

/-- Settings that say nothing. -/
def empty : Settings := ⟨[]⟩

/-- The name under which the methods are listed. -/
def methodsKey : String := "brandCheckMethods"

/-- Settings in documents. -/
def decoder : Json.Decoder Settings :=
  .record "Settings" empty
    [.of methodsKey (.list .string) fun methods s => { s with brandCheckMethods := methods }]

/-- Settings as a document. -/
def toJson (s : Settings) : Json := .object [(methodsKey, Json.ofStrings s.brandCheckMethods)]

end Settings

namespace Config

/-- The configuration that says nothing. -/
def empty : Config := ⟨[], .empty, .empty⟩

/-- The configuration that only starts from a preset. -/
def ofPreset (p : Preset) : Config := { empty with presets := [p.reference] }

/-- The texts of an array of texts. -/
def texts? : List Json → Option (List String)
  | [] => some []
  | .string s :: rest => (texts? rest).map (s :: ·)
  | _ :: _ => none

/-- One text, or an array of texts. -/
def oneOrMany? : Json → Except Json.Fault (List String)
  | .string s => .ok [s]
  | .array items =>
    match texts? items with
    | some texts => .ok texts
    | none => .error (.noVariant "OneOrMany")
  | _ => .error (.noVariant "OneOrMany")

/-- Configurations in documents. -/
def decoder : Json.Decoder Config :=
  .record "LintConfig" empty
    [.of "extends" (Json.Decoder.any.via oneOrMany?) fun names c => { c with presets := names },
      .of "rules" .table fun rules c => { c with rules := rules },
      .of "settings" Settings.decoder fun settings c => { c with settings := settings }]

/-- A configuration as a document. -/
def toJson (c : Config) : Json :=
  .object [("extends", Json.ofStrings c.presets), ("rules", .object c.rules.entries),
    ("settings", c.settings.toJson)]

/-- The configuration of a text. -/
def read (text : String) : Except ConfigError Config :=
  (decoder.decode text).mapError .unreadable

end Config

end ChainLint
