import ChainLint.Proofs.Config.EntryLanguage
import ChainLint.Proofs.Config.OptionsDocument
import ChainLint.Proofs.Json.Documents

/-!
# Configurations read back

Configurations, entries and options are written as documents in one form only, whatever form they were
read from: the presets as an array, a severity as its number, every field with its value.  That form
is read as what it was written from.

* `Json.Decoder.namedJson_field`: a member of an object that has been read goes to its field.
* `Config.ofJson_toJson`, `RuleEntry.ofJson_toJson`, `ChainOptions.ofJson_toJson`: documents.
* `Config.read_toText`, `RuleEntry.decode_toText`, `ChainOptions.decode_toText`: texts, if they hold the
  values of the entries without floats.
* `Config.held_of_read`, `RuleEntry.held_of_decode`: what has been read from text does.
* `Config.reads_back`: all of it together.
-/

namespace ChainLint

/-! ### Parts -/

namespace Config

theorem texts?_map_string (texts : List String) : texts? (texts.map .string) = some texts := by
  induction texts with
  | nil => rfl
  | cons s texts ih => rw [List.map_cons, texts?, ih, Option.map_some]

theorem oneOrMany?_ofStrings (texts : List String) : oneOrMany? (Json.ofStrings texts) = .ok texts := by
  simp only [Json.ofStrings, oneOrMany?, texts?_map_string]

end Config

namespace Json.Decoder

variable {α σ : Type} {fields : List (Field σ)} {key : String} {v : Json} {s s' : σ}

theorem strings_ofStrings (texts : List String) :
    (list string).ofJson (ofStrings texts) = .ok texts :=
  mapM_string_ofJson (Config.texts?_map_string texts)

theorem table_entries (t : Table Json) : table.ofJson (.object t.entries) = .ok t :=
  congrArg Except.ok (Table.ofList_entries t)

theorem field_ofJson {d : Decoder α} {a : α} (name : String) (set : α → σ → σ) (s : σ)
    (h : d.ofJson v = .ok a) : ((Field.of name d set).into s).ofJson v = .ok (set a s) := by
  have hinto : ((Field.of name d set).into s).ofJson v = (d.ofJson v).map (set · s) := rfl
  rw [hinto, h]
  rfl

/-- A member goes to the field of its name. -/
theorem namedJson_field {f : Field σ} (hfield : fields.find? (·.name = key) = some f)
    (h : (f.into s).ofJson v = .ok s') (rest : List (String × Json)) :
    namedJson fields ((key, v) :: rest) s = namedJson fields rest s' := by
  simp only [namedJson, hfield, h]
  rfl

end Json.Decoder

open Json.Decoder (record any table number list string namedJson namedText namedJson_field field_ofJson
  strings_ofStrings table_entries takes_field takes_namedText takes_number takes_record takes_strings
  takes_table takes_via ensures_field ensures_record ensures_table ensures_via)
open Json (Held Exact)
open Json.Reader (Takes takes_value Ensures ensures_true ensures_value depthLimit)

/-! ### Fields -/

namespace Settings

/-- The field of the methods. -/
def methodsField : Json.Decoder.Field Settings :=
  .of methodsKey (list string) fun methods s => { s with brandCheckMethods := methods }

theorem find_methods : [methodsField].find? (·.name = methodsKey) = some methodsField := rfl

end Settings

namespace Config

/-- The field of the presets. -/
def presetsField : Json.Decoder.Field Config :=
  .of "extends" (any.via oneOrMany?) fun names c => { c with presets := names }

/-- The field of the entries. -/
def rulesField : Json.Decoder.Field Config :=
  .of "rules" table fun rules c => { c with rules := rules }

/-- The field of the settings. -/
def settingsField : Json.Decoder.Field Config :=
  .of "settings" Settings.decoder fun settings c => { c with settings := settings }

/-- The fields of a configuration. -/
def fields : List (Json.Decoder.Field Config) := [presetsField, rulesField, settingsField]

theorem find_presets : fields.find? (·.name = "extends") = some presetsField := rfl

theorem find_rules : fields.find? (·.name = "rules") = some rulesField := rfl

theorem find_settings : fields.find? (·.name = "settings") = some settingsField := rfl

end Config

namespace ChainOptions

/-- The fields of options. -/
def fields : List (Json.Decoder.Field ChainOptions) := [limitField, methodsField]

theorem find_limit : fields.find? (·.name = limitKey) = some limitField := rfl

theorem find_methods : fields.find? (·.name = Settings.methodsKey) = some methodsField := rfl

end ChainOptions

/-! ### Documents -/

theorem Settings.ofJson_toJson (s : Settings) : decoder.ofJson s.toJson = .ok s :=
  namedJson_field find_methods (field_ofJson _ _ _ (strings_ofStrings s.brandCheckMethods)) []

theorem Config.ofJson_toJson (c : Config) : decoder.ofJson c.toJson = .ok c := by
  have hpresets : (any.via oneOrMany?).ofJson (Json.ofStrings c.presets) = .ok c.presets :=
    oneOrMany?_ofStrings c.presets
  have hfields (members : List (String × Json)) :
      decoder.ofJson (.object members) = namedJson fields members empty := rfl
  rw [toJson, hfields, namedJson_field find_presets (field_ofJson _ _ _ hpresets),
    namedJson_field find_rules (field_ofJson _ _ _ (table_entries c.rules)),
    namedJson_field find_settings (field_ofJson _ _ _ c.settings.ofJson_toJson)]
  rfl

theorem Severity.ofJson?_toJson (s : Severity) : ofJson? s.toJson = .ok s := by
  cases s <;> rfl

/-- An array is no severity, so the entry is not taken for one. -/
theorem RuleEntry.ofJson?_toJson (e : RuleEntry) : ofJson? e.toJson = some e := by
  cases e with
  | severity s => simp only [toJson, ofJson?, s.ofJson?_toJson]
  | withOptions items => rfl

theorem RuleEntry.ofJson_toJson (e : RuleEntry) : decoder.ofJson e.toJson = .ok e := by
  rw [decoder_ofJson, e.ofJson?_toJson]

theorem RuleEntry.settle?_toJson (e : RuleEntry) : settle? e.toJson = e.resolve := by
  rw [settle?, e.ofJson?_toJson]

/-- A limit of up to 53 binary digits is written as a whole number and read through a float. -/
theorem ChainOptions.ofJson_toJson {o : ChainOptions} (h : o.limit ≤ 2 ^ 53) :
    decoder.ofJson o.toJson = .ok o := by
  have hlimit : limitOf (.integer o.limit) = o.limit := limitOf_integer (by omega)
  have hnumber : number.ofJson (Json.ofNat o.limit) = .ok (.integer o.limit) := rfl
  have hfields (members : List (String × Json)) :
      decoder.ofJson (.object members) = namedJson fields members empty := rfl
  rw [toJson, hfields, namedJson_field find_limit (field_ofJson _ _ _ hnumber),
    namedJson_field find_methods (field_ofJson _ _ _ (strings_ofStrings o.methods)), hlimit]
  rfl

theorem ChainRule.ofOptions?_toJson {o : ChainOptions} (h : o.limit ≤ 2 ^ 53) (s : Settings) :
    ofOptions? (some o.toJson) s = .ok (ofOptions o s) := by
  rw [ofOptions?, ChainOptions.ofJson_toJson h]
  rfl

/-! ### Texts -/

theorem Json.held_ofStrings (room : ℕ) (texts : List String) : Held (room + 1) (ofStrings texts) := by
  refine .array fun v hv => ?_
  obtain ⟨s, -, rfl⟩ := List.mem_map.mp hv
  exact .string s

theorem Json.exact_ofStrings (texts : List String) : Exact (ofStrings texts) := by
  refine .array fun v hv => ?_
  obtain ⟨s, -, rfl⟩ := List.mem_map.mp hv
  exact .string s

namespace Settings

theorem takes_toJson (room : ℕ) (s : Settings) :
    Takes (decoder.ofText (room + 2)) s.toJson.compact s :=
  takes_record (.cons (takes_namedText find_methods rfl
    (takes_field _ _ (takes_strings room s.brandCheckMethods))) (.nil _))

end Settings

namespace Config

theorem takes_toJson {room : ℕ} {c : Config} (hheld : ∀ m ∈ c.rules.entries, Held (room + 1) m.2)
    (hexact : ∀ m ∈ c.rules.entries, Exact m.2) :
    Takes (decoder.ofText (room + 3)) c.toJson.compact c := by
  have hpresets : Takes ((any.via oneOrMany?).ofText (room + 2)) (Json.ofStrings c.presets).compact
      c.presets :=
    takes_via (takes_value (Json.held_ofStrings _ _) (Json.exact_ofStrings _))
      (oneOrMany?_ofStrings c.presets)
  exact takes_record
    (.cons (takes_namedText find_presets rfl (takes_field _ _ hpresets))
      (.cons (takes_namedText find_rules rfl (takes_field _ _ (takes_table hheld hexact)))
        (.cons (takes_namedText find_settings rfl (takes_field _ _ (c.settings.takes_toJson room)))
          (.nil _))))

theorem read_eq_ok_iff {text : String} {c : Config} :
    read text = .ok c ↔ decoder.decode text = .ok c := by
  rw [read]
  cases decoder.decode text <;> simp [Except.mapError]

/-- A configuration whose entries have values without floats is read back from its text. -/
theorem read_toText {c : Config} (hheld : ∀ m ∈ c.rules.entries, Held (depthLimit - 2) m.2)
    (hexact : ∀ m ∈ c.rules.entries, Exact m.2) : read c.toJson.toText = .ok c :=
  read_eq_ok_iff.mpr (takes_toJson hheld hexact).run

/-- The values of the entries that have been read from text. -/
theorem held_of_read {text : String} {c : Config} (h : read text = .ok c) :
    ∀ m ∈ c.rules.entries, Held (depthLimit - 2) m.2 := by
  -- Of 127 levels of brackets one is the configuration's own and one that of its entries.
  have hfields : ∀ f ∈ fields, ∀ c : Config, (∀ m ∈ c.rules.entries, Held 125 m.2) →
      Ensures ((f.into c).ofText 126) fun c => ∀ m ∈ c.rules.entries, Held 125 m.2 := by
    intro f hf
    have hcases : f = presetsField ∨ f = rulesField ∨ f = settingsField := by
      simpa [fields] using hf
    rcases hcases with rfl | rfl | rfl
    · exact ensures_field _ (ensures_true _) fun _ _ _ hc => hc
    · exact ensures_field _ ensures_table fun _ _ ht _ => ht
    · exact ensures_field _ (ensures_true _) fun _ _ _ hc => hc
  exact (ensures_record (List.forall_mem_nil _) hfields).run (read_eq_ok_iff.mp h)

end Config

namespace RuleEntry

/-- An entry without floats that text holds is read back from its text. -/
theorem decode_toText {e : RuleEntry} (hheld : Held depthLimit e.toJson)
    (hexact : Exact e.toJson) : decoder.decode e.toJson.toText = .ok e := by
  have hentry : decoder.ofJson e.toJson = .ok e := e.ofJson_toJson
  exact (takes_via (takes_value hheld hexact) hentry).run

/-- The value of an entry that has been read from text. -/
theorem held_of_decode {text : String} {e : RuleEntry} (h : decoder.decode text = .ok e) :
    Held depthLimit e.toJson := by
  have hvalue : Ensures (any.ofText depthLimit) (Held depthLimit) := ensures_value _
  have hentry : Ensures (decoder.ofText depthLimit) fun e => Held depthLimit e.toJson := by
    refine ensures_via hvalue fun v e hv he => ?_
    have hform : ofJson? v = some e := by
      split at he
      · next e' he' => rw [he', Except.ok.inj he]
      · cases he
    cases e with
    | severity s => cases s <;> exact .number ⟨by decide, by decide⟩
    | withOptions items =>
      rw [eq_array_of_ofJson? hform] at hv
      exact hv
  exact hentry.run h

end RuleEntry

namespace ChainOptions

theorem takes_toJson {o : ChainOptions} (h : o.limit ≤ 2 ^ 53) (room : ℕ) :
    Takes (decoder.ofText (room + 2)) o.toJson.compact o := by
  have hword : Json.Number.IsWord (.integer o.limit) := ⟨by omega, by omega⟩
  have hvalue : limitOf (.integer o.limit) = o.limit := limitOf_integer (by omega)
  have hlimit : Takes ((limitField.into empty).ofText (room + 1)) (Json.ofNat o.limit).compact
      { empty with limit := o.limit } := by
    have hnumber : Takes (number.ofText (room + 1)) (Json.ofNat o.limit).compact (.integer o.limit) :=
      takes_number hword _
    have hfield : Takes ((limitField.into empty).ofText (room + 1)) (Json.ofNat o.limit).compact
        { empty with limit := limitOf (.integer o.limit) } := takes_field _ _ hnumber
    rw [hvalue] at hfield
    exact hfield
  exact takes_record
    (.cons (takes_namedText find_limit rfl hlimit)
      (.cons (takes_namedText find_methods rfl (takes_field _ _ (takes_strings room o.methods)))
        (.nil _)))

/-- Options with a limit of up to 53 binary digits are read back from their text. -/
theorem decode_toText {o : ChainOptions} (h : o.limit ≤ 2 ^ 53) :
    decoder.decode o.toJson.toText = .ok o := (takes_toJson h 125).run

end ChainOptions

/-! ### Read back -/

namespace Config

/-- **What is written is read back.**  A configuration, an entry and options with a limit of up to 53
binary digits are read from their documents as themselves, whatever values they hold, and so they
resolve to the same settings and make the same rule.  From their texts they are read as themselves too,
if text holds the values and no value is a float; of the levels of brackets that text may have, two are
those of the configuration.  And whatever form a configuration or an entry has been read from, what is
then written of it is such a text. -/
theorem reads_back :
    ((∀ c : Config, decoder.ofJson c.toJson = .ok c) ∧
      (∀ e : RuleEntry, RuleEntry.decoder.ofJson e.toJson = .ok e ∧
        RuleEntry.settle? e.toJson = e.resolve) ∧
      ∀ o : ChainOptions, o.limit ≤ 2 ^ 53 → ChainOptions.decoder.ofJson o.toJson = .ok o ∧
        ∀ shared, ChainRule.ofOptions? (some o.toJson) shared = .ok (.ofOptions o shared)) ∧
    ((∀ c : Config, (∀ m ∈ c.rules.entries, Held (depthLimit - 2) m.2 ∧ Exact m.2) →
        read c.toJson.toText = .ok c ∧ (read c.toJson.toText).bind resolve = c.resolve) ∧
      (∀ e : RuleEntry, Held depthLimit e.toJson → Exact e.toJson →
        RuleEntry.decoder.decode e.toJson.toText = .ok e) ∧
      ∀ o : ChainOptions, o.limit ≤ 2 ^ 53 →
        ChainOptions.decoder.decode o.toJson.toText = .ok o) ∧
    (∀ text c, read text = .ok c → (∀ m ∈ c.rules.entries, Exact m.2) →
      read c.toJson.toText = .ok c) ∧
    ∀ text e, RuleEntry.decoder.decode text = .ok e → Exact e.toJson →
      RuleEntry.decoder.decode e.toJson.toText = .ok e := by
  refine ⟨⟨ofJson_toJson, fun e => ⟨e.ofJson_toJson, e.settle?_toJson⟩, fun o ho =>
    ⟨ChainOptions.ofJson_toJson ho, ChainRule.ofOptions?_toJson ho⟩⟩,
    ⟨fun c hc => ?_, fun e => RuleEntry.decode_toText, fun o => ChainOptions.decode_toText⟩,
    fun text c hread hexact => read_toText (held_of_read hread) hexact,
    fun text e hread hexact => RuleEntry.decode_toText (RuleEntry.held_of_decode hread) hexact⟩
  have hread : read c.toJson.toText = .ok c :=
    read_toText (fun m hm => (hc m hm).1) fun m hm => (hc m hm).2
  exact ⟨hread, by rw [hread]; rfl⟩

/-- A single preset behind the entries, the settings being left out, makes a configuration that is read
back from the one form in which it is written. -/
theorem reads_back_single :
    let entry : Json := .array [.string "warn", .number (.integer (-1))]
    let c : Config := ⟨["all"], .ofList [("x", entry)], .empty⟩
    let v : Json := .object [("rules", .object c.rules.entries), ("extends", .string "all")]
    read v.toText = .ok c ∧ read c.toJson.toText = .ok c := by
  intro entry c v
  have hexact : ∀ m ∈ c.rules.entries, Exact m.2 := by
    intro m hm
    obtain rfl := List.mem_singleton.mp hm
    exact .array (List.forall_mem_cons.mpr ⟨.string "warn", List.forall_mem_singleton.mpr (.number _)⟩)
  have hheld : ∀ m ∈ c.rules.entries, Held (depthLimit - 2) m.2 := by
    intro m hm
    obtain rfl := List.mem_singleton.mp hm
    refine .array (List.forall_mem_cons.mpr ⟨.string "warn", List.forall_mem_singleton.mpr ?_⟩)
    exact .number ⟨by decide, by decide⟩
  have hpreset : Takes ((any.via oneOrMany?).ofText 126) (Json.string "all").compact c.presets :=
    takes_via (takes_value (.string "all") (.string "all")) rfl
  have htakes : Takes (decoder.ofText 127) v.compact c := takes_record
    (.cons (takes_namedText find_rules rfl (takes_field _ _ (takes_table hheld hexact)))
      (.cons (takes_namedText find_presets rfl (takes_field _ _ hpreset)) (.nil _)))
  have hread : read v.toText = .ok c := read_eq_ok_iff.mpr htakes.run
  exact ⟨hread, reads_back.2.2.1 _ c hread hexact⟩

end Config

end ChainLint
