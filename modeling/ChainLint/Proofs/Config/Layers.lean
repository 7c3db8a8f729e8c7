import Mathlib.Data.List.Basic
import ChainLint.Config.Resolve

/-!
# The layers of a configuration

A configuration speaks of the rules in layers: the presets in their order, and over them the entries
of `rules`.  Without presets and entries the recommended preset is used.

* `RuleEntry.Denotes v severity options`: a value is an entry with this severity and these options.
* `Preset.IsName name`: a text names a preset, with or without the plugin in front.
* `Config.Refused e`: an entry of `rules` that is not accepted.
* `Layer.settings f`: the settings of the rules that a layer speaks of, as they are registered.
* `update_settings`, `applyPresets_uniform`, `applyEntries_settings`: one setting, the presets and the
  entries, each as a change of a layer.
-/

namespace ChainLint

/-- The ids of the registered rules, in the order of their registration. -/
def Rule.ids : List String := Rule.all.map Rule.id

theorem Rule.isKnown_iff {id : String} : Rule.isKnown id = true ↔ id ∈ Rule.ids := by
  simp [Rule.isKnown, Rule.ids]

/-- Rules are registered in the order of their ids. -/
theorem Rule.ids_ascending : Rule.ids.Pairwise (· < ·) := by decide

/-! ### Entries -/

namespace RuleEntry

/-- A value is an entry with a severity and options: it is the severity itself, or an array that
starts with the severity and goes on with the options. -/
inductive Denotes : Json → Severity → Option Json → Prop
  | bare {v : Json} {severity : Severity} (h : Severity.ofJson? v = .ok severity) :
    Denotes v severity none
  | array {head : Json} {rest : List Json} {severity : Severity}
    (h : Severity.ofJson? head = .ok severity) :
    Denotes (.array (head :: rest)) severity rest.head?

theorem settle?_of_severity {v : Json} {severity : Severity}
    (h : Severity.ofJson? v = .ok severity) : settle? v = .ok (severity, none) := by
  simp [settle?, ofJson?, h, resolve]

theorem settle?_array (head : Json) (rest : List Json) : settle? (.array (head :: rest)) =
    ((Severity.ofJson? head).map (·, rest.head?)).mapError .severity := by
  have hform : ofJson? (.array (head :: rest)) = some (.withOptions (head :: rest)) := rfl
  rw [settle?, hform]
  simp only [resolve]
  cases Severity.ofJson? head <;> rfl

theorem settle?_eq_ok_iff {v : Json} {severity : Severity} {options : Option Json} :
    settle? v = .ok (severity, options) ↔ Denotes v severity options := by
  constructor
  · intro h
    cases hv : Severity.ofJson? v with
    | ok s =>
      rw [settle?_of_severity hv, Except.ok.injEq, Prod.mk.injEq] at h
      obtain ⟨rfl, rfl⟩ := h
      exact .bare hv
    | error fault =>
      match v with
      | .array (head :: rest) =>
        rw [settle?_array] at h
        cases hhead : Severity.ofJson? head with
        | ok s =>
          simp only [hhead, Except.map, Except.mapError, Except.ok.injEq, Prod.mk.injEq] at h
          obtain ⟨rfl, rfl⟩ := h
          exact .array hhead
        | error fault => simp [hhead, Except.map, Except.mapError] at h
      | .array [] => simp [settle?, ofJson?, Severity.ofJson?, resolve] at h
      | .null | .bool _ | .number _ | .string _ | .object _ => simp [settle?, ofJson?, hv] at h
  · rintro (h | h)
    · exact settle?_of_severity h
    · rw [settle?_array, h]
      rfl

/-- A value that is no entry has a fault. -/
theorem settle?_eq_error {v : Json} (h : ∀ severity options, ¬ Denotes v severity options) :
    ∃ fault, settle? v = .error fault := by
  cases hv : settle? v with
  | error fault => exact ⟨fault, rfl⟩
  | ok r => exact absurd (settle?_eq_ok_iff.mp hv) (h r.1 r.2)

end RuleEntry

namespace Config

theorem isOwnKey_iff {key : String} : isOwnKey key = true ↔ pluginPrefix.toList <+: key.toList :=
  List.isPrefixOf_iff_prefix

theorem isOwnKey_of_mem_ids {key : String} (h : key ∈ Rule.ids) : isOwnKey key = true := by
  have hall : ∀ id ∈ Rule.ids, isOwnKey id = true := by decide
  exact hall key h

/-- An entry of this plugin that is not accepted: its key is no rule's, or its value is no entry. -/
def Refused (e : String × Json) : Prop :=
  pluginPrefix.toList <+: e.1.toList ∧
    (e.1 ∉ Rule.ids ∨ ∀ severity options, ¬ RuleEntry.Denotes e.2 severity options)

section SettleEntry

variable {key : String} {v : Json}

theorem settleEntry_foreign (h : isOwnKey key = false) : settleEntry key v = .ok none := by
  simp [settleEntry, h]

theorem settleEntry_unknown (hown : isOwnKey key = true) (h : key ∉ Rule.ids) :
    settleEntry key v = .error (.unknownRule key) := by
  have hknown : Rule.isKnown key = false := Bool.eq_false_iff.mpr (mt Rule.isKnown_iff.mp h)
  simp [settleEntry, hown, hknown]

theorem settleEntry_known (h : key ∈ Rule.ids) : settleEntry key v =
    ((RuleEntry.settle? v).map some).mapError (.invalidEntry key) := by
  rw [settleEntry, isOwnKey_of_mem_ids h, Rule.isKnown_iff.mpr h]
  cases RuleEntry.settle? v <;> rfl

/-- An entry that is accepted belongs to another plugin, or says something of a rule. -/
theorem settleEntry_of_not_refused (h : ¬ Refused (key, v)) :
    isOwnKey key = false ∧ settleEntry key v = .ok none ∨
      ∃ severity options, key ∈ Rule.ids ∧ RuleEntry.Denotes v severity options ∧
        settleEntry key v = .ok (some (severity, options)) := by
  cases hown : isOwnKey key with
  | false => exact Or.inl ⟨rfl, settleEntry_foreign hown⟩
  | true =>
    right
    rw [Refused, not_and_or, not_or, not_not] at h
    rcases h with h | ⟨hknown, hdenotes⟩
    · exact absurd (isOwnKey_iff.mp hown) h
    · push Not at hdenotes
      obtain ⟨severity, options, hdenotes⟩ := hdenotes
      refine ⟨severity, options, hknown, hdenotes, ?_⟩
      rw [settleEntry_known hknown, RuleEntry.settle?_eq_ok_iff.mpr hdenotes]
      rfl

/-- The error on an entry that is refused. -/
theorem settleEntry_of_refused (h : Refused (key, v)) :
    (key ∉ Rule.ids → settleEntry key v = .error (.unknownRule key)) ∧
    (key ∈ Rule.ids → ∃ fault, RuleEntry.settle? v = .error fault ∧
      settleEntry key v = .error (.invalidEntry key fault)) := by
  obtain ⟨hown, hbad⟩ := h
  refine ⟨settleEntry_unknown (isOwnKey_iff.mpr hown), fun hknown => ?_⟩
  obtain ⟨fault, hfault⟩ := RuleEntry.settle?_eq_error (hbad.resolve_left (not_not.mpr hknown))
  refine ⟨fault, hfault, ?_⟩
  rw [settleEntry_known hknown, hfault]
  rfl

end SettleEntry

end Config

/-! ### Names of presets -/

namespace Preset

/-- A text names a preset, with or without the plugin in front. -/
def IsName (name : String) : Prop := ∃ p : Preset, name = p.text ∨ name = p.reference

theorem find?_text (p : Preset) :
    [Preset.all, .allWarn, .recommended].find? (fun q => q.text.toList = p.text.toList) = some p := by
  cases p <;> rfl

theorem dropMark_text (p : Preset) : dropMark pluginMark.toList p.text.toList = p.text.toList := by
  cases p <;> rfl

theorem dropMark_reference (p : Preset) :
    dropMark pluginMark.toList p.reference.toList = p.text.toList := by
  cases p <;> rfl

theorem ofText?_eq_some_iff {name : String} {p : Preset} :
    ofText? name = some p ↔ name = p.text ∨ name = p.reference := by
  constructor
  · intro h
    have hbare : p.text.toList = dropMark pluginMark.toList name.toList := by
      simpa using List.find?_some h
    rw [dropMark] at hbare
    split at hbare
    next hmark =>
      right
      obtain ⟨rest, hrest⟩ := List.isPrefixOf_iff_prefix.mp hmark
      -- the mark was dropped, so behind it stands the name of the preset
      rw [← hrest, List.drop_left] at hbare
      rw [← String.toList_inj, reference, String.toList_append, hbare, hrest]
    next =>
      left
      exact String.toList_inj.mp hbare.symm
  · rintro (rfl | rfl)
    · rw [ofText?, dropMark_text]
      exact find?_text p
    · rw [ofText?, dropMark_reference]
      exact find?_text p

theorem isName_iff {name : String} : IsName name ↔ (ofText? name).isSome := by
  rw [Option.isSome_iff_exists]
  exact exists_congr fun p => ofText?_eq_some_iff.symm

end Preset

/-! ### Layers -/

/-- What layers say of rules by their ids: a severity and options, or nothing. -/
abbrev Layer := String → Option (Severity × Option Json)

namespace Layer

/-- The settings of some ids. -/
def rows (f : Layer) (ids : List String) : List Setting :=
  ids.filterMap fun id => (f id).map fun s => ⟨id, s.1, s.2⟩

/-- The settings of the registered rules. -/
def settings (f : Layer) : List Setting := f.rows Rule.ids

/-- Sets a rule; options that are not given stay as they are. -/
def set (f : Layer) (id : String) (severity : Severity) (options : Option Json) : Layer :=
  fun i => if i = id then some (severity, options.orElse fun _ => (f id).bind Prod.snd) else f i

/-- Every rule at one severity, or nothing at all. -/
def uniform (severity : Option Severity) : Layer := fun _ => severity.map (·, none)

variable {f : Layer} {ids : List String} {id : String}

theorem set_of_ne {i : String} {severity : Severity} {options : Option Json} (h : i ≠ id) :
    f.set id severity options i = f i := if_neg h

theorem set_self {severity : Severity} {options : Option Json} :
    f.set id severity options id = some (severity, options.orElse fun _ => (f id).bind Prod.snd) :=
  if_pos rfl

theorem rows_cons_of_none (h : f id = none) : f.rows (id :: ids) = f.rows ids := by
  simp [rows, h]

theorem rows_cons_of_some {s : Severity × Option Json} (h : f id = some s) :
    f.rows (id :: ids) = ⟨id, s.1, s.2⟩ :: f.rows ids := by
  simp [rows, h]

theorem rows_congr {g : Layer} (h : ∀ i ∈ ids, f i = g i) : f.rows ids = g.rows ids :=
  List.filterMap_congr fun i hi => by rw [h i hi]

theorem rows_eq_nil (h : ∀ i ∈ ids, f i = none) : f.rows ids = [] :=
  List.filterMap_eq_nil_iff.mpr fun i hi => by rw [h i hi]; rfl

theorem mem_rows {s : Setting} :
    s ∈ f.rows ids ↔ s.rule ∈ ids ∧ f s.rule = some (s.severity, s.options) := by
  simp only [rows, List.mem_filterMap, Option.map_eq_some_iff]
  constructor
  · rintro ⟨i, hi, r, hr, rfl⟩
    exact ⟨hi, hr⟩
  · rintro ⟨hs, hr⟩
    exact ⟨s.rule, hs, _, hr, rfl⟩

theorem map_rule_rows : (f.rows ids).map Setting.rule = ids.filter fun i => (f i).isSome := by
  induction ids with
  | nil => rfl
  | cons i ids ih =>
    cases h : f i with
    | none => rw [rows_cons_of_none h, ih, List.filter_cons_of_neg (by simp [h])]
    | some s => rw [rows_cons_of_some h, List.map_cons, ih, List.filter_cons_of_pos (by simp [h])]

/-- One setting is set among rising ids; if it is new, nothing may be set behind it. -/
theorem update_rows (hasc : ids.Pairwise (· < ·)) (hid : id ∈ ids)
    (hlast : f id = none → ∀ i ∈ ids, id < i → f i = none) (severity : Severity)
    (options : Option Json) :
    Setting.update id severity options (f.rows ids) = (f.set id severity options).rows ids := by
  induction ids with
  | nil => exact absurd hid List.not_mem_nil
  | cons i ids ih =>
    obtain ⟨hlt, hasc'⟩ := List.pairwise_cons.mp hasc
    by_cases hi : i = id
    · subst hi
      have hrest : (f.set i severity options).rows ids = f.rows ids :=
        rows_congr fun j hj => set_of_ne fun h => String.lt_irrefl i (h ▸ hlt j hj)
      rw [rows_cons_of_some set_self, hrest]
      cases hf : f i with
      | none =>
        -- a new setting is put at the end, which is its place when no later rule is set
        have hnil : f.rows ids = [] :=
          rows_eq_nil fun j hj => hlast hf j (List.mem_cons_of_mem i hj) (hlt j hj)
        rw [rows_cons_of_none hf, hnil, Setting.update]
        cases options <;> rfl
      | some s =>
        rw [rows_cons_of_some hf, Setting.update, if_pos rfl]
        rfl
    · have hid' : id ∈ ids := (List.mem_cons.mp hid).resolve_left (Ne.symm hi)
      have hrest := ih hasc' hid' fun hf j hj => hlast hf j (List.mem_cons_of_mem i hj)
      have hset : f.set id severity options i = f i := set_of_ne hi
      cases hf : f i with
      | none => rw [rows_cons_of_none hf, rows_cons_of_none (hset.trans hf), hrest]
      | some s =>
        rw [rows_cons_of_some hf, rows_cons_of_some (hset.trans hf), Setting.update, if_neg hi, hrest]

/-- One setting is set among those of the registered rules. -/
theorem update_settings (hid : id ∈ Rule.ids)
    (hlast : f id = none → ∀ i ∈ Rule.ids, id < i → f i = none) (severity : Severity)
    (options : Option Json) :
    Setting.update id severity options f.settings = (f.set id severity options).settings :=
  update_rows Rule.ids_ascending hid hlast severity options

theorem mem_settings {s : Setting} :
    s ∈ f.settings ↔ s.rule ∈ Rule.ids ∧ f s.rule = some (s.severity, s.options) := mem_rows

theorem mem_map_rule_settings :
    id ∈ f.settings.map Setting.rule ↔ id ∈ Rule.ids ∧ (f id).isSome := by
  rw [settings, map_rule_rows, List.mem_filter]

theorem sublist_settings : (f.settings.map Setting.rule).Sublist Rule.ids := by
  rw [settings, map_rule_rows]
  exact List.filter_sublist

end Layer

namespace Config

/-! ### The presets -/

/-- A preset sets every rule anew. -/
theorem applyPreset_uniform (severity : Option Severity) (p : Preset) :
    applyPreset (Layer.uniform severity).settings p = (Layer.uniform p.severity).settings := by
  cases severity <;> rfl

/-- The severity of the last preset. -/
def lastSeverity? (presets : List String) : Option Severity :=
  (presets.getLast?.bind Preset.ofText?).map Preset.severity

/-- After the presets every rule is as the last one says. -/
theorem applyPresets_uniform {presets : List String} (h : ∀ n ∈ presets, Preset.IsName n)
    (severity : Option Severity) : applyPresets presets (Layer.uniform severity).settings =
      .ok (Layer.uniform ((lastSeverity? presets).or severity)).settings := by
  induction presets generalizing severity with
  | nil => rfl
  | cons name rest ih =>
    obtain ⟨hname, hrest⟩ := List.forall_mem_cons.mp h
    obtain ⟨p, hp⟩ := Option.isSome_iff_exists.mp (Preset.isName_iff.mp hname)
    rw [applyPresets, hp]
    simp only [applyPreset_uniform]
    rw [ih hrest]
    -- the last preset is the last of the others, if there are any
    cases hlast : rest.getLast? with
    | none => simp [lastSeverity?, List.getLast?_cons, hlast, hp]
    | some last =>
      have hmem : last ∈ rest := List.mem_of_getLast? hlast
      obtain ⟨q, hq⟩ := Option.isSome_iff_exists.mp (Preset.isName_iff.mp (hrest last hmem))
      simp [lastSeverity?, List.getLast?_cons, hlast, hq]

/-- The presets fail at the first text that names none. -/
theorem applyPresets_error {before after : List String} {name : String}
    (hbefore : ∀ n ∈ before, Preset.IsName n) (h : ¬ Preset.IsName name) (settings : List Setting) :
    applyPresets (before ++ name :: after) settings = .error (.unknownPreset name) := by
  induction before generalizing settings with
  | nil =>
    have hnone : Preset.ofText? name = none :=
      Option.not_isSome_iff_eq_none.mp (mt Preset.isName_iff.mpr h)
    rw [List.nil_append, applyPresets, hnone]
  | cons n before ih =>
    obtain ⟨hn, hrest⟩ := List.forall_mem_cons.mp hbefore
    obtain ⟨p, hp⟩ := Option.isSome_iff_exists.mp (Preset.isName_iff.mp hn)
    rw [List.cons_append, applyPresets, hp]
    exact ih hrest _

theorem isName_of_applyPresets {presets : List String} {settings resolved : List Setting}
    (h : applyPresets presets settings = .ok resolved) : ∀ n ∈ presets, Preset.IsName n := by
  induction presets generalizing settings with
  | nil => exact fun n hn => absurd hn List.not_mem_nil
  | cons name rest ih =>
    rw [applyPresets] at h
    cases hp : Preset.ofText? name with
    | none => simp [hp] at h
    | some p =>
      simp only [hp] at h
      have hname : Preset.IsName name := Preset.isName_iff.mpr (by simp [hp])
      exact List.forall_mem_cons.mpr ⟨hname, ih h⟩

/-! ### The entries -/

/-- Entries of which none is refused set the rules that they speak of, and no others. -/
theorem applyEntries_settings {entries : List (String × Json)} (hasc : Json.Ascending entries)
    (h : ∀ e ∈ entries, ¬ Refused e) (f : Layer)
    (hlast : ∀ e ∈ entries, f e.1 = none → ∀ i ∈ Rule.ids, e.1 < i → f i = none) :
    ∃ g : Layer, applyEntries entries f.settings = .ok g.settings ∧
      (∀ e ∈ entries, e.1 ∈ Rule.ids → ∃ severity options, RuleEntry.Denotes e.2 severity options ∧
        g e.1 = some (severity, options.orElse fun _ => (f e.1).bind Prod.snd)) ∧
      ∀ id, (∀ v, (id, v) ∉ entries) → g id = f id := by
  induction entries generalizing f with
  | nil => exact ⟨f, rfl, fun e he => absurd he List.not_mem_nil, fun _ _ => rfl⟩
  | cons e rest ih =>
    obtain ⟨key, v⟩ := e
    obtain ⟨hkey, hasc'⟩ := List.pairwise_cons.mp hasc
    obtain ⟨he, hrest⟩ := List.forall_mem_cons.mp h
    obtain ⟨hlastKey, hlast'⟩ := List.forall_mem_cons.mp hlast
    -- the keys rise, so no entry behind speaks of `key` again
    have hnotin : ∀ w, (key, w) ∉ rest := fun w hw => String.lt_irrefl key (hkey (key, w) hw)
    rcases settleEntry_of_not_refused he with
      ⟨hforeign, hsettle⟩ | ⟨severity, options, hid, hden, hsettle⟩
    · -- an entry of another plugin leaves the layer as it is, and its key is no rule's
      obtain ⟨g, hg, hset, hkeep⟩ := ih hasc' hrest f hlast'
      refine ⟨g, ?_, ?_, fun id hid => hkeep id fun w hw => hid w (List.mem_cons_of_mem _ hw)⟩
      · rw [applyEntries, hsettle]
        exact hg
      · refine List.forall_mem_cons.mpr ⟨fun hid => ?_, hset⟩
        rw [isOwnKey_of_mem_ids hid] at hforeign
        exact absurd hforeign Bool.noConfusion
    · -- What is set now lies before the keys that follow, so a rule they set anew stays the last.
      have hnext : ∀ e ∈ rest, f.set key severity options e.1 = none →
          ∀ i ∈ Rule.ids, e.1 < i → f.set key severity options i = none := by
        intro e he hnone i hi hlt
        have hne : e.1 ≠ key := fun heq => String.lt_irrefl key (heq ▸ hkey e he)
        have hine : i ≠ key := fun heq =>
          String.lt_irrefl key (String.lt_trans (hkey e he) (heq ▸ hlt))
        rw [Layer.set_of_ne hne] at hnone
        rw [Layer.set_of_ne hine]
        exact hlast' e he hnone i hi hlt
      obtain ⟨g, hg, hset, hkeep⟩ := ih hasc' hrest (f.set key severity options) hnext
      refine ⟨g, ?_, ?_, fun id hid => ?_⟩
      · rw [applyEntries, hsettle]
        simp only [Layer.update_settings hid hlastKey]
        exact hg
      · refine List.forall_mem_cons.mpr ⟨fun _ => ⟨severity, options, hden, ?_⟩, fun e he hid => ?_⟩
        · rw [hkeep key hnotin, Layer.set_self]
        · -- setting `key` leaves what `f` says of the rule of `e`
          have hne : e.1 ≠ key := fun heq => hnotin e.2 (heq ▸ he)
          obtain ⟨severity', options', hden', hge⟩ := hset e he hid
          rw [Layer.set_of_ne hne] at hge
          exact ⟨severity', options', hden', hge⟩
      · have hne : id ≠ key := fun heq => hid v (heq ▸ List.mem_cons_self)
        rw [hkeep id fun w hw => hid w (List.mem_cons_of_mem _ hw), Layer.set_of_ne hne]

/-- The entries fail at the first that is refused. -/
theorem applyEntries_error {before after : List (String × Json)} {key : String} {v : Json}
    {error : ConfigError} (hbefore : ∀ e ∈ before, ¬ Refused e)
    (h : settleEntry key v = .error error) (settings : List Setting) :
    applyEntries (before ++ (key, v) :: after) settings = .error error := by
  induction before generalizing settings with
  | nil => rw [List.nil_append, applyEntries, h]
  | cons e before ih =>
    obtain ⟨he, hrest⟩ := List.forall_mem_cons.mp hbefore
    rw [List.cons_append, applyEntries]
    rcases settleEntry_of_not_refused he with ⟨-, hsettle⟩ | ⟨severity, options, -, -, hsettle⟩
    · rw [hsettle]
      exact ih hrest settings
    · rw [hsettle]
      exact ih hrest _

theorem not_refused_of_applyEntries {entries : List (String × Json)}
    {settings resolved : List Setting} (h : applyEntries entries settings = .ok resolved) :
    ∀ e ∈ entries, ¬ Refused e := by
  induction entries generalizing settings with
  | nil => exact fun e he => absurd he List.not_mem_nil
  | cons e rest ih =>
    obtain ⟨key, v⟩ := e
    rw [applyEntries] at h
    cases hsettle : settleEntry key v with
    | error error => simp [hsettle] at h
    | ok r =>
      have hnot : ¬ Refused (key, v) := by
        intro hbad
        obtain ⟨hunknown, hinvalid⟩ := settleEntry_of_refused hbad
        by_cases hid : key ∈ Rule.ids
        · obtain ⟨fault, -, herror⟩ := hinvalid hid
          simp [herror] at hsettle
        · simp [hunknown hid] at hsettle
      -- whichever settings this one leaves, the entries behind it go on from these
      cases r with
      | none =>
        simp only [hsettle] at h
        exact List.forall_mem_cons.mpr ⟨hnot, ih h⟩
      | some r =>
        simp only [hsettle] at h
        exact List.forall_mem_cons.mpr ⟨hnot, ih h⟩

end Config

end ChainLint
