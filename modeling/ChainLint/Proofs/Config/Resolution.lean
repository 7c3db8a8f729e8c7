import ChainLint.Proofs.Config.Layers

/-!
# What a configuration resolves to

* `Config.Layered c resolved`: what the layers of a configuration say of the rules.
* `Config.resolve_unset`: without presets and entries every rule is at `warn`.
* `Config.exists_settings`: whatever is resolved are the settings of a layer, so no rule comes twice.
* `Config.resolve_layers`: what a configuration resolves to, or why it does not.
-/

namespace ChainLint.Config

/-- What the layers of a configuration say of the rules. -/
structure Layered (c : Config) (resolved : List Setting) : Prop where
  /-- Every registered rule comes at most once, in the order of registration. -/
  order : (resolved.map Setting.rule).Sublist Rule.ids
  /-- A preset speaks of every rule, and an entry of its own. -/
  present : ∀ id ∈ Rule.ids, id ∈ resolved.map Setting.rule ↔
    c.presets ≠ [] ∨ ∃ v, (id, v) ∈ c.rules.entries
  /-- The entry of a rule says how it is set. -/
  entry : ∀ s ∈ resolved, ∀ v, (s.rule, v) ∈ c.rules.entries →
    RuleEntry.Denotes v s.severity s.options
  /-- A rule without an entry is as the last preset says. -/
  preset : ∀ s ∈ resolved, (∀ v, (s.rule, v) ∉ c.rules.entries) →
    lastSeverity? c.presets = some s.severity ∧ s.options = none

variable {c : Config}

theorem isUnset_iff : c.isUnset = true ↔ c.presets = [] ∧ c.rules.entries = [] := by
  simp [isUnset, Table.isEmpty]

theorem base_of_isUnset (h : c.isUnset = true) :
    c.base = (Layer.uniform (some .warn)).settings := by
  rw [base, if_pos h]
  rfl

theorem base_of_not_isUnset (h : ¬ c.isUnset = true) : c.base = (Layer.uniform none).settings := by
  rw [base, if_neg h]
  rfl

/-- Without presets and entries every rule is at `warn`. -/
theorem resolve_unset (h : c.isUnset = true) :
    c.resolve = .ok (Rule.all.map fun r => ⟨r.id, .warn, none⟩) := by
  obtain ⟨hpresets, hentries⟩ := isUnset_iff.mp h
  rw [resolve, base_of_isUnset h, hpresets, hentries]
  rfl

theorem isSome_lastSeverity? {presets : List String} (h : ∀ n ∈ presets, Preset.IsName n) :
    (lastSeverity? presets).isSome ↔ presets ≠ [] := by
  constructor
  · rintro hsome rfl
    exact absurd hsome Bool.noConfusion
  · intro hne
    have hlast := h _ (List.getLast_mem hne)
    rw [lastSeverity?, List.getLast?_eq_some_getLast hne, Option.isSome_map, Option.bind_some]
    exact Preset.isName_iff.mp hlast

/-- A configuration without fault resolves to the settings of a layer. -/
theorem resolve_settings (hset : ¬ c.isUnset = true) (hpresets : ∀ n ∈ c.presets, Preset.IsName n)
    (hentries : ∀ e ∈ c.rules.entries, ¬ Refused e) :
    ∃ g : Layer, c.resolve = .ok g.settings ∧ Layered c g.settings := by
  have hstart := applyPresets_uniform hpresets none
  rw [Option.or_none] at hstart
  obtain ⟨g, hg, hentry, hkeep⟩ := applyEntries_settings c.rules.ascending hentries
    (Layer.uniform (lastSeverity? c.presets)) fun e _ hnone i _ _ => hnone
  -- presets give no options, so those of a rule are all from its entry
  have hoptions : ∀ id, (Layer.uniform (lastSeverity? c.presets) id).bind Prod.snd = none := by
    intro id
    rw [Layer.uniform]
    cases lastSeverity? c.presets <;> rfl
  have hown : ∀ id ∈ Rule.ids, ∀ v, (id, v) ∈ c.rules.entries →
      ∃ severity options, RuleEntry.Denotes v severity options ∧ g id = some (severity, options) := by
    intro id hid v hv
    obtain ⟨severity, options, hden, hgid⟩ := hentry (id, v) hv hid
    refine ⟨severity, options, hden, ?_⟩
    rw [hgid, hoptions]
    cases options <;> rfl
  refine ⟨g, ?_, Layer.sublist_settings, fun id hid => ?_, fun s hs v hv => ?_, fun s hs hnone => ?_⟩
  · rw [resolve, base_of_not_isUnset hset, hstart]
    exact hg
  · rw [Layer.mem_map_rule_settings, and_iff_right hid]
    by_cases hv : ∃ v, (id, v) ∈ c.rules.entries
    · obtain ⟨v, hv'⟩ := hv
      obtain ⟨severity, options, -, hgid⟩ := hown id hid v hv'
      simp only [hgid, Option.isSome_some, true_iff]
      exact Or.inr ⟨v, hv'⟩
    · rw [hkeep id (not_exists.mp hv), or_iff_left hv, ← isSome_lastSeverity? hpresets,
        Layer.uniform, Option.isSome_map]
  · obtain ⟨hid, hgs⟩ := Layer.mem_settings.mp hs
    obtain ⟨severity, options, hden, hgid⟩ := hown s.rule hid v hv
    rw [hgs, Option.some.injEq, Prod.mk.injEq] at hgid
    obtain ⟨rfl, rfl⟩ := hgid
    exact hden
  · obtain ⟨-, hgs⟩ := Layer.mem_settings.mp hs
    rw [hkeep s.rule hnone, Layer.uniform, Option.map_eq_some_iff] at hgs
    obtain ⟨severity, hlast, hpair⟩ := hgs
    obtain ⟨rfl, hnil⟩ := Prod.mk.inj hpair
    exact ⟨hlast, hnil.symm⟩

/-- Whatever a configuration resolves to are the settings of a layer. -/
theorem exists_settings {resolved : List Setting} (h : c.resolve = .ok resolved) :
    ∃ g : Layer, resolved = g.settings := by
  by_cases hset : c.isUnset = true
  · rw [resolve_unset hset, Except.ok.injEq] at h
    exact ⟨Layer.uniform (some .warn), h.symm⟩
  · have hparts := h
    rw [resolve] at hparts
    cases hpresets : applyPresets c.presets c.base with
    | error error => simp [hpresets] at hparts
    | ok settings =>
      simp only [hpresets] at hparts
      -- both parts succeed, so nothing is at fault
      obtain ⟨g, hg, -⟩ := resolve_settings hset (isName_of_applyPresets hpresets)
        (not_refused_of_applyEntries hparts)
      rw [h, Except.ok.injEq] at hg
      exact ⟨g, hg⟩

/-- The entries before the refused one of the least key are not refused. -/
theorem exists_split_of_least {e : String × Json} (he : e ∈ c.rules.entries)
    (hleast : ∀ e' ∈ c.rules.entries, Refused e' → e.1 ≤ e'.1) :
    ∃ before after, c.rules.entries = before ++ e :: after ∧ ∀ b ∈ before, ¬ Refused b := by
  obtain ⟨before, after, hsplit⟩ := List.append_of_mem he
  refine ⟨before, after, hsplit, fun b hb hbad => ?_⟩
  have hasc : Json.Ascending (before ++ e :: after) := hsplit ▸ c.rules.ascending
  have hlt : b.1 < e.1 := (List.pairwise_append.mp hasc).2.2 b hb e List.mem_cons_self
  have hmem : b ∈ c.rules.entries := hsplit ▸ List.mem_append_left _ hb
  exact hleast b hmem hbad hlt

/-- **What a configuration resolves to.**  Without presets and entries every rule is at `warn`.  Else
the first text that names no preset is an error, whatever the entries are; else the refused entry of
the least key is; else the rules are set as the layers say. -/
theorem resolve_layers (c : Config) :
    (c.presets = [] → c.rules.entries = [] →
      c.resolve = .ok (Rule.all.map fun r => ⟨r.id, .warn, none⟩)) ∧
    (∀ before name after, c.presets = before ++ name :: after →
      (∀ n ∈ before, Preset.IsName n) → ¬ Preset.IsName name →
      c.resolve = .error (.unknownPreset name)) ∧
    ((∀ n ∈ c.presets, Preset.IsName n) → ∀ e ∈ c.rules.entries, Refused e →
      (∀ e' ∈ c.rules.entries, Refused e' → e.1 ≤ e'.1) →
      (e.1 ∉ Rule.ids → c.resolve = .error (.unknownRule e.1)) ∧
      (e.1 ∈ Rule.ids → ∃ fault, RuleEntry.settle? e.2 = .error fault ∧
        c.resolve = .error (.invalidEntry e.1 fault))) ∧
    ((∀ n ∈ c.presets, Preset.IsName n) → (∀ e ∈ c.rules.entries, ¬ Refused e) →
      (c.presets ≠ [] ∨ c.rules.entries ≠ []) →
      ∃ resolved, c.resolve = .ok resolved ∧ Layered c resolved) := by
  refine ⟨fun hpresets hentries => resolve_unset (isUnset_iff.mpr ⟨hpresets, hentries⟩), ?_, ?_, ?_⟩
  · intro before name after hsplit hbefore hname
    rw [resolve, hsplit, applyPresets_error hbefore hname]
  · intro hpresets e he hbad hleast
    obtain ⟨before, after, hsplit, hbefore⟩ := exists_split_of_least he hleast
    -- the presets and the entries of lesser keys are taken in, so this one decides
    have hfail : ∀ error, settleEntry e.1 e.2 = .error error → c.resolve = .error error := by
      intro error herror
      have hne : ¬ c.isUnset = true := fun h => by
        rw [(isUnset_iff.mp h).2] at he
        exact List.not_mem_nil he
      rw [resolve, base_of_not_isUnset hne, applyPresets_uniform hpresets, hsplit]
      exact applyEntries_error hbefore herror _
    obtain ⟨hunknown, hinvalid⟩ := settleEntry_of_refused hbad
    refine ⟨fun hid => hfail _ (hunknown hid), fun hid => ?_⟩
    obtain ⟨fault, hfault, herror⟩ := hinvalid hid
    exact ⟨fault, hfault, hfail _ herror⟩
  · intro hpresets hentries hsome
    have hset : ¬ c.isUnset = true := by
      rw [isUnset_iff, not_and_or]
      exact hsome
    obtain ⟨g, hg, hlayered⟩ := resolve_settings hset hpresets hentries
    exact ⟨g.settings, hg, hlayered⟩

end ChainLint.Config
