import Mathlib.Data.List.Sort
import ChainLint.Proofs.Config.Resolution
import ChainLint.RuleSet

/-!
# Keys of other plugins

Entries under keys of other plugins say nothing of the rules.  They do count when it is decided
whether a configuration says anything at all: one that has such entries alone does not fall back on
the recommended preset, and so no rule runs.

* `Config.SameOwn c c'`: two configurations differ in entries of other plugins only.
* `Config.applyEntries_own`: the entries of this plugin are all that is taken in.
* `Config.SameOwn.answers_iff`: such configurations have the same answers if and only if both are
  unset or neither is.
-/

namespace ChainLint

theorem Json.Ascending.eq_of_mem_iff {α : Type} {entries entries' : List (String × α)}
    (h : Ascending entries) (h' : Ascending entries') (hmem : ∀ e, e ∈ entries ↔ e ∈ entries') :
    entries = entries' := by
  have hirrefl : Std.Irrefl fun a b : String × α => a.1 < b.1 := ⟨fun a => String.lt_irrefl a.1⟩
  have hantisymm : Std.Antisymm fun a b : String × α => a.1 < b.1 :=
    ⟨fun a b hab hba => absurd (String.lt_trans hab hba) (String.lt_irrefl a.1)⟩
  exact List.Pairwise.eq_of_mem_iff h h' hmem

namespace Config

/-- The entries of this plugin's rules. -/
def ownEntries (c : Config) : List (String × Json) := c.rules.entries.filter fun e => isOwnKey e.1

/-- Two configurations differ in entries of other plugins only. -/
structure SameOwn (c c' : Config) : Prop where
  presets : c.presets = c'.presets
  settings : c.settings = c'.settings
  entries : ∀ key v, pluginPrefix.toList <+: key.toList →
    ((key, v) ∈ c.rules.entries ↔ (key, v) ∈ c'.rules.entries)

variable {c c' : Config}

theorem SameOwn.symm (h : SameOwn c c') : SameOwn c' c :=
  ⟨h.presets.symm, h.settings.symm, fun key v hkey => (h.entries key v hkey).symm⟩

theorem SameOwn.ownEntries_eq (h : SameOwn c c') : c.ownEntries = c'.ownEntries := by
  refine Json.Ascending.eq_of_mem_iff (c.rules.ascending.filter _) (c'.rules.ascending.filter _)
    fun e => ?_
  rw [ownEntries, ownEntries, List.mem_filter, List.mem_filter]
  exact and_congr_left fun hown => h.entries e.1 e.2 (isOwnKey_iff.mp hown)

/-- The entries of this plugin are all that is taken in. -/
theorem applyEntries_own (entries : List (String × Json)) (settings : List Setting) :
    applyEntries (entries.filter fun e => isOwnKey e.1) settings =
      applyEntries entries settings := by
  induction entries generalizing settings with
  | nil => rfl
  | cons e rest ih =>
    obtain ⟨key, v⟩ := e
    cases hown : isOwnKey key with
    | false =>
      rw [List.filter_cons_of_neg (by simp [hown]), ih, applyEntries, settleEntry_foreign hown]
    | true =>
      rw [List.filter_cons_of_pos (by simp [hown]), applyEntries, applyEntries]
      simp only [ih]

theorem resolve_eq_own (c : Config) :
    c.resolve = (applyPresets c.presets c.base).bind (applyEntries c.ownEntries) := by
  rw [resolve, ownEntries]
  cases applyPresets c.presets c.base with
  | error e => rfl
  | ok settings => exact (applyEntries_own c.rules.entries settings).symm

/-- Without presets and entries every rule runs. -/
theorem ofConfig_unset (h : c.isUnset = true) :
    ∃ rules, RuleSet.ofConfig c = .ok rules ∧ rules.enabled = Rule.all.map Rule.name := by
  rw [RuleSet.ofConfig, resolve_unset h]
  exact ⟨_, rfl, rfl⟩

namespace SameOwn

theorem resolve_eq (h : SameOwn c c') (hunset : c.isUnset = c'.isUnset) :
    c.resolve = c'.resolve := by
  rw [resolve_eq_own, resolve_eq_own, base, base, h.presets, h.ownEntries_eq, hunset]

theorem ofConfig_eq (h : SameOwn c c') (hunset : c.isUnset = c'.isUnset) :
    RuleSet.ofConfig c = RuleSet.ofConfig c' := by
  rw [RuleSet.ofConfig, RuleSet.ofConfig, h.resolve_eq hunset, h.settings]

/-- Entries of other plugins alone keep the recommended preset from being used. -/
theorem resolve_nil (h : SameOwn c c') (hunset : c.isUnset = true) (hset : c'.isUnset = false) :
    c'.resolve = .ok [] := by
  obtain ⟨hpresets, hentries⟩ := isUnset_iff.mp hunset
  rw [resolve_eq_own, base_of_not_isUnset (Bool.eq_false_iff.mp hset), ← h.presets, hpresets,
    ← h.ownEntries_eq, ownEntries, hentries]
  rfl

theorem ofConfig_empty (h : SameOwn c c') (hunset : c.isUnset = true) (hset : c'.isUnset = false) :
    RuleSet.ofConfig c' = .ok .empty := by
  rw [RuleSet.ofConfig, h.resolve_nil hunset hset]
  rfl

theorem ne_of_isUnset (h : SameOwn c c') (hunset : c.isUnset = true) (hset : c'.isUnset = false) :
    c.resolve ≠ c'.resolve ∧ RuleSet.ofConfig c ≠ RuleSet.ofConfig c' := by
  obtain ⟨rules, hrules, henabled⟩ := ofConfig_unset hunset
  refine ⟨?_, ?_⟩
  · rw [resolve_unset hunset, h.resolve_nil hunset hset]
    exact fun heq => absurd (Except.ok.inj heq) (List.cons_ne_nil _ _)
  · rw [hrules, h.ofConfig_empty hunset hset]
    intro heq
    rw [Except.ok.inj heq] at henabled
    exact absurd henabled (by decide)

/-- If only one of the configurations says something, their answers differ. -/
theorem ne_of_isUnset_ne (h : SameOwn c c') (hne : c.isUnset ≠ c'.isUnset) :
    c.resolve ≠ c'.resolve ∧ RuleSet.ofConfig c ≠ RuleSet.ofConfig c' := by
  cases hc : c.isUnset with
  | true => exact h.ne_of_isUnset hc (Bool.eq_false_iff.mpr fun hc' => hne (hc.trans hc'.symm))
  | false =>
    have hc' : c'.isUnset = true := Bool.of_not_eq_false fun hc' => hne (hc.trans hc'.symm)
    obtain ⟨hresolve, hrules⟩ := h.symm.ne_of_isUnset hc' hc
    exact ⟨hresolve.symm, hrules.symm⟩

/-- **Keys of other plugins.**  Configurations that differ in entries of other plugins only resolve
to the same settings or the same error, and give the same rule set, if and only if both say something
or neither does.  If only one of them says something, it resolves to nothing and no rule runs. -/
theorem answers_iff (h : SameOwn c c') :
    (c.resolve = c'.resolve ↔ c.isUnset = c'.isUnset) ∧
    (RuleSet.ofConfig c = RuleSet.ofConfig c' ↔ c.isUnset = c'.isUnset) ∧
    (c.isUnset = true → c'.isUnset = false →
      c'.resolve = .ok [] ∧ RuleSet.ofConfig c' = .ok .empty) := by
  refine ⟨⟨fun heq => ?_, h.resolve_eq⟩, ⟨fun heq => ?_, h.ofConfig_eq⟩, fun hunset hset => ?_⟩
  · by_contra hne
    exact (h.ne_of_isUnset_ne hne).1 heq
  · by_contra hne
    exact (h.ne_of_isUnset_ne hne).2 heq
  · exact ⟨h.resolve_nil hunset hset, h.ofConfig_empty hunset hset⟩

/-- An entry of another plugin beside one of this plugin changes nothing. -/
theorem answers_iff_beside :
    let own : String × Json := (Rule.chain.id, .string Severity.error.text)
    let foreign : String × Json := ("no-console", .string Severity.error.text)
    let c : Config := { empty with rules := .ofList [own] }
    let c' : Config := { empty with rules := .ofList [own, foreign] }
    SameOwn c c' ∧ c.resolve = c'.resolve ∧ RuleSet.ofConfig c = RuleSet.ofConfig c' := by
  intro own foreign c c'
  have hentries : c.rules.entries = [own] := rfl
  have hentries' : c'.rules.entries = [foreign, own] := by
    have hlt : foreign.1 < own.1 := by decide
    show Json.insertMember foreign.1 foreign.2 [own] = [foreign, own]
    rw [Json.insertMember, if_pos hlt]
  have hsame : SameOwn c c' := by
    refine ⟨rfl, rfl, fun key v hkey => ?_⟩
    have hforeign : (key, v) ≠ foreign := by
      intro heq
      obtain ⟨rfl, -⟩ := Prod.mk.inj heq
      exact absurd (isOwnKey_iff.mpr hkey) (by decide)
    rw [hentries, hentries', List.mem_cons (b := foreign), or_iff_right hforeign]
  have hset : c.isUnset = c'.isUnset := by
    rw [isUnset, isUnset, Table.isEmpty, Table.isEmpty, hentries, hentries']
    rfl
  exact ⟨hsame, hsame.answers_iff.1.mpr hset, hsame.answers_iff.2.1.mpr hset⟩

/-- A single entry of another plugin switches every rule off. -/
theorem answers_differ_alone :
    let c : Config := { empty with rules := .ofList [("no-console", .string Severity.error.text)] }
    SameOwn empty c ∧ empty.resolve ≠ c.resolve ∧ RuleSet.ofConfig empty ≠ RuleSet.ofConfig c := by
  intro c
  have hsame : SameOwn empty c := by
    refine ⟨rfl, rfl, fun key v hkey => ?_⟩
    have hentries : c.rules.entries = [("no-console", .string Severity.error.text)] := rfl
    have hforeign : (key, v) ∉ c.rules.entries := by
      rw [hentries, List.mem_singleton]
      intro heq
      obtain ⟨rfl, -⟩ := Prod.mk.inj heq
      exact absurd (isOwnKey_iff.mpr hkey) (by decide)
    exact iff_of_false List.not_mem_nil hforeign
  exact ⟨hsame, hsame.ne_of_isUnset rfl rfl⟩

end SameOwn

end Config

end ChainLint
