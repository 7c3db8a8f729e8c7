import ChainLint.Proofs.Config.OptionsDocument
import ChainLint.Proofs.Config.Resolution
import ChainLint.Proofs.Lint.Independence
import ChainLint.Proofs.Number.Value

/-!
# The rule set of a configuration

The settings that a configuration resolves to are taken into a rule set one after another.  No rule is
set twice, so what one setting does no later one undoes.

* `Setting.Faulty s`: a setting switches the rule on chains on, with options that are not accepted.
* `RuleSet.Taken shared done rules`: a rule set after some settings.
* `Taken.step`, `Taken.run`: one more setting, and all that are left.
* `ChainOptions.Allows options limit`: how many brand checks the options of an entry allow.
* `RuleSet.Enacts shared resolved rules`: a rule set does what settings say, in whatever it lints.
* `RuleSet.ofConfig_enacts`: the rule set of a configuration, or why there is none.
-/

namespace ChainLint

theorem qualified_inj {name name' : String} : qualified name = qualified name' ↔ name = name' := by
  rw [qualified, qualified, ← String.toList_inj, String.toList_append, String.toList_append,
    List.append_cancel_left_eq, String.toList_inj]

theorem Rule.mem_ids {id : String} : id ∈ Rule.ids ↔ id = comment.id ∨ id = chain.id := by
  simp [ids, all]

theorem Severity.level?_eq_none_iff {s : Severity} : s.level? = none ↔ s = .off := by
  cases s <;> decide

theorem Severity.exists_level?_iff {s : Severity} : (∃ level, s.level? = some level) ↔ s ≠ .off := by
  rw [Ne, ← level?_eq_none_iff, ← Option.isSome_iff_exists, Option.isSome_iff_ne_none]

section Concat

variable {α : Type} {l : List α} {a : α} {p : α → Prop}

theorem exists_mem_concat : (∃ x ∈ l ++ [a], p x) ↔ (∃ x ∈ l, p x) ∨ p a := by
  simp only [List.mem_append, List.mem_singleton, or_and_right, exists_or, exists_eq_left]

theorem exists_mem_concat_of_not (h : ¬ p a) : (∃ x ∈ l ++ [a], p x) ↔ ∃ x ∈ l, p x :=
  exists_mem_concat.trans (or_iff_left h)

end Concat

/-! ### Options of a setting -/

/-- A setting that switches the rule on chains on, with options that are not accepted. -/
def Setting.Faulty (s : Setting) : Prop :=
  s.rule = Rule.chain.id ∧ s.severity ≠ .off ∧ ∃ v, s.options = some v ∧ ¬ ChainOptions.Accepted v

namespace ChainOptions

/-- How many brand checks the options of an entry allow. -/
structure Allows (options : Option Json) (limit : ℕ) : Prop where
  /-- Three when no number is stated. -/
  unstated : options.bind number? = none → limit = 3
  /-- A whole number of up to 53 binary digits as it is, and none when it is negative. -/
  whole : ∀ i, options.bind number? = some (.integer i) → i.natAbs ≤ 2 ^ 53 → limit = i.toNat
  /-- The value of the float that a number is read as, cut off at zero, at its whole part and at the
  largest word. -/
  float : ∀ n x, options.bind number? = some n → n.toFloat? = some x →
    limit = min ⌊max x.toRat 0⌋₊ (2 ^ 64 - 1)
  /-- Whatever number a document states, there is such a float. -/
  word : ∀ n, options.bind number? = some n → n.IsWord → ∃ x, n.toFloat? = some x

/-- What the options of an entry say. -/
def ofOption (options : Option Json) : ChainOptions :=
  ⟨((options.bind number?).map limitOf).getD empty.limit, (options.bind methods?).getD []⟩

theorem allows_ofOption (options : Option Json) : Allows options (ofOption options).limit where
  unstated h := by
    rw [ofOption, h]
    rfl
  whole i h hi := by
    rw [ofOption, h]
    exact limitOf_integer hi
  float n x h hx := by
    rw [ofOption, h]
    exact limitOf_eq hx
  word _ _ hn := hn.exists_toFloat?

end ChainOptions

/-- Options that are accepted, or left out, make the rule that they speak of. -/
theorem ChainRule.ofOptions?_eq {options : Option Json} (shared : Settings)
    (h : ∀ v, options = some v → ChainOptions.Accepted v) :
    ofOptions? options shared = .ok (ofOptions (.ofOption options) shared) := by
  cases options with
  | none => rfl
  | some v =>
    rw [ofOptions?, ChainOptions.ofJson_of_accepted (h v rfl)]
    rfl

namespace RuleSet

variable {shared : Settings} {rules rules' : RuleSet} {done rest : List Setting} {s : Setting}

/-! ### Faults -/

theorem apply_of_faulty (h : s.Faulty) (shared : Settings) (rules : RuleSet) :
    ∃ fault, apply shared rules s = .error (.invalidOptions Rule.chain.id fault) := by
  obtain ⟨hrule, hon, v, hv, hbad⟩ := h
  obtain ⟨level, hlevel⟩ := Severity.exists_level?_iff.mpr hon
  obtain ⟨fault, hfault⟩ := ChainOptions.ofJson_of_not_accepted hbad
  have hne : s.rule ≠ Rule.comment.id := hrule ▸ by decide
  have hoptions : ChainRule.ofOptions? s.options shared = .error fault := by
    rw [hv, ChainRule.ofOptions?, hfault]
    rfl
  refine ⟨fault, ?_⟩
  simp only [apply, hlevel, if_neg hne, if_pos hrule, hoptions]
  rw [hrule]

/-- The options of a rule that is on are accepted unless they are faulty. -/
theorem ofOptions?_of_not_faulty (h : ¬ s.Faulty) (hrule : s.rule = Rule.chain.id)
    (hon : s.severity ≠ .off) (shared : Settings) :
    ChainRule.ofOptions? s.options shared = .ok (.ofOptions (.ofOption s.options) shared) := by
  refine ChainRule.ofOptions?_eq shared fun v hv => ?_
  by_contra hbad
  exact h ⟨hrule, hon, v, hv, hbad⟩

/-- What a setting does that is not faulty: nothing when it is off, else its rule runs at its level. -/
theorem apply_cases (h : ¬ s.Faulty) (hid : s.rule ∈ Rule.ids) (shared : Settings) (rules : RuleSet) :
    (s.severity.level? = none ∧ apply shared rules s = .ok rules) ∨
    ∃ level, s.severity.level? = some level ∧
      ((s.rule = Rule.comment.id ∧
          apply shared rules s = .ok (rules.withComments.withLevel Rule.commentName level)) ∨
        (s.rule = Rule.chain.id ∧ apply shared rules s =
          .ok ((rules.withChains (.ofOptions (.ofOption s.options) shared)).withLevel
            Rule.chainName level))) := by
  cases hlevel : s.severity.level? with
  | none => exact Or.inl ⟨rfl, by simp only [apply, hlevel]⟩
  | some level =>
    refine Or.inr ⟨level, rfl, ?_⟩
    by_cases hcomment : s.rule = Rule.comment.id
    · exact Or.inl ⟨hcomment, by simp only [apply, hlevel, if_pos hcomment]⟩
    · have hchain : s.rule = Rule.chain.id := (Rule.mem_ids.mp hid).resolve_left hcomment
      have hon : s.severity ≠ .off := Severity.exists_level?_iff.mp ⟨level, hlevel⟩
      refine Or.inr ⟨hchain, ?_⟩
      simp only [apply, hlevel, if_neg hcomment, if_pos hchain,
        ofOptions?_of_not_faulty h hchain hon]

/-! ### Taking settings in -/

/-- A rule set after some settings: the rules that they switch on run, at their levels. -/
structure Taken (shared : Settings) (done : List Setting) (rules : RuleSet) : Prop where
  comments : rules.comments = true ↔ ∃ s ∈ done, s.rule = Rule.comment.id ∧ s.severity ≠ .off
  chains : ∀ rule, rules.chains = some rule ↔ ∃ s ∈ done, s.rule = Rule.chain.id ∧
    s.severity ≠ .off ∧ rule = .ofOptions (.ofOption s.options) shared
  level : ∀ name level, rules.level? name = some level ↔
    ∃ s ∈ done, s.rule = qualified name ∧ s.severity.level? = some level

theorem taken_empty (shared : Settings) : Taken shared [] empty where
  comments := by simp [empty]
  chains := by simp [empty]
  level := by simp [empty, level?]

/-- A setting that is off is passed over. -/
theorem Taken.pass (h : Taken shared done rules) (hoff : s.severity.level? = none) :
    Taken shared (done ++ [s]) rules where
  comments := by
    rw [exists_mem_concat_of_not fun hs => hs.2 (Severity.level?_eq_none_iff.mp hoff)]
    exact h.comments
  chains rule := by
    rw [exists_mem_concat_of_not fun hs => hs.2.1 (Severity.level?_eq_none_iff.mp hoff)]
    exact h.chains rule
  level name level := by
    rw [exists_mem_concat_of_not fun hs => by simp [hoff] at hs]
    exact h.level name level

/-- The level of a rule that was not set before is the one that is set now. -/
theorem Taken.level_concat (h : Taken shared done rules) (hnew : ∀ t ∈ done, t.rule ≠ s.rule)
    {name : String} {level : Level} (hrule : s.rule = qualified name)
    (hlevel : s.severity.level? = some level) (name' : String) (level' : Level) :
    (rules.withLevel name level).level? name' = some level' ↔
      ∃ t ∈ done ++ [s], t.rule = qualified name' ∧ t.severity.level? = some level' := by
  rw [level?_withLevel, exists_mem_concat]
  split_ifs with hname
  · -- the rule was not set before, so no earlier level of it is left
    have hnone : ¬ ∃ t ∈ done, t.rule = qualified name' ∧ t.severity.level? = some level' := by
      rintro ⟨t, ht, htrule, -⟩
      exact hnew t ht (htrule.trans (hname ▸ hrule.symm))
    rw [or_iff_right hnone, hrule, hname, hlevel, and_iff_right rfl]
  · have hother : ¬ (s.rule = qualified name' ∧ s.severity.level? = some level') := fun hs =>
      hname (qualified_inj.mp (hrule.symm.trans hs.1))
    rw [or_iff_left hother]
    exact h.level name' level'

/-- **One more setting.**  A setting of a rule that was not set before is taken in unless it is
faulty. -/
theorem Taken.step (h : Taken shared done rules) (hnew : s.rule ∉ done.map Setting.rule)
    (hid : s.rule ∈ Rule.ids) (hok : ¬ s.Faulty) :
    ∃ rules', apply shared rules s = .ok rules' ∧ Taken shared (done ++ [s]) rules' := by
  have hnew' : ∀ t ∈ done, t.rule ≠ s.rule := fun t ht heq =>
    hnew (List.mem_map.mpr ⟨t, ht, heq⟩)
  have hdistinct : Rule.comment.id ≠ Rule.chain.id := by decide
  rcases apply_cases hok hid shared rules with ⟨hoff, happly⟩ | ⟨level, hlevel, hcase⟩
  · exact ⟨rules, happly, h.pass hoff⟩
  · have hon : s.severity ≠ .off := Severity.exists_level?_iff.mp ⟨level, hlevel⟩
    rcases hcase with ⟨hrule, happly⟩ | ⟨hrule, happly⟩
    · refine ⟨_, happly, ?_, fun rule => ?_, h.level_concat hnew' hrule hlevel⟩
      · exact iff_of_true rfl (exists_mem_concat.mpr (Or.inr ⟨hrule, hon⟩))
      · rw [exists_mem_concat_of_not fun hs => hdistinct (hrule.symm.trans hs.1)]
        exact h.chains rule
    · refine ⟨_, happly, ?_, fun rule => ?_, h.level_concat hnew' hrule hlevel⟩
      · rw [exists_mem_concat_of_not fun hs => hdistinct (hs.1.symm.trans hrule)]
        exact h.comments
      · have hnone : ¬ ∃ t ∈ done, t.rule = Rule.chain.id ∧ t.severity ≠ .off ∧
            rule = .ofOptions (.ofOption t.options) shared := by
          rintro ⟨t, ht, htrule, -⟩
          exact hnew' t ht (htrule.trans hrule.symm)
        rw [exists_mem_concat, or_iff_right hnone, and_iff_right hrule, and_iff_right hon]
        exact Option.some_inj.trans eq_comm

/-- **All that are left.**  Settings of different rules are taken in, in their order, if none is
faulty. -/
theorem Taken.run (h : Taken shared done rules)
    (hnodup : ((done ++ rest).map Setting.rule).Nodup) (hids : ∀ s ∈ rest, s.rule ∈ Rule.ids)
    (hok : ∀ s ∈ rest, ¬ s.Faulty) :
    ∃ rules', applyAll shared rest rules = .ok rules' ∧ Taken shared (done ++ rest) rules' := by
  induction rest generalizing done rules with
  | nil => exact ⟨rules, rfl, (List.append_nil done).symm ▸ h⟩
  | cons s rest ih =>
    obtain ⟨hid, hids'⟩ := List.forall_mem_cons.mp hids
    obtain ⟨hs, hok'⟩ := List.forall_mem_cons.mp hok
    have hnew : s.rule ∉ done.map Setting.rule := by
      intro hmem
      rw [List.map_append, List.map_cons] at hnodup
      exact (List.nodup_append.mp hnodup).2.2 s.rule hmem s.rule List.mem_cons_self rfl
    obtain ⟨rules', happly, hnext⟩ := h.step hnew hid hs
    rw [List.append_cons] at hnodup ⊢
    obtain ⟨rules'', hrest, hlast⟩ := ih hnext hnodup hids' hok'
    refine ⟨rules'', ?_, hlast⟩
    rw [applyAll, happly]
    exact hrest

/-- Settings of which one is faulty are not taken in. -/
theorem applyAll_of_faulty (h : ∃ s ∈ rest, s.Faulty) (hids : ∀ s ∈ rest, s.rule ∈ Rule.ids)
    (shared : Settings) (rules : RuleSet) :
    ∃ fault, applyAll shared rest rules = .error (.invalidOptions Rule.chain.id fault) := by
  induction rest generalizing rules with
  | nil => simp at h
  | cons s rest ih =>
    obtain ⟨hid, hids'⟩ := List.forall_mem_cons.mp hids
    rw [applyAll]
    by_cases hs : s.Faulty
    · obtain ⟨fault, hfault⟩ := apply_of_faulty hs shared rules
      exact ⟨fault, by rw [hfault]⟩
    · have hrest : ∃ s ∈ rest, s.Faulty := (List.exists_mem_cons_iff _ _ _).mp h |>.resolve_left hs
      -- whatever this setting does, the faulty one is still to come
      rcases apply_cases hs hid shared rules with ⟨-, happly⟩ | ⟨_, -, ⟨-, happly⟩ | ⟨-, happly⟩⟩ <;>
      · rw [happly]
        exact ih hrest hids' _

/-! ### The rule set of a configuration -/

/-- A rule set does what settings say, in whatever it lints. -/
structure Enacts (shared : Settings) (resolved : List Setting) (rules : RuleSet) : Prop where
  /-- The rules that run are those that are not off. -/
  enabled : ∀ name, name ∈ rules.enabled ↔ ∃ s ∈ resolved, s.rule = qualified name ∧ s.severity ≠ .off
  /-- What is found is listed at the level of the rule that finds it. -/
  level : ∀ source p, ∀ d ∈ lint rules source p, ∃ s ∈ resolved, s.rule = qualified d.rule ∧
    s.severity.level? = some d.level
  /-- The rule on chains allows what its options say, and knows the methods of its options and those
  that all rules share. -/
  chains : ∀ s ∈ resolved, s.rule = Rule.chain.id → s.severity ≠ .off →
    ∃ rule, rules.chains = some rule ∧ ChainOptions.Allows s.options rule.limit ∧
      ∀ name, rule.isBrandCheck name = true ↔
        (∃ names, s.options.bind ChainOptions.methods? = some names ∧ name ∈ names) ∨
          name ∈ shared.brandCheckMethods

theorem mem_enabled {name : String} : name ∈ rules.enabled ↔
    rules.comments = true ∧ name = Rule.commentName ∨
      rules.chains.isSome = true ∧ name = Rule.chainName := by
  rw [enabled, List.mem_append]
  split_ifs <;> simp [*]

theorem Taken.mem_enabled (h : Taken shared done rules) (hids : ∀ s ∈ done, s.rule ∈ Rule.ids)
    (name : String) :
    name ∈ rules.enabled ↔ ∃ s ∈ done, s.rule = qualified name ∧ s.severity ≠ .off := by
  rw [RuleSet.mem_enabled]
  constructor
  · rintro (⟨hrun, rfl⟩ | ⟨hrun, rfl⟩)
    · exact h.comments.mp hrun
    · obtain ⟨rule, hrule⟩ := Option.isSome_iff_exists.mp hrun
      obtain ⟨s, hs, hchain, hon, -⟩ := (h.chains rule).mp hrule
      exact ⟨s, hs, hchain, hon⟩
  · rintro ⟨s, hs, hname, hon⟩
    rcases Rule.mem_ids.mp (hids s hs) with hrule | hrule
    · have heq : name = Rule.commentName := qualified_inj.mp (hname.symm.trans hrule)
      exact Or.inl ⟨h.comments.mpr ⟨s, hs, hrule, hon⟩, heq⟩
    · have heq : name = Rule.chainName := qualified_inj.mp (hname.symm.trans hrule)
      have hchains := (h.chains _).mpr ⟨s, hs, hrule, hon, rfl⟩
      exact Or.inr ⟨Option.isSome_iff_exists.mpr ⟨_, hchains⟩, heq⟩

/-- A rule set that has taken settings in does what they say. -/
theorem Taken.enacts (h : Taken shared done rules) (hids : ∀ s ∈ done, s.rule ∈ Rule.ids) :
    Enacts shared done rules where
  enabled := h.mem_enabled hids
  level source p d hd := by
    obtain ⟨hrun, hlevel⟩ := of_mem_lint hd
    obtain ⟨s, hs, hname, hon⟩ := (h.mem_enabled hids d.rule).mp hrun
    obtain ⟨level, hs'⟩ := Severity.exists_level?_iff.mpr hon
    refine ⟨s, hs, hname, ?_⟩
    rw [hlevel, (h.level d.rule level).mpr ⟨s, hs, hname, hs'⟩]
    exact hs'
  chains s hs hrule hon := by
    refine ⟨_, (h.chains _).mpr ⟨s, hs, hrule, hon, rfl⟩, ChainOptions.allows_ofOption s.options,
      fun name => ?_⟩
    rw [ChainRule.isBrandCheck, List.contains_iff_mem, ChainRule.ofOptions, List.mem_append,
      ChainOptions.ofOption]
    refine or_congr_left ?_
    cases s.options.bind ChainOptions.methods? <;> simp

/-- **From a configuration to a rule set.**  What does not resolve gives no rule set.  Else the options
of the rule on chains are a fault when they are not accepted and the rule is on, and only then; and
otherwise the rule set does what the settings say. -/
theorem ofConfig_enacts (c : Config) :
    (∀ e, c.resolve = .error e → ofConfig c = .error e) ∧
    ∀ resolved, c.resolve = .ok resolved →
      ((∃ s ∈ resolved, s.Faulty) →
        ∃ fault, ofConfig c = .error (.invalidOptions Rule.chain.id fault)) ∧
      ((∀ s ∈ resolved, ¬ s.Faulty) →
        ∃ rules, ofConfig c = .ok rules ∧ Enacts c.settings resolved rules) := by
  refine ⟨fun e he => by rw [ofConfig, he], fun resolved hresolved => ?_⟩
  obtain ⟨g, rfl⟩ := Config.exists_settings hresolved
  have hids : ∀ s ∈ g.settings, s.rule ∈ Rule.ids := fun s hs => (Layer.mem_settings.mp hs).1
  have hnodup : (g.settings.map Setting.rule).Nodup :=
    Layer.sublist_settings.nodup (Rule.ids_ascending.imp fun hlt => String.ne_of_lt hlt)
  rw [ofConfig, hresolved]
  refine ⟨fun hbad => applyAll_of_faulty hbad hids c.settings empty, fun hok => ?_⟩
  obtain ⟨rules, hrules, htaken⟩ := (taken_empty c.settings).run hnodup hids hok
  exact ⟨rules, hrules, htaken.enacts hids⟩

/-- A configuration that says how many brand checks are allowed. -/
def limitedTo (n : Json.Number) : Config where
  presets := []
  rules := .ofList [(Rule.chain.id,
    .array [.string Severity.warn.text, .object [(ChainOptions.limitKey, .number n)]])]
  settings := .empty

/-- The limit is not always the number itself: beyond 53 binary digits whole numbers are read to the
nearest float, and beyond the largest word all numbers are the same. -/
theorem ofConfig_limit_inexact :
    (Json.read "9007199254740993" = .ok (.number (.integer 9007199254740993)) ∧
      ∃ rules rule, ofConfig (limitedTo (.integer 9007199254740993)) = .ok rules ∧
        rules.chains = some rule ∧ rule.limit = 9007199254740992 ∧
        ⌊max (9007199254740993 : ℚ) 0⌋₊ = 9007199254740993) ∧
    ∃ x : Binary64, Json.read "100000000000000000000" = .ok (.number (.real x)) ∧
      x.toRat = 100000000000000000000 ∧
      ∃ rules rule, ofConfig (limitedTo (.real x)) = .ok rules ∧
        rules.chains = some rule ∧ rule.limit = 18446744073709551615 ∧
        ⌊max x.toRat 0⌋₊ = 100000000000000000000 := by
  have hvalue : (⟨false, 6103515625000000, 14⟩ : Binary64).toRat = 100000000000000000000 := by
    rw [Binary64.toRat]
    norm_num
  refine ⟨⟨rfl, _, _, rfl, rfl, rfl, ?_⟩,
    ⟨false, 6103515625000000, 14⟩, rfl, hvalue, _, _, rfl, rfl, rfl, ?_⟩
  · rw [max_eq_left (by norm_num)]
    exact Nat.floor_ofNat _
  · rw [hvalue, max_eq_left (by norm_num)]
    exact Nat.floor_ofNat _

end RuleSet

end ChainLint
