import Mathlib.Data.List.Induction
import ChainLint.Proofs.Chain.Spine
import ChainLint.Proofs.Lint.Merge

/-!
# Rules that do not interfere

A rule set is built in steps: a rule is switched on, or a level is set for the findings of a name.
What a rule finds depends on its own options alone, and the level of its findings on the latest level
that was set for it.

* `RuleSet.build steps`: the rule set that steps build, in their order.
* `RuleSet.latestLevel? name steps`: the level that the latest of the steps sets for a name.
* `RuleSet.SameRule rules rules' name`: both rule sets run the rule of a name with equal options.
* `ChainRule.Alike.checkAll_congr`: of the methods of a rule only their set matters.
* `Diagnostic.ofRule_lint`: the listed findings of one rule are its own, sorted, at its level.
* `lint_independent`: the findings of a rule under two rule sets differ in their levels only.
-/

namespace ChainLint

/-! ### Rules of equal methods -/

namespace ChainRule

/-- Both rules allow as many brand checks, and know the same methods. -/
structure Alike (rule rule' : ChainRule) : Prop where
  limit : rule.limit = rule'.limit
  methods : ∀ name, name ∈ rule.methods ↔ name ∈ rule'.methods

namespace Alike

variable {rule rule' : ChainRule}

theorem check_congr (h : Alike rule rule') (l : Logical) (seen : Seen) :
    rule.check l seen = rule'.check l seen := by
  simp only [check, finding, isEmpty_congr h.methods, collect_congr h.methods, h.limit]

/-- Checks find and look at the same under rules of equal methods. -/
theorem checkAll_congr (h : Alike rule rule') (ls : List Logical) (seen : Seen) :
    rule.checkAll ls seen = rule'.checkAll ls seen := by
  induction ls generalizing seen with
  | nil => rfl
  | cons l ls ih => rw [checkAll_cons, checkAll_cons, h.check_congr, ih]

end Alike

end ChainRule

/-! ### Rule sets built in steps -/

namespace RuleSet

/-- One step in which a rule set is built. -/
inductive Step
  | comments
  | chains (rule : ChainRule)
  | setLevel (name : String) (level : Level)

/-- The rule set after one more step. -/
def Step.apply (rules : RuleSet) : Step → RuleSet
  | .comments => rules.withComments
  | .chains rule => rules.withChains rule
  | .setLevel name level => rules.withLevel name level

/-- The rule set that steps build, from the one under which no rule runs. -/
def build (steps : List Step) : RuleSet := steps.foldl Step.apply empty

/-- The level that a step sets for a name. -/
def Step.level? (name : String) : Step → Option Level
  | .setLevel name' level => if name' = name then some level else none
  | .comments | .chains _ => none

/-- The level that the latest of some steps sets for a name. -/
def latestLevel? (name : String) (steps : List Step) : Option Level :=
  steps.reverse.findSome? (Step.level? name)

theorem level?_withLevel (rules : RuleSet) (name name' : String) (level : Level) :
    (rules.withLevel name level).level? name' =
      if name = name' then some level else rules.level? name' := by
  rw [withLevel, level?, List.lookup_cons]
  by_cases h : name = name'
  · rw [if_pos h, h, beq_self_eq_true]
  · rw [if_neg h, beq_false_of_ne (Ne.symm h)]
    rfl

theorem level?_apply (rules : RuleSet) (name : String) (step : Step) :
    (step.apply rules).level? name = (step.level? name).or (rules.level? name) := by
  cases step with
  | comments => rfl
  | chains rule => rfl
  | setLevel name' level =>
    rw [Step.apply, level?_withLevel, Step.level?]
    split_ifs <;> rfl

/-- The level of a rule is the latest that was set for it. -/
theorem level?_build (steps : List Step) (name : String) :
    (build steps).level? name = latestLevel? name steps := by
  induction steps using List.reverseRecOn with
  | nil => rfl
  | append_singleton steps step ih =>
    have hbuild : build (steps ++ [step]) = step.apply (build steps) := by simp [build]
    rw [hbuild, level?_apply, ih, latestLevel?, latestLevel?, List.reverse_append]
    cases h : step.level? name <;> simp [h]

/-- Both rule sets run the rule of a name, with equal options. -/
inductive SameRule (rules rules' : RuleSet) : String → Prop
  | comments (h : rules.comments = true) (h' : rules'.comments = true) :
    SameRule rules rules' Rule.commentName
  | chains {rule rule' : ChainRule} (h : rules.chains = some rule) (h' : rules'.chains = some rule')
    (alike : rule.Alike rule') : SameRule rules rules' Rule.chainName

end RuleSet

/-! ### The findings of one rule -/

/-- Those of some findings that belong to the rule of a name. -/
def Diagnostic.ofRule (name : String) (found : List Diagnostic) : List Diagnostic :=
  found.filter (·.rule = name)

namespace RuleSet

/-- What the rules that run find on comments, before levels are set. -/
def commentFindings (rules : RuleSet) (source : List Char) (p : Program) : List Diagnostic :=
  if rules.comments then Comment.findings source p.comments else []

/-- What the rules that run find on chains, before levels are set. -/
def chainFindings (rules : RuleSet) (p : Program) : List Diagnostic :=
  (rules.chains.map fun rule => (ChainLint.chainFindings rule p).1).getD []

variable (rules : RuleSet) (source : List Char) (p : Program)

theorem rawFindings_eq :
    (rawFindings rules source p).1 = rules.commentFindings source p ++ rules.chainFindings p := by
  rw [rawFindings, commentFindings, chainFindings]
  cases rules.chains with
  | none => exact (List.append_nil _).symm
  | some rule => rfl

variable {rules source p} {d : Diagnostic}

/-- A finding on a comment carries the name of that rule, which runs, and is a warning at first. -/
theorem of_mem_commentFindings (h : d ∈ rules.commentFindings source p) :
    rules.comments = true ∧ d.rule = Rule.commentName ∧ d.level = .warning := by
  rw [commentFindings] at h
  split_ifs at h with hrun
  · obtain ⟨c, -, rfl⟩ := List.mem_map.mp h
    exact ⟨hrun, rfl, rfl⟩
  · exact absurd h List.not_mem_nil

/-- A finding on a chain carries the name of that rule, which runs, and is a warning at first. -/
theorem of_mem_chainFindings (h : d ∈ rules.chainFindings p) :
    rules.chains.isSome ∧ d.rule = Rule.chainName ∧ d.level = .warning := by
  rw [chainFindings] at h
  cases hrun : rules.chains with
  | none => simp [hrun] at h
  | some rule =>
    rw [hrun, Option.map_some, Option.getD_some, ChainLint.chainFindings,
      ChainRule.checkAll_fst] at h
    obtain ⟨c, -, rfl⟩ := List.mem_map.mp h
    exact ⟨rfl, rfl, rfl⟩

theorem level_of_mem_rawFindings (h : d ∈ (rawFindings rules source p).1) : d.level = .warning := by
  rw [rawFindings_eq] at h
  rcases List.mem_append.mp h with h | h
  · exact (of_mem_commentFindings h).2.2
  · exact (of_mem_chainFindings h).2.2

/-- Only rules that run find something. -/
theorem rule_mem_enabled (h : d ∈ (rawFindings rules source p).1) : d.rule ∈ rules.enabled := by
  rw [rawFindings_eq] at h
  rw [enabled, List.mem_append]
  rcases List.mem_append.mp h with h | h
  · obtain ⟨hrun, hrule, -⟩ := of_mem_commentFindings h
    simp [hrun, hrule]
  · obtain ⟨hrun, hrule, -⟩ := of_mem_chainFindings h
    simp [hrun, hrule]

/-- What a rule finds does not depend on the other rule. -/
theorem SameRule.ofRule_rawFindings {rules' : RuleSet} {name : String}
    (h : SameRule rules rules' name) (source : List Char) (p : Program) :
    Diagnostic.ofRule name (rawFindings rules source p).1 =
      Diagnostic.ofRule name (rawFindings rules' source p).1 := by
  -- each part holds findings of one name only, so the name picks one of the parts
  have hcomments : ∀ r : RuleSet, Diagnostic.ofRule Rule.chainName (r.commentFindings source p) = [] :=
    fun r => List.filter_eq_nil_iff.mpr fun d hd => by
      rw [(of_mem_commentFindings hd).2.1]
      decide
  have hchains : ∀ r : RuleSet, Diagnostic.ofRule Rule.commentName (r.chainFindings p) = [] :=
    fun r => List.filter_eq_nil_iff.mpr fun d hd => by
      rw [(of_mem_chainFindings hd).2.1]
      decide
  rw [rawFindings_eq, rawFindings_eq, Diagnostic.ofRule, Diagnostic.ofRule, List.filter_append,
    List.filter_append]
  cases h with
  | comments h h' =>
    have heq : rules.commentFindings source p = rules'.commentFindings source p := by
      rw [commentFindings, commentFindings, h, h']
    rw [heq]
    exact congrArg _ ((hchains rules).trans (hchains rules').symm)
  | chains h h' alike =>
    have heq : rules.chainFindings p = rules'.chainFindings p := by
      rw [chainFindings, chainFindings, h, h', Option.map_some, Option.map_some,
        ChainLint.chainFindings, ChainLint.chainFindings, alike.checkAll_congr]
    rw [heq]
    exact congrArg (· ++ _) ((hcomments rules).trans (hcomments rules').symm)

end RuleSet

section Listed

variable {rules : RuleSet} {source : List Char} {p : Program} {d : Diagnostic}

/-- A listed finding is one of a rule that runs, at the level of that rule. -/
theorem of_mem_lint (h : d ∈ lint rules source p) :
    d.rule ∈ rules.enabled ∧ d.level = (rules.level? d.rule).getD .warning := by
  rw [lint, List.mem_mergeSort] at h
  obtain ⟨found, hfound, rfl⟩ := List.mem_map.mp h
  have hrule : found.rule ∈ rules.enabled := RuleSet.rule_mem_enabled hfound
  rw [RuleSet.relevel_eq, RuleSet.level_of_mem_rawFindings hfound]
  exact ⟨hrule, rfl⟩

/-- The listed findings of a rule are those it finds, sorted, at its level. -/
theorem Diagnostic.ofRule_lint (rules : RuleSet) (source : List Char) (p : Program) (name : String) :
    ofRule name (lint rules source p) =
      ((ofRule name (rawFindings rules source p).1).mergeSort precedes).map
        (·.withLevel ((rules.level? name).getD .warning)) := by
  have hlevel : ∀ d ∈ ofRule name (rawFindings rules source p).1,
      rules.relevel d = d.withLevel ((rules.level? name).getD .warning) := by
    intro d hd
    obtain ⟨hfound, hrule⟩ := List.mem_filter.mp hd
    have hname : d.rule = name := by simpa using hrule
    have heq : rules.relevel d = d.withLevel ((rules.level? d.rule).getD d.level) :=
      rules.relevel_eq d
    rw [heq, RuleSet.level_of_mem_rawFindings hfound, hname]
  -- levels do not change whose a finding is
  have hkeep : ofRule name ((rawFindings rules source p).1.map rules.relevel) =
      (ofRule name (rawFindings rules source p).1).map rules.relevel := by
    rw [ofRule, ofRule, List.filter_map]
    refine congrArg _ (List.filter_congr fun d _ => ?_)
    rw [Function.comp_apply, RuleSet.relevel_eq]
  have hsort := List.map_mergeSort (r := precedes) (s := precedes)
    (f := (·.withLevel ((rules.level? name).getD .warning)))
    (l := ofRule name (rawFindings rules source p).1) fun a _ b _ => rfl
  rw [lint, ofRule, filter_mergeSort, ← ofRule, hkeep, List.map_congr_left hlevel, hsort]

end Listed

/-- **Rules and levels do not interfere.**  If two rule sets, built in whatever steps, both run the
rule of a name with equal options, its findings are the same under both, in the same order, up to
their level.  A listed finding has the latest level that was set for its rule, and is a warning if
none was.  A rule that does not run has no findings. -/
theorem lint_independent {steps steps' : List RuleSet.Step} {name : String}
    (h : RuleSet.SameRule (RuleSet.build steps) (RuleSet.build steps') name) (source : List Char)
    (p : Program) :
    Diagnostic.ofRule name (lint (RuleSet.build steps') source p) =
      (Diagnostic.ofRule name (lint (RuleSet.build steps) source p)).map
        (·.withLevel ((RuleSet.latestLevel? name steps').getD .warning)) ∧
    (∀ d ∈ lint (RuleSet.build steps) source p,
      d.level = (RuleSet.latestLevel? d.rule steps).getD .warning) ∧
    ∀ other ∉ (RuleSet.build steps).enabled,
      Diagnostic.ofRule other (lint (RuleSet.build steps) source p) = [] := by
  refine ⟨?_, fun d hd => ?_, fun other hother => ?_⟩
  · rw [Diagnostic.ofRule_lint, Diagnostic.ofRule_lint, h.ofRule_rawFindings source p, List.map_map,
      RuleSet.level?_build]
    rfl
  · rw [← RuleSet.level?_build]
    exact (of_mem_lint hd).2
  · refine List.filter_eq_nil_iff.mpr fun d hd => ?_
    have hrule : d.rule ≠ other := fun heq => hother (heq ▸ (of_mem_lint hd).1)
    simpa using hrule

/-- Both runs of the sample are found whether the rule on comments runs or not, at the level that was
set last. -/
theorem lint_independent_twoRuns :
    let steps : List RuleSet.Step := [.comments, .chains (.abc 1), .setLevel "no-such-rule" .error]
    let steps' : List RuleSet.Step := [.setLevel Rule.chainName .warning,
      .chains ⟨1, ["isC", "isB", "isA", "isB"]⟩, .setLevel Rule.chainName .error]
    let found := Diagnostic.ofRule Rule.chainName (lint (RuleSet.build steps) [] Program.twoRuns)
    RuleSet.SameRule (RuleSet.build steps) (RuleSet.build steps') Rule.chainName ∧
    Diagnostic.ofRule Rule.chainName (lint (RuleSet.build steps') [] Program.twoRuns) =
      found.map (·.withLevel .error) ∧
    found.length = 2 := by
  intro steps steps' found
  have hsame : RuleSet.SameRule (RuleSet.build steps) (RuleSet.build steps') Rule.chainName := by
    refine .chains rfl rfl ⟨rfl, fun name => ?_⟩
    simp only [ChainRule.abc, List.mem_cons, List.not_mem_nil, or_false]
    tauto
  have hlevel := (lint_independent hsame [] Program.twoRuns).1
  refine ⟨hsame, hlevel, ?_⟩
  have hlength := congrArg List.length
    (Diagnostic.ofRule_lint (RuleSet.build steps) [] Program.twoRuns Rule.chainName)
  rw [List.length_map, List.length_mergeSort] at hlength
  exact hlength

end ChainLint
