import ChainLint.Lint
import ChainLint.Proofs.Chain.Counted

/-!
# Findings in order

The listed findings of a program are the stable merge of the findings of its rules.  Spans are
arbitrary: findings of different rules, or of one rule, may share them.

* `RuleSet.commentPart rules source p`: the findings of the rule on comments, at the level set for it.
* `RuleSet.chainPart rules p`: the findings of the rule on chains, at the level set for it.
* `mergeSort_filter_span`: sorting keeps the order of findings of equal span.
* `lint_stable_merge`: the listed findings are sorted by span; they are those of the two rules, and
  among findings of equal span each rule's keep their order, those on comments first.
-/

namespace ChainLint

namespace RuleSet

/-- The findings of the rule on comments, if it runs: one for every unspecified comment, in the order
of the comments. -/
def commentPart (rules : RuleSet) (source : List Char) (p : Program) : List Diagnostic :=
  if rules.comments then
    (p.comments.filter (Comment.isUnspecified source)).map fun c =>
      ⟨Rule.commentName, c.span, Comment.message, (rules.level? Rule.commentName).getD .warning⟩
  else []

/-- The findings of the rule on chains, if it runs, in the order of the traversal. -/
def chainPart (rules : RuleSet) (p : Program) : List Diagnostic :=
  match rules.chains with
  | none => []
  | some rule => (rule.checkAll p.logicals .empty).1.map fun d =>
    { d with level := (rules.level? Rule.chainName).getD d.level }

end RuleSet

/-! ### The order of findings -/

namespace Diagnostic

theorem precedes_iff {a b : Diagnostic} : a.precedes b = true ↔
    a.span.start < b.span.start ∨ a.span.start = b.span.start ∧ a.span.stop ≤ b.span.stop := by
  simp [precedes]

theorem precedes_trans (a b c : Diagnostic) (hab : a.precedes b = true) (hbc : b.precedes c = true) :
    a.precedes c = true := by
  rw [precedes_iff] at *
  omega

theorem precedes_total (a b : Diagnostic) : (a.precedes b || b.precedes a) = true := by
  rw [Bool.or_eq_true, precedes_iff, precedes_iff]
  omega

theorem span_eq_of_precedes {a b : Diagnostic} (hab : a.precedes b = true)
    (hba : b.precedes a = true) : a.span = b.span := by
  rw [precedes_iff] at hab hba
  obtain ⟨hstart, hstop⟩ : a.span.start = b.span.start ∧ a.span.stop = b.span.stop := by omega
  cases ha : a.span
  cases hb : b.span
  simp_all

/-- Sorting keeps the order of findings of equal span. -/
theorem mergeSort_filter_span (found : List Diagnostic) (s : Span) :
    (found.mergeSort precedes).filter (·.span = s) = found.filter (·.span = s) := by
  have hequal : (found.filter (·.span = s)).Pairwise fun a b => a.precedes b = true := by
    refine List.pairwise_of_forall_mem_list fun a ha b hb => ?_
    have ha' : a.span = s := by simpa using (List.mem_filter.mp ha).2
    have hb' : b.span = s := by simpa using (List.mem_filter.mp hb).2
    rw [precedes_iff, ha', hb']
    exact Or.inr ⟨rfl, Nat.le_refl _⟩
  have hsub : (found.filter (·.span = s)).Sublist (found.mergeSort precedes) :=
    List.sublist_mergeSort precedes_trans precedes_total hequal List.filter_sublist
  have hkept : (found.filter (·.span = s)).Sublist
      ((found.mergeSort precedes).filter (·.span = s)) := by
    have hfilter := hsub.filter fun d : Diagnostic => decide (d.span = s)
    simpa only [List.filter_filter, Bool.and_self] using hfilter
  have hperm := (List.mergeSort_perm found precedes).filter fun d => decide (d.span = s)
  exact (hkept.eq_of_length hperm.length_eq.symm).symm

/-- Sorted findings are told by those of every span. -/
theorem eq_of_filter_span {found found' : List Diagnostic}
    (h : found.Pairwise fun a b => a.precedes b = true)
    (h' : found'.Pairwise fun a b => a.precedes b = true)
    (heq : ∀ s, found.filter (·.span = s) = found'.filter (·.span = s)) : found = found' := by
  have hmem : ∀ d, d ∈ found ↔ d ∈ found' := by
    intro d
    have hd := congrArg (d ∈ ·) (heq d.span)
    simpa using hd
  induction found generalizing found' with
  | nil =>
    refine (List.eq_nil_iff_forall_not_mem.mpr fun d hd => ?_).symm
    exact absurd ((hmem d).mpr hd) List.not_mem_nil
  | cons a found ih =>
    cases found' with
    | nil => exact absurd ((hmem a).mp List.mem_cons_self) List.not_mem_nil
    | cons b found' =>
      obtain ⟨hafter, hrest⟩ := List.pairwise_cons.mp h
      obtain ⟨hafter', hrest'⟩ := List.pairwise_cons.mp h'
      -- Each head comes first among the other's findings, so their spans are equal.
      have hab : a.precedes b = true := by
        rcases List.mem_cons.mp ((hmem b).mpr List.mem_cons_self) with rfl | hb
        · exact precedes_iff.mpr (Or.inr ⟨rfl, Nat.le_refl _⟩)
        · exact hafter b hb
      have hba : b.precedes a = true := by
        rcases List.mem_cons.mp ((hmem a).mp List.mem_cons_self) with rfl | ha
        · exact hab
        · exact hafter' a ha
      have hspan : a.span = b.span := span_eq_of_precedes hab hba
      have hfirst := heq a.span
      rw [List.filter_cons_of_pos (by simp), List.filter_cons_of_pos (by simp [hspan])] at hfirst
      obtain ⟨rfl, -⟩ := List.cons_eq_cons.mp hfirst
      have htail : ∀ s, found.filter (·.span = s) = found'.filter (·.span = s) := by
        intro s
        have hs := heq s
        simp only [List.filter_cons] at hs
        split at hs
        · exact (List.cons_eq_cons.mp hs).2
        · exact hs
      rw [ih hrest hrest' htail fun d => by simpa using congrArg (d ∈ ·) (htail d.span)]

/-- Sorting some of the findings takes them out of the sorted ones. -/
theorem filter_mergeSort (q : Diagnostic → Bool) (found : List Diagnostic) :
    (found.mergeSort precedes).filter q = (found.filter q).mergeSort precedes := by
  have hsorted := List.pairwise_mergeSort precedes_trans precedes_total
  refine eq_of_filter_span ((hsorted found).filter q) (hsorted _) fun s => ?_
  rw [mergeSort_filter_span, List.filter_comm, mergeSort_filter_span, List.filter_comm]

end Diagnostic

/-! ### The findings of the rules -/

theorem ChainRule.rule_of_mem_checkAll {rule : ChainRule} {ls : List Logical} {seen : Seen}
    {d : Diagnostic} (h : d ∈ (rule.checkAll ls seen).1) : d.rule = Rule.chainName := by
  rw [checkAll_fst] at h
  obtain ⟨c, -, rfl⟩ := List.mem_map.mp h
  rfl

/-- Findings are listed in the order of the checks, at most one for each. -/
theorem ChainRule.span_sublist_checkAll (rule : ChainRule) (ls : List Logical) (seen : Seen) :
    ((rule.checkAll ls seen).1.map Diagnostic.span).Sublist (ls.map Logical.span) := by
  induction ls generalizing seen with
  | nil => exact List.Sublist.refl _
  | cons l ls ih =>
    rw [checkAll_cons, List.map_append, List.map_cons, ← List.singleton_append]
    refine List.Sublist.append ?_ (ih _)
    rw [check_fst, counted?]
    split_ifs
    · exact List.Sublist.refl _
    · exact List.nil_sublist _

namespace RuleSet

theorem relevel_eq (rules : RuleSet) (d : Diagnostic) :
    rules.relevel d = { d with level := (rules.level? d.rule).getD d.level } := by
  rw [relevel]
  cases rules.level? d.rule <;> rfl

/-- The findings before they are sorted. -/
theorem map_relevel_rawFindings (rules : RuleSet) (source : List Char) (p : Program) :
    (rawFindings rules source p).1.map rules.relevel =
      rules.commentPart source p ++ rules.chainPart p := by
  have hcomments : (if rules.comments then Comment.findings source p.comments else []).map
      rules.relevel = rules.commentPart source p := by
    rw [commentPart]
    split_ifs
    · rw [Comment.findings, List.map_map]
      exact List.map_congr_left fun c _ => rules.relevel_eq (Comment.finding c)
    · rfl
  cases hchains : rules.chains with
  | none => simp [rawFindings, chainPart, hchains, hcomments]
  | some rule =>
    have hchain : ∀ d ∈ (chainFindings rule p).1, rules.relevel d =
        { d with level := (rules.level? Rule.chainName).getD d.level } := by
      intro d hd
      rw [relevel_eq, ChainRule.rule_of_mem_checkAll hd]
    simp only [rawFindings, hchains, List.map_append, hcomments, chainPart]
    rw [List.map_congr_left hchain]
    rfl

theorem span_sublist_chainPart (rules : RuleSet) (p : Program) :
    ((rules.chainPart p).map Diagnostic.span).Sublist (p.logicals.map Logical.span) := by
  rw [chainPart]
  cases rules.chains with
  | none => exact List.nil_sublist _
  | some rule =>
    rw [List.map_map]
    exact rule.span_sublist_checkAll p.logicals .empty

end RuleSet

/-- **The listed findings are the stable merge of the rules' findings**: they are sorted by start and
then by end, they are the findings of both rules at the levels set for them, and those of equal span
stand in the order in which the rules found them, those on comments first.  Those on chains come one
from each of some logical expressions, in the order of the traversal. -/
theorem lint_stable_merge (rules : RuleSet) (source : List Char) (p : Program) :
    (lint rules source p).Pairwise (fun a b => a.span.start < b.span.start ∨
      a.span.start = b.span.start ∧ a.span.stop ≤ b.span.stop) ∧
    (lint rules source p).Perm (rules.commentPart source p ++ rules.chainPart p) ∧
    (∀ s, (lint rules source p).filter (·.span = s) =
      (rules.commentPart source p).filter (·.span = s) ++
        (rules.chainPart p).filter (·.span = s)) ∧
    ((rules.chainPart p).map Diagnostic.span).Sublist (p.logicals.map Logical.span) := by
  rw [lint, rules.map_relevel_rawFindings source p]
  refine ⟨?_, List.mergeSort_perm _ _, fun s => ?_, rules.span_sublist_chainPart p⟩
  · have hsorted := List.pairwise_mergeSort Diagnostic.precedes_trans Diagnostic.precedes_total
      (rules.commentPart source p ++ rules.chainPart p)
    exact hsorted.imp Diagnostic.precedes_iff.mp
  · rw [Diagnostic.mergeSort_filter_span, List.filter_append]

end ChainLint
