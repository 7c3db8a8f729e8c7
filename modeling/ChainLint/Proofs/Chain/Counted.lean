import ChainLint.Proofs.Chain.Wording

/-!
# The calls that a sequence of checks counts

The checks of one traversal share what they have looked at.  Here nothing is assumed of their order,
of repetitions, or of the spans, which may collide.

* `CountedChain`: a reported chain with the operands that were counted in it; its `calls` pair every
  name of the finding with the span of the call that it was resolved from.
* `ChainRule.countedAll rule ls seen`: the reported chains of the checks of `ls`, in their order.
* `checkAll_fst`: the findings are those of the reported chains.
* `checkAll_listed`: and they list the names of the counted calls.
* `checkAll_sublist`: the counted calls are recorded, each anew and in the order of the reports.
* `checkAll_counts_once`: no call is counted twice, and no chain is reported by a second check.
-/

namespace ChainLint

/-- A reported chain: the logical expression at its right end, and the operands that were counted,
the rightmost first. -/
structure CountedChain where
  root : Logical
  operands : List Expr
deriving Inhabited

namespace CountedChain

/-- The names from right to left, each with the span of the call that it was resolved from. -/
def calls (rule : ChainRule) (c : CountedChain) : List (String × Span) := rule.calls c.operands

/-- The spans of the counted calls. -/
def spans (rule : ChainRule) (c : CountedChain) : List Span := (c.calls rule).map Prod.snd

/-- The finding on a reported chain. -/
def diagnostic (rule : ChainRule) (c : CountedChain) : Diagnostic :=
  .warning Rule.chainName c.root.span (ChainRule.message ((c.calls rule).map Prod.fst).reverse)

theorem listed_diagnostic {rule : ChainRule} (hm : ∀ name ∈ rule.methods, Text.IsName name)
    (c : CountedChain) : (c.diagnostic rule).listed = ((c.calls rule).map Prod.fst).reverse := by
  rw [diagnostic, ChainRule.listed_warning]
  intro name hname
  exact ChainRule.isName_of_mem_calls hm name (List.mem_reverse.mp hname)

end CountedChain

namespace ChainRule

/-- The chain that a check reports: the operands that its walk counts, if they are too many. -/
def counted? (rule : ChainRule) (l : Logical) (seen : Seen) : Option CountedChain :=
  let counted := (examine rule l.operands seen).1
  if rule.limit < (calls rule counted).length then some ⟨l, counted⟩ else none

/-- The chains that several checks report, which share what they have looked at. -/
def countedAll (rule : ChainRule) : List Logical → Seen → List CountedChain
  | [], _ => []
  | l :: ls, seen => (counted? rule l seen).toList ++ countedAll rule ls (check rule l seen).2

/-! ### One check -/

section Check

variable {rule : ChainRule} {l : Logical} {seen : Seen}

theorem counted?_of_isEmpty (h : rule.methods.isEmpty) : counted? rule l seen = none := by
  simp [counted?, calls_of_isEmpty h]

/-- When no brand check is allowed, a check reports whatever it counts. -/
theorem counted?_of_limit (h : rule.limit = 0) :
    (counted? rule l seen).toList.flatMap CountedChain.operands =
      (examine rule l.operands seen).1 := by
  have hlen := length_calls_examine rule l.operands seen
  rw [counted?, h]
  split_ifs with hpos
  · simp
  · have hnil : (examine rule l.operands seen).1 = [] := List.length_eq_zero_iff.mp (by omega)
    rw [hnil]
    rfl

theorem check_of_isEmpty (h : rule.methods.isEmpty) : check rule l seen = (none, seen) := by
  rw [check, if_pos h]

theorem check_snd (h : ¬ rule.methods.isEmpty) :
    (check rule l seen).2 = (examine rule l.operands seen).2 := by
  rw [check, if_neg h, collect_eq]

/-- The finding of a check is on the names that it collects. -/
theorem check_fst_eq_finding (rule : ChainRule) (l : Logical) (seen : Seen) :
    (check rule l seen).1 = finding rule l (collect rule l seen).1 := by
  by_cases h : rule.methods.isEmpty
  · rw [check_of_isEmpty h, collect_eq, calls_of_isEmpty h]
    rfl
  · rw [check, if_neg h]

/-- The finding of a check is that of the chain it reports. -/
theorem check_fst (rule : ChainRule) (l : Logical) (seen : Seen) :
    (check rule l seen).1 = (counted? rule l seen).map (CountedChain.diagnostic rule) := by
  rw [check_fst_eq_finding, collect_eq, finding, counted?, List.length_map]
  split_ifs <;> rfl

/-- The calls that a check counts are new, and recorded by it. -/
theorem check_sublist (rule : ChainRule) (l : Logical) (seen : Seen) :
    (((counted? rule l seen).toList.flatMap (CountedChain.spans rule)).reverse ++ seen.spans).Sublist
      (check rule l seen).2.spans := by
  by_cases h : rule.methods.isEmpty
  · rw [check_of_isEmpty h, counted?_of_isEmpty h]
    exact List.Sublist.refl _
  · have hsub := examine_sublist rule l.operands seen
    rw [check_snd h, counted?]
    split_ifs with hlim
    · simpa [CountedChain.spans, CountedChain.calls] using hsub
    · exact (List.sublist_append_right _ _).trans hsub

/-- A check looks at the right operand. -/
theorem right_mem_check (h : ¬ rule.methods.isEmpty) :
    l.right.bare.span ∈ (check rule l seen).2.spans := by
  rw [check_snd h, Logical.operands]
  cases hc : (callee rule l.right seen).1 with
  | none =>
    rw [examine_cons_of_none hc]
    exact bare_span_mem_callee
  | some name =>
    rw [examine_cons_of_some hc]
    exact ((List.sublist_append_right _ _).trans (examine_sublist rule _ _)).subset bare_span_mem_callee

/-- A check whose right operand has been looked at finds nothing and looks at nothing. -/
theorem check_of_mem (h : l.right.bare.span ∈ seen.spans) : check rule l seen = (none, seen) := by
  by_cases he : rule.methods.isEmpty
  · exact check_of_isEmpty he
  · rw [check, if_neg he, collect_eq, Logical.operands, examine_of_mem h]
    rfl

end Check

/-! ### A sequence of checks -/

variable {rule : ChainRule}

theorem checkAll_cons (rule : ChainRule) (l : Logical) (ls : List Logical) (seen : Seen) :
    checkAll rule (l :: ls) seen =
      ((check rule l seen).1.toList ++ (checkAll rule ls (check rule l seen).2).1,
        (checkAll rule ls (check rule l seen).2).2) := rfl

theorem checkAll_append (rule : ChainRule) (ls ls' : List Logical) (seen : Seen) :
    checkAll rule (ls ++ ls') seen =
      ((checkAll rule ls seen).1 ++ (checkAll rule ls' (checkAll rule ls seen).2).1,
        (checkAll rule ls' (checkAll rule ls seen).2).2) := by
  induction ls generalizing seen with
  | nil => rfl
  | cons l ls ih =>
    rw [List.cons_append, checkAll_cons, checkAll_cons, ih, List.append_assoc]

theorem checkAll_fst (rule : ChainRule) (ls : List Logical) (seen : Seen) :
    (checkAll rule ls seen).1 = (countedAll rule ls seen).map (CountedChain.diagnostic rule) := by
  induction ls generalizing seen with
  | nil => rfl
  | cons l ls ih =>
    rw [checkAll_cons, countedAll, List.map_append, ← ih, check_fst]
    cases counted? rule l seen <;> rfl

/-- The names that the findings list are those of the counted calls, from left to right, when the
methods of the rule are identifiers. -/
theorem checkAll_listed (hm : ∀ name ∈ rule.methods, Text.IsName name) (ls : List Logical)
    (seen : Seen) : (checkAll rule ls seen).1.map Diagnostic.listed =
      (countedAll rule ls seen).map fun c => ((c.calls rule).map Prod.fst).reverse := by
  rw [checkAll_fst, List.map_map]
  refine List.map_congr_left fun c _ => ?_
  rw [Function.comp_apply, c.listed_diagnostic hm]

/-- Counted calls are recorded, each anew and in the order of the reports. -/
theorem checkAll_sublist (rule : ChainRule) (ls : List Logical) (seen : Seen) :
    (((countedAll rule ls seen).flatMap (CountedChain.spans rule)).reverse ++ seen.spans).Sublist
      (checkAll rule ls seen).2.spans := by
  induction ls generalizing seen with
  | nil => exact List.Sublist.refl _
  | cons l ls ih =>
    rw [checkAll_cons, countedAll, List.flatMap_append, List.reverse_append, List.append_assoc]
    exact ((check_sublist rule l seen).append_left _).trans (ih _)

/-- What is recorded after some checks is recorded after more of them. -/
theorem checkAll_subset {ls ls' : List Logical} (h : ls <+: ls') (seen : Seen) :
    (checkAll rule ls seen).2.spans ⊆ (checkAll rule ls' seen).2.spans := by
  obtain ⟨rest, rfl⟩ := h
  rw [checkAll_append]
  exact ((List.sublist_append_right _ _).trans (checkAll_sublist rule rest _)).subset

/-- The right operand of whatever has been checked has been looked at. -/
theorem right_mem_checkAll (hm : ¬ rule.methods.isEmpty) {ls : List Logical} {l : Logical}
    {seen : Seen} (h : l ∈ ls) : l.right.bare.span ∈ (checkAll rule ls seen).2.spans := by
  obtain ⟨before, after, rfl⟩ := List.append_of_mem h
  have hmem : l.right.bare.span ∈ (checkAll rule (before ++ [l]) seen).2.spans := by
    rw [checkAll_append]
    exact right_mem_check hm
  have hpre : before ++ [l] <+: before ++ l :: after := ⟨after, by simp⟩
  exact checkAll_subset hpre seen hmem

/-- A logical expression that has been checked is not reported again. -/
theorem check_of_mem_checkAll {ls : List Logical} {l : Logical} (h : l ∈ ls) (seen : Seen) :
    (check rule l (checkAll rule ls seen).2).1 = none := by
  by_cases hm : rule.methods.isEmpty
  · rw [check_of_isEmpty hm]
  · rw [check_of_mem (right_mem_checkAll hm h)]

/-- **No call is counted twice**, whatever is checked, in whatever order and however often.  The
findings are those of the reported chains, in which every name is paired with the span of its call,
and when the methods of the rule are identifiers, these names are the ones that the findings list.
What has been looked at never shrinks.  The spans of the counted calls are distinct over all reports
and were not recorded before, so no more names are listed than spans are recorded anew.  What has
been checked once is not reported again. -/
theorem checkAll_counts_once (rule : ChainRule) (ls : List Logical) (seen : Seen) :
    (checkAll rule ls seen).1 = (countedAll rule ls seen).map (CountedChain.diagnostic rule) ∧
    ((∀ name ∈ rule.methods, Text.IsName name) → (checkAll rule ls seen).1.map Diagnostic.listed =
      (countedAll rule ls seen).map fun c => ((c.calls rule).map Prod.fst).reverse) ∧
    (∀ n, seen.spans ⊆ (checkAll rule (ls.take n) seen).2.spans ∧
      (checkAll rule (ls.take n) seen).2.spans ⊆ (checkAll rule ls seen).2.spans) ∧
    ((countedAll rule ls seen).flatMap (CountedChain.spans rule)).Nodup ∧
    ((countedAll rule ls seen).flatMap (CountedChain.spans rule)).Disjoint seen.spans ∧
    ((countedAll rule ls seen).flatMap (CountedChain.calls rule)).length + seen.size ≤
      (checkAll rule ls seen).2.size ∧
    ∀ l ∈ ls, (check rule l (checkAll rule ls seen).2).1 = none := by
  -- all that is recorded is distinct, and counted calls are a part of what is new
  have hsub := checkAll_sublist rule ls seen
  have hnodup := (checkAll rule ls seen).2.nodup.sublist hsub
  obtain ⟨hspans, -, hdisj⟩ := List.nodup_append'.mp hnodup
  refine ⟨checkAll_fst rule ls seen, fun hm => checkAll_listed hm ls seen, fun n => ⟨?_, ?_⟩,
    List.nodup_reverse.mp hspans, ?_, ?_, ?_⟩
  · exact checkAll_subset List.nil_prefix seen
  · exact checkAll_subset (List.take_prefix n ls) seen
  · intro s hs
    exact hdisj (List.mem_reverse.mpr hs)
  · have hlen := hsub.length_le
    have hcalls : (countedAll rule ls seen).flatMap (CountedChain.spans rule) =
        ((countedAll rule ls seen).flatMap (CountedChain.calls rule)).map Prod.snd :=
      List.map_flatMap.symm
    rw [hcalls] at hlen
    simpa [Seen.size] using hlen
  · intro l hl
    exact check_of_mem_checkAll hl seen

end ChainRule

end ChainLint
