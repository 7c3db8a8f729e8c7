import ChainLint.Proofs.Chain.Runs

/-!
# How many brand checks are allowed

The limit of a rule decides which runs are reported and nothing else: what a check looks at, and so what
it leaves for later checks, does not depend on it.  The spans of a program are arbitrary here.

* `check_limit`: what a check collects and records is the same at every limit.
* `reports_of_le`: a higher limit keeps those of the reports that are longer.
* `chainFindings_limit`: the findings of a program at all limits come from one list of runs.
-/

namespace ChainLint

namespace ChainRule

variable {limit limit' : ℕ} {methods : List String} {l : Logical} {ls : List Logical} {seen : Seen}
  {rule : ChainRule} {run : Run}

/-! ### One check -/

/-- What a check collects and records does not depend on the limit. -/
theorem check_limit (limit limit' : ℕ) (methods : List String) (l : Logical) (seen : Seen) :
    collect ⟨limit', methods⟩ l seen = collect ⟨limit, methods⟩ l seen ∧
      (check ⟨limit', methods⟩ l seen).2 = (check ⟨limit, methods⟩ l seen).2 := by
  have hmethods : ∀ name, name ∈ (⟨limit', methods⟩ : ChainRule).methods ↔
      name ∈ (⟨limit, methods⟩ : ChainRule).methods := fun _ => Iff.rfl
  have hcollect : collect ⟨limit', methods⟩ l seen = collect ⟨limit, methods⟩ l seen :=
    collect_congr hmethods l seen
  refine ⟨hcollect, ?_⟩
  rw [check, check, hcollect]
  split_ifs <;> rfl

/-- A check at a higher limit reports the same run, if it is longer. -/
theorem report?_of_le (h : limit ≤ limit') :
    (report? ⟨limit', methods⟩ l seen).toList =
      (report? ⟨limit, methods⟩ l seen).toList.filter fun run => limit' < run.names.length := by
  rw [report?_eq, report?_eq, (check_limit limit limit' methods l seen).1]
  generalize (collect ⟨limit, methods⟩ l seen).1 = names
  by_cases hlong : limit' < names.length
  · have hlong' : limit < names.length := by omega
    simp [hlong, hlong']
  · by_cases hlong' : limit < names.length
    · simp [hlong, hlong']
    · simp [hlong, hlong']

/-! ### A sequence of checks -/

theorem checkAll_limit (limit limit' : ℕ) (methods : List String) (ls : List Logical) (seen : Seen) :
    (checkAll ⟨limit', methods⟩ ls seen).2 = (checkAll ⟨limit, methods⟩ ls seen).2 := by
  induction ls generalizing seen with
  | nil => rfl
  | cons l ls ih => rw [checkAll_cons, checkAll_cons, (check_limit limit limit' methods l seen).2, ih]

/-- **A higher limit keeps the longer reports**, in their order. -/
theorem reports_of_le (h : limit ≤ limit') : reports ⟨limit', methods⟩ ls seen =
    (reports ⟨limit, methods⟩ ls seen).filter fun run => limit' < run.names.length := by
  induction ls generalizing seen with
  | nil => rfl
  | cons l ls ih =>
    rw [reports_cons, reports_cons, List.filter_append, report?_of_le h,
      (check_limit limit limit' methods l seen).2, ih]

/-- A reported run starts at a logical expression that is checked, and it is too long. -/
theorem of_mem_reports (h : run ∈ reports rule ls seen) :
    run.root ∈ ls ∧ rule.limit < run.names.length := by
  induction ls generalizing seen with
  | nil => exact absurd h List.not_mem_nil
  | cons l ls ih =>
    rw [reports_cons, List.mem_append, Option.mem_toList, report?_eq] at h
    rcases h with hfirst | hrest
    · split_ifs at hfirst with hlim
      · obtain rfl := Option.some.inj hfirst
        exact ⟨List.mem_cons_self, by simpa using hlim⟩
    · obtain ⟨hroot, hlong⟩ := ih hrest
      exact ⟨List.mem_cons_of_mem _ hroot, hlong⟩

/-! ### The whole traversal -/

/-- **The limit only filters.**  For a program and methods there is one list of runs, from which the
traversal at any limit reports those that are longer, in the order of the list; and what has been looked
at in the end is the same at every limit.  So at a higher limit the longer ones of the reports are
left. -/
theorem chainFindings_limit (methods : List String) (p : Program) :
    ∃ (runs : List Run) (seen : Seen),
      (∀ run ∈ runs, run.root ∈ p.logicals ∧ run.names ≠ []) ∧
      (∀ limit, reports ⟨limit, methods⟩ p.logicals .empty =
          runs.filter (fun run => limit < run.names.length) ∧
        chainFindings ⟨limit, methods⟩ p =
          ((reports ⟨limit, methods⟩ p.logicals .empty).map Run.diagnostic, seen)) ∧
      ∀ limit limit', limit ≤ limit' → reports ⟨limit', methods⟩ p.logicals .empty =
        (reports ⟨limit, methods⟩ p.logicals .empty).filter
          fun run => limit' < run.names.length := by
  refine ⟨reports ⟨0, methods⟩ p.logicals .empty, (chainFindings ⟨0, methods⟩ p).2, ?_, ?_, ?_⟩
  · intro run hrun
    obtain ⟨hroot, hlong⟩ := of_mem_reports hrun
    exact ⟨hroot, List.length_pos_iff.mp hlong⟩
  · intro limit
    refine ⟨reports_of_le (Nat.zero_le limit), ?_⟩
    have hfound : (chainFindings ⟨limit, methods⟩ p).1 =
        (reports ⟨limit, methods⟩ p.logicals .empty).map Run.diagnostic :=
      checkAll_eq_map_reports ⟨limit, methods⟩ p.logicals .empty
    have hseen : (chainFindings ⟨limit, methods⟩ p).2 = (chainFindings ⟨0, methods⟩ p).2 :=
      checkAll_limit 0 limit methods p.logicals .empty
    rw [← hfound, ← hseen]
  · intro limit limit' h
    exact reports_of_le h

end ChainRule

/-- One chain of a run of two brand checks and a run of three,
`isA() && isB() && ready && isB() && !isC() && isA()`. -/
def Program.unevenRuns : Program where
  comments := []
  body := twoRuns.body.map fun e =>
    .logical ⟨0, 51⟩ .and e (.call ⟨46, 51⟩ (.name ⟨46, 49⟩ "isA") [])

/-- Both runs of the sample are longer than one, and one of them is longer than two. -/
theorem ChainRule.chainFindings_limit_unevenRuns :
    ((chainFindings (abc 1) Program.unevenRuns).1.map Diagnostic.span = [⟨0, 51⟩, ⟨0, 14⟩]) ∧
    reports (abc 2) Program.unevenRuns.logicals .empty =
      (reports (abc 1) Program.unevenRuns.logicals .empty).filter
        (fun run => 2 < run.names.length) ∧
    (chainFindings (abc 2) Program.unevenRuns).1.map Diagnostic.span = [⟨0, 51⟩] := by
  obtain ⟨runs, seen, -, -, hle⟩ := chainFindings_limit (abc 1).methods Program.unevenRuns
  exact ⟨by decide, hle 1 2 (by decide), by decide⟩

end ChainLint
