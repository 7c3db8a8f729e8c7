import ChainLint.Proofs.Chain.Limit
import ChainLint.Proofs.Config.Activation

/-!
# The limit that options state

The limit of the rule on chains may be any number, and what is kept of it is a whole number of 64 bits.
A chain has a whole number of brand checks and at least one, so it is longer than what is kept just
when it is longer than the number itself.

* `min_floor_lt_iff`: cutting a number off at zero, to its whole part and at the largest word changes
  no comparison with the length of a chain.
* `ChainRule.collected rule ls seen`: the runs that checks collect, whatever the limit is.
* `ChainRule.reports_eq_filter_collected`: the limit picks those that are longer.
* `ChainRule.ofOptions?_stated`: the rule of options that state a number.
-/

namespace ChainLint

/-- A whole number above zero is greater than a number just when it is greater than what is kept of it,
if one of the two is below the largest word. -/
theorem min_floor_lt_iff {q : ℚ} {k : ℕ} (hk : 1 ≤ k) (h : q < 2 ^ 64 ∨ k < 2 ^ 64) :
    min ⌊max q 0⌋₊ (2 ^ 64 - 1) < k ↔ q < k := by
  have hpos : (0 : ℚ) < k := by exact_mod_cast hk
  have hfloor : ⌊max q 0⌋₊ < k ↔ q < k := by
    rw [Nat.floor_lt (le_max_right q 0), max_lt_iff, and_iff_left hpos]
  rw [min_lt_iff, hfloor]
  refine or_iff_left_of_imp fun hlarge => ?_
  have hword : (2 : ℚ) ^ 64 ≤ k := by exact_mod_cast (by omega : 2 ^ 64 ≤ k)
  rcases h with hq | hk
  · exact hq.trans_le hword
  · omega

namespace ChainRule

/-! ### What checks collect -/

/-- The runs that checks collect one after another, each seeing what the earlier ones have looked at;
a check that meets no brand check collects none. -/
def collected (rule : ChainRule) : List Logical → Seen → List Run
  | [], _ => []
  | l :: ls, seen =>
    let (names, seen') := collect rule l seen
    (if names = [] then [] else [⟨l, names.reverse⟩]) ++ collected rule ls seen'

variable {rule : ChainRule} {ls : List Logical} {seen : Seen} {run : Run}

theorem collected_cons (rule : ChainRule) (l : Logical) (ls : List Logical) (seen : Seen) :
    collected rule (l :: ls) seen =
      (if (collect rule l seen).1 = [] then [] else [⟨l, (collect rule l seen).1.reverse⟩]) ++
        collected rule ls (collect rule l seen).2 := rfl

theorem collected_of_isEmpty (h : rule.methods.isEmpty) : collected rule ls seen = [] := by
  induction ls generalizing seen with
  | nil => rfl
  | cons l ls ih =>
    have hnil : (collect rule l seen).1 = [] := by
      rw [collect_eq, calls_of_isEmpty h]
      rfl
    rw [collected_cons, if_pos hnil, ih]
    rfl

theorem length_pos_of_mem_collected (h : run ∈ collected rule ls seen) : 1 ≤ run.names.length := by
  induction ls generalizing seen with
  | nil => exact absurd h List.not_mem_nil
  | cons l ls ih =>
    rw [collected_cons, List.mem_append] at h
    rcases h with hfirst | hrest
    · split_ifs at hfirst with hnil
      · exact absurd hfirst List.not_mem_nil
      · rw [List.mem_singleton.mp hfirst, List.length_reverse]
        exact List.length_pos_iff.mpr hnil
    · exact ih hrest

/-- **The limit picks the longer runs** of those that checks collect. -/
theorem reports_eq_filter_collected (rule : ChainRule) (ls : List Logical) (seen : Seen) :
    reports rule ls seen =
      (collected rule ls seen).filter fun run => rule.limit < run.names.length := by
  by_cases hmethods : rule.methods.isEmpty
  · rw [reports_of_isEmpty hmethods, collected_of_isEmpty hmethods, List.filter_nil]
  · induction ls generalizing seen with
    | nil => rfl
    | cons l ls ih =>
      have hseen : (check rule l seen).2 = (collect rule l seen).2 := by
        rw [check_snd hmethods, collect_eq]
      rw [reports_cons, collected_cons, List.filter_append, report?_eq, hseen, ih]
      congr 1
      generalize (collect rule l seen).1 = names
      by_cases hnil : names = []
      · simp [hnil]
      · by_cases hlong : rule.limit < names.length <;> simp [hnil, hlong]

/-! ### Options that state a number -/

/-- **The stated limit.**  Options whose limit is a number of a document make a rule.  Its limit is the
value of the float that the number is read as, cut off at zero, to its whole part and at the largest
word; and yet it decides on every length as that value itself does.  So of the runs that the checks of
a program collect, those are reported that are longer than the value.  A run as long as a word has no
place in memory, and only a value beyond the words could tell it from longer ones. -/
theorem ofOptions?_stated {v : Json} {n : Json.Number} (hv : ChainOptions.Accepted v)
    (hn : ChainOptions.number? v = some n) (hword : n.IsWord) (shared : Settings) :
    ∃ x rule, n.toFloat? = some x ∧ ofOptions? (some v) shared = .ok rule ∧
      (∀ i : ℤ, n = .integer i → i.natAbs ≤ 2 ^ 53 → x.toRat = i) ∧
      rule.limit = min ⌊max x.toRat 0⌋₊ (2 ^ 64 - 1) ∧
      (∀ k : ℕ, 1 ≤ k → k < 2 ^ 64 → (rule.limit < k ↔ x.toRat < k)) ∧
      ∀ p : Program,
        (∀ run ∈ collected rule p.logicals .empty, x.toRat < 2 ^ 64 ∨ run.names.length < 2 ^ 64) →
        (chainFindings rule p).1 = ((collected rule p.logicals .empty).filter
          fun run => x.toRat < run.names.length).map Run.diagnostic := by
  obtain ⟨x, hx⟩ := hword.exists_toFloat?
  have hrule := @ofOptions?_eq (some v) shared fun w hw => Option.some.inj hw ▸ hv
  have hlimit : (ofOptions (.ofOption (some v)) shared).limit =
      min ⌊max x.toRat 0⌋₊ (2 ^ 64 - 1) := (ChainOptions.allows_ofOption (some v)).float n x hn hx
  refine ⟨x, _, hx, hrule, ?_, hlimit, fun k hk hk' => ?_, fun p hp => ?_⟩
  · rintro i rfl hi
    exact Json.Number.toRat_of_le hx hi
  · rw [hlimit]
    exact min_floor_lt_iff hk (Or.inr hk')
  · rw [chainFindings, checkAll_eq_map_reports, reports_eq_filter_collected]
    congr 1
    refine List.filter_congr fun run hrun => decide_eq_decide.mpr ?_
    rw [hlimit]
    exact min_floor_lt_iff (length_pos_of_mem_collected hrun) (hp run hrun)

/-- With two and a half brand checks allowed, a run of three is reported and a run of two is not. -/
theorem ofOptions?_stated_fraction :
    let x : Binary64 := ⟨false, 5, -1⟩
    let v : Json := .object [(ChainOptions.limitKey, .number (.real x))]
    ofOptions? (some v) ⟨(abc 0).methods⟩ = .ok (abc 2) ∧ x.toRat = 5 / 2 ∧
      (chainFindings (abc 2) Program.unevenRuns).1 =
        ((collected (abc 2) Program.unevenRuns.logicals .empty).filter
          fun run => x.toRat < run.names.length).map Run.diagnostic ∧
      (chainFindings (abc 2) Program.unevenRuns).1.map Diagnostic.span = [⟨0, 51⟩] := by
  intro x v
  have hv : ChainOptions.Accepted v :=
    .object (by simp [Json.number?]) (by simp [ChainOptions.limitKey, Settings.methodsKey])
  obtain ⟨y, rule, hy, hrule, -, -, -, hfound⟩ := ofOptions?_stated hv rfl trivial ⟨(abc 0).methods⟩
  obtain rfl : x = y := Option.some.inj hy
  have hmade : ofOptions? (some v) ⟨(abc 0).methods⟩ = .ok (abc 2) := by
    have hlimit : limitOf (.real ⟨false, 5, -1⟩) = 2 := by decide
    rw [abc, ← hlimit]
    rfl
  obtain rfl : abc 2 = rule := Except.ok.inj (hmade.symm.trans hrule)
  have hvalue : x.toRat = 5 / 2 := by
    rw [Binary64.toRat]
    norm_num [x]
  refine ⟨hmade, hvalue, hfound _ fun _ _ => Or.inl ?_, by decide⟩
  rw [hvalue]
  norm_num

end ChainRule

end ChainLint
