import Mathlib.Data.List.SplitBy
import Mathlib.Data.List.TakeWhile
import ChainLint.Lint
import ChainLint.Proofs.Chain.Counted
import ChainLint.Proofs.Chain.Spine

/-!
# The runs of a program

What the traversal of a program reports can be told without what has been looked at.  The operands of
each maximal chain fall into runs of brand checks and single other operands.  A run belongs to the
logical expression whose right operand is its rightmost brand check, and it is reported when it is
too long.  A run that is no right operand at all, the leftmost operand alone, belongs to none.

* `ChainRule.runs rule l`: the maximal runs of the chain at `l`, the rightmost first.
* `ChainRule.reports rule ls seen`: the runs that the checks of `ls` report, whatever the spans are.
* `reports_links`: checks down one chain, of which some operands may have been looked at.
* `reports_eq_runs`: the runs that the traversal of a program reports are those that are too long.
* `chainFindings_eq_runs`: the findings of a program are the runs that are too long, in the order of
  the traversal, if the nodes that it may look at have distinct spans.
-/

namespace ChainLint

/-- A run of brand checks: the logical expression whose right operand is the last of them, and their
methods from left to right. -/
structure Run where
  root : Logical
  names : List String
deriving Inhabited

/-- The finding on a run. -/
def Run.diagnostic (run : Run) : Diagnostic :=
  .warning Rule.chainName run.root.span (ChainRule.message run.names)

/-- The run that a reported chain shows. -/
def CountedChain.run (rule : ChainRule) (c : CountedChain) : Run :=
  ⟨c.root, ((c.calls rule).map Prod.fst).reverse⟩

/-- An operand of a chain, with the logical expression whose right operand it is. -/
abbrev Site := Option Logical × Expr

/-- The operands down the left side of a node as sites, the rightmost first. -/
def Expr.sites (e : Expr) : List Site :=
  (e.links.map some ++ [none]).zip e.operands

/-- The operands of the chain at a logical expression as sites, the rightmost first. -/
def Logical.sites (l : Logical) : List Site :=
  (l.links.map some ++ [none]).zip l.operands

namespace ChainRule

/-- Whether a brand check stands at a site. -/
def brandAt (rule : ChainRule) (site : Site) : Bool := rule.isBrand site.2

/-- The run that brand checks make, if the rightmost of them is a right operand. -/
def run? (rule : ChainRule) : List Site → Option Run
  | (some l, e) :: sites => some ⟨l, ((rule.calls (e :: sites.map Prod.snd)).map Prod.fst).reverse⟩
  | _ => none

/-- The runs among operands: the longest stretches that are brand checks throughout. -/
def runsOf (rule : ChainRule) (sites : List Site) : List Run :=
  ((sites.splitBy fun a b => rule.brandAt a && rule.brandAt b).filter
    fun stretch => stretch.all rule.brandAt).filterMap rule.run?

/-- The runs of the chain at a logical expression, the rightmost first. -/
def runs (rule : ChainRule) (l : Logical) : List Run := rule.runsOf l.sites

/-- The run that a check reports. -/
def report? (rule : ChainRule) (l : Logical) (seen : Seen) : Option Run :=
  (counted? rule l seen).map (CountedChain.run rule)

/-- The runs that several checks report, which share what they have looked at. -/
def reports (rule : ChainRule) (ls : List Logical) (seen : Seen) : List Run :=
  (countedAll rule ls seen).map (CountedChain.run rule)

variable {rule : ChainRule}

/-! ### Reported runs -/

theorem reports_cons (rule : ChainRule) (l : Logical) (ls : List Logical) (seen : Seen) :
    reports rule (l :: ls) seen =
      (report? rule l seen).toList ++ reports rule ls (check rule l seen).2 := by
  rw [reports, countedAll, List.map_append, ← Option.toList_map]
  rfl

theorem reports_append (rule : ChainRule) (ls ls' : List Logical) (seen : Seen) :
    reports rule (ls ++ ls') seen =
      reports rule ls seen ++ reports rule ls' (checkAll rule ls seen).2 := by
  induction ls generalizing seen with
  | nil => rfl
  | cons l ls ih =>
    rw [List.cons_append, reports_cons, reports_cons, ih, checkAll_cons, List.append_assoc]

theorem reports_of_isEmpty (h : rule.methods.isEmpty) (ls : List Logical) (seen : Seen) :
    reports rule ls seen = [] := by
  induction ls generalizing seen with
  | nil => rfl
  | cons l ls ih =>
    rw [reports_cons, report?, counted?_of_isEmpty h, ih]
    rfl

/-- The findings of checks are those on the runs that they report. -/
theorem checkAll_eq_map_reports (rule : ChainRule) (ls : List Logical) (seen : Seen) :
    (checkAll rule ls seen).1 = (reports rule ls seen).map Run.diagnostic := by
  rw [checkAll_fst, reports, List.map_map]
  rfl

/-- The names that the findings of checks list are those of the runs that they report, when the methods
of the rule are identifiers. -/
theorem checkAll_listed_eq_names (hm : ∀ name ∈ rule.methods, Text.IsName name) (ls : List Logical)
    (seen : Seen) : (checkAll rule ls seen).1.map Diagnostic.listed =
      (reports rule ls seen).map Run.names := by
  rw [checkAll_listed hm, reports, List.map_map]
  rfl

/-- A check reports the names that it collects, if they are too many. -/
theorem report?_eq (rule : ChainRule) (l : Logical) (seen : Seen) : report? rule l seen =
    if rule.limit < (collect rule l seen).1.length then
      some ⟨l, (collect rule l seen).1.reverse⟩ else none := by
  rw [report?, counted?, collect_eq, List.length_map]
  split_ifs <;> rfl

theorem report?_of_mem {l : Logical} {seen : Seen} (h : l.right.bare.span ∈ seen.spans) :
    report? rule l seen = none := by
  rw [report?, counted?, Logical.operands, examine_of_mem h]
  rfl

/-! ### Runs among operands -/

/-- Brand checks throughout are one run. -/
theorem runsOf_of_all {sites : List Site}
    (h : ∀ site ∈ sites, rule.brandAt site = true) :
    rule.runsOf sites = (rule.run? sites).toList := by
  rcases eq_or_ne sites [] with rfl | hne
  · rfl
  · have hchain : sites.IsChain fun a b => (rule.brandAt a && rule.brandAt b) = true := by
      refine List.Pairwise.isChain (List.pairwise_of_forall_mem_list fun a ha b hb => ?_)
      rw [h a ha, h b hb]
      rfl
    have hall : sites.all rule.brandAt = true := List.all_eq_true.mpr h
    rw [runsOf, List.splitBy_of_isChain hne hchain]
    cases hrun : rule.run? sites <;> simp [hall, hrun]

/-- An operand that is no brand check parts the runs on its two sides. -/
theorem runsOf_append_cons {sites sites' : List Site}
    {site : Site} (h : rule.brandAt site = false) :
    rule.runsOf (sites ++ site :: sites') = rule.runsOf sites ++ rule.runsOf sites' := by
  have hbefore : ∀ x ∈ sites.getLast?, (rule.brandAt x && rule.brandAt site) = false := by
    simp [h]
  have hafter : ∀ x ∈ [site].getLast?, ∀ y ∈ sites'.head?,
      (rule.brandAt x && rule.brandAt y) = false := by
    simp [h]
  have hsingle : [site].splitBy (fun a b => rule.brandAt a && rule.brandAt b) = [[site]] :=
    List.splitBy_of_isChain (List.cons_ne_nil _ _) (List.isChain_singleton _)
  rw [runsOf, List.splitBy_append_cons _ hbefore, ← List.singleton_append,
    List.splitBy_append hafter, hsingle]
  simp [runsOf, h]

/-- The first run and those behind the operand that ends it. -/
theorem runsOf_eq (sites : List Site) :
    rule.runsOf sites = (rule.run? (sites.takeWhile rule.brandAt)).toList ++
      rule.runsOf (sites.drop ((sites.takeWhile rule.brandAt).length + 1)) := by
  have hall : ∀ site ∈ sites.takeWhile rule.brandAt,
      rule.brandAt site = true := fun _ hsite => List.mem_takeWhile_imp hsite
  have hsplit := List.takeWhile_append_dropWhile (p := rule.brandAt) (l := sites)
  generalize sites.takeWhile rule.brandAt = stretch at hall hsplit ⊢
  cases hrest : sites.dropWhile rule.brandAt with
  | nil =>
    rw [hrest, List.append_nil] at hsplit
    rw [← hsplit, List.drop_of_length_le (Nat.le_succ _), runsOf_of_all hall]
    exact (List.append_nil _).symm
  | cons site rest =>
    have hsite : rule.brandAt site = false := by
      have := List.head?_dropWhile_not rule.brandAt sites
      simpa [hrest] using this
    rw [hrest] at hsplit
    rw [← hsplit, runsOf_append_cons hsite, runsOf_of_all hall, List.drop_length_add_append]
    rfl

/-- The leftmost operand alone is no run of any logical expression. -/
theorem runsOf_bottom (e : Expr) : rule.runsOf [(none, e)] = [] := by
  cases hb : rule.brandAt (none, e) with
  | false =>
    have hparted : rule.runsOf ([] ++ [(none, e)]) = rule.runsOf [] ++ rule.runsOf [] :=
      runsOf_append_cons hb
    exact hparted
  | true => exact runsOf_of_all (by simpa using hb)

/-! ### Walks among operands that have not been looked at -/

/-- A walk among such operands goes on to the first that is no brand check, and looks at it too. -/
theorem examine_of_nodup {es : List Expr} {seen : Seen}
    (h : (es.flatMap Expr.trail ++ seen.spans).Nodup) :
    (examine rule es seen).1 = es.takeWhile rule.isBrand ∧
      (examine rule es seen).2.spans =
        ((es.take ((es.takeWhile rule.isBrand).length + 1)).flatMap Expr.trail).reverse ++
          seen.spans := by
  induction es generalizing seen with
  | nil => exact ⟨rfl, rfl⟩
  | cons e es ih =>
    rw [List.flatMap_cons, List.append_assoc] at h
    have he : (e.trail ++ seen.spans).Nodup :=
      h.sublist ((List.sublist_append_right _ _).append_left _)
    have hspans : (callee rule e seen).2.spans = e.trail.reverse ++ seen.spans :=
      (callee_of_nodup he).2
    rw [examine_cons_of_nodup he]
    cases hb : rule.isBrand e with
    | false => simp [hb, hspans]
    | true =>
      -- what the look at `e` records differs from all that comes later
      have hrest : (es.flatMap Expr.trail ++ (callee rule e seen).2.spans).Nodup := by
        rw [hspans]
        exact Seen.nodup_append_recorded h
      obtain ⟨hcounted, hafter⟩ := ih hrest
      simp [hb, hcounted, hafter, hspans]

/-! ### Checks down one chain -/

theorem map_snd_sites (e : Expr) : e.sites.map Prod.snd = e.operands := by
  refine List.map_snd_zip ?_
  rw [e.length_operands]
  simp

/-- The first run among sites is as long as the brand checks at the head of their operands. -/
theorem takeWhile_operands (e : Expr) :
    e.operands.takeWhile rule.isBrand = (e.sites.takeWhile rule.brandAt).map Prod.snd := by
  rw [← map_snd_sites, List.takeWhile_map]
  rfl

/-- What the outermost check of a chain reports, when none of its operands has been looked at. -/
theorem report?_of_nodup {l : Logical} {seen : Seen}
    (h : (l.operands.flatMap Expr.trail ++ seen.spans).Nodup) :
    (report? rule l seen).toList =
      (rule.run? (l.sites.takeWhile rule.brandAt)).toList.filter
        fun run => rule.limit < run.names.length := by
  have hsites : l.sites = (some l, l.right) :: l.left.sites := rfl
  rw [report?, counted?, (examine_of_nodup h).1, Logical.operands, hsites]
  cases hb : rule.isBrand l.right with
  | false => simp [brandAt, hb, run?, calls]
  | true =>
    have hsite : rule.brandAt (some l, l.right) = true := hb
    rw [List.takeWhile_cons_of_pos hb, List.takeWhile_cons_of_pos hsite, takeWhile_operands, run?]
    by_cases hlim : rule.limit <
        (calls rule (l.right :: (l.left.sites.takeWhile rule.brandAt).map Prod.snd)).length
    · simp [hlim, CountedChain.run, CountedChain.calls]
    · simp [hlim]

/-- The outermost check of such a chain looks at the operands of the first run and at the one that
ends it; all the others stay as they are. -/
theorem check_snd_of_nodup (hm : ¬ rule.methods.isEmpty) {l : Logical} {seen : Seen} {k : ℕ}
    (hk : (l.operands.takeWhile rule.isBrand).length = k)
    (h : (l.operands.flatMap Expr.trail ++ seen.spans).Nodup) :
    (∀ o ∈ l.left.operands.take k, o.bare.span ∈ (check rule l seen).2.spans) ∧
      ((l.left.operands.drop k).flatMap Expr.trail ++ (check rule l seen).2.spans).Nodup ∧
      ∀ s ∈ (check rule l seen).2.spans, s ∈ l.operands.flatMap Expr.trail ∨ s ∈ seen.spans := by
  have hafter : (check rule l seen).2.spans =
      ((l.operands.take (k + 1)).flatMap Expr.trail).reverse ++ seen.spans := by
    rw [check_snd hm, (examine_of_nodup h).2, hk]
  have hsplit : l.operands.take (k + 1) ++ l.left.operands.drop k = l.operands :=
    List.take_append_drop (k + 1) l.operands
  rw [hafter]
  refine ⟨fun o ho => ?_, ?_, fun s hs => ?_⟩
  · have ho' : o ∈ l.operands.take (k + 1) := List.mem_cons_of_mem _ ho
    simp only [List.mem_append, List.mem_reverse, List.mem_flatMap]
    exact Or.inl ⟨o, ho', o.bare_span_mem_trail⟩
  · refine Seen.nodup_append_recorded ?_
    rw [← List.append_assoc, ← List.flatMap_append, hsplit]
    exact h
  · rw [List.mem_append, List.mem_reverse] at hs
    rw [← hsplit, List.flatMap_append, List.mem_append]
    exact hs.imp_left Or.inl

/-- **Checks down one chain**, the outermost first, when its first `n` operands have been looked at
and no other node of it has: they report the runs behind these operands, and look at nothing else. -/
theorem reports_links (hm : ¬ rule.methods.isEmpty) : ∀ (e : Expr) (n : ℕ) (seen : Seen),
    (∀ o ∈ e.operands.take n, o.bare.span ∈ seen.spans) →
    ((e.operands.drop n).flatMap Expr.trail ++ seen.spans).Nodup →
    reports rule e.links seen =
        (rule.runsOf (e.sites.drop n)).filter (fun run => rule.limit < run.names.length) ∧
      ∀ s ∈ (checkAll rule e.links seen).2.spans,
        s ∈ (e.operands.drop n).flatMap Expr.trail ∨ s ∈ seen.spans
  | .paren _ e, n, seen, hstale, hfresh => reports_links hm e n seen hstale hfresh
  | .logical s op left right, n + 1, seen, hstale, hfresh => by
    have hright : right.bare.span ∈ seen.spans := hstale right List.mem_cons_self
    have hcheck : check rule ⟨s, op, left, right⟩ seen = (none, seen) := check_of_mem hright
    have hreport : report? rule ⟨s, op, left, right⟩ seen = none := report?_of_mem hright
    rw [Expr.links, checkAll_cons, reports_cons, hreport, hcheck]
    exact reports_links hm left n seen (fun o ho => hstale o (List.mem_cons_of_mem _ ho)) hfresh
  | .logical s op left right, 0, seen, _, hfresh => by
    let l : Logical := ⟨s, op, left, right⟩
    -- the check of `l` uses up the first run, and with it the operand that ends the run
    let k := (l.operands.takeWhile rule.isBrand).length
    have hlen : (l.sites.takeWhile rule.brandAt).length = k := by
      rw [← List.length_map Prod.snd]
      exact congrArg List.length (takeWhile_operands (.logical s op left right)).symm
    have hnodup : (l.operands.flatMap Expr.trail ++ seen.spans).Nodup := hfresh
    obtain ⟨hstale, hrest, hseen⟩ := check_snd_of_nodup hm rfl hnodup
    obtain ⟨hfound, hseen'⟩ := reports_links hm left k (check rule l seen).2 hstale hrest
    refine ⟨?_, fun t ht => ?_⟩
    · have hruns : rule.runsOf l.sites =
          (rule.run? (l.sites.takeWhile rule.brandAt)).toList ++ rule.runsOf (left.sites.drop k) := by
        rw [runsOf_eq, hlen]
        rfl
      have hreports : reports rule (l :: left.links) seen =
          (rule.runsOf l.sites).filter fun run => rule.limit < run.names.length := by
        rw [reports_cons, hfound, report?_of_nodup hnodup, hruns, List.filter_append]
      exact hreports
    · rcases hseen' t ht with hin | hin
      · left
        obtain ⟨o, ho, hto⟩ := List.mem_flatMap.mp hin
        exact List.mem_flatMap.mpr ⟨o, List.mem_cons_of_mem _ (List.mem_of_mem_drop ho), hto⟩
      · exact hseen t hin
  | .name s t, n, seen, _, _ | .call s f args, n, seen, _, _ | .not s e, n, seen, _, _
  | .other s parts, n, seen, _, _ => by
    refine ⟨?_, fun t ht => Or.inr ht⟩
    cases n with
    | zero => exact (congrArg (List.filter _) (runsOf_bottom _)).symm
    | succ n => exact congrArg (fun sites => (rule.runsOf sites).filter _) List.drop_nil.symm

/-! ### The whole traversal -/

/-- Checks down one chain after another. -/
theorem reports_flatMap_links (hm : ¬ rule.methods.isEmpty) (cs : List Logical) (seen : Seen)
    (h : ((cs.flatMap fun l => l.operands.flatMap Expr.trail) ++ seen.spans).Nodup) :
    reports rule (cs.flatMap Logical.links) seen =
      (cs.flatMap rule.runs).filter fun run => rule.limit < run.names.length := by
  induction cs generalizing seen with
  | nil => rfl
  | cons l cs ih =>
    rw [List.flatMap_cons, List.append_assoc, List.nodup_append'] at h
    obtain ⟨hl, hrest, hdisj⟩ := h
    have hfresh : (l.operands.flatMap Expr.trail ++ seen.spans).Nodup :=
      List.nodup_append'.mpr ⟨hl, seen.nodup, fun s hs hs' => hdisj hs (List.mem_append_right _ hs')⟩
    have hchain := reports_links hm (.logical l.span l.op l.left l.right) 0 seen
      (fun _ ho => absurd ho List.not_mem_nil) hfresh
    obtain ⟨hfound, hseen⟩ : reports rule l.links seen =
        (rule.runs l).filter (fun run => rule.limit < run.names.length) ∧
      ∀ s ∈ (checkAll rule l.links seen).2.spans,
        s ∈ l.operands.flatMap Expr.trail ∨ s ∈ seen.spans := hchain
    -- the checks of one chain look at its own nodes only, so the other chains stay fresh
    have hnext : ((cs.flatMap fun l => l.operands.flatMap Expr.trail) ++
        (checkAll rule l.links seen).2.spans).Nodup := by
      obtain ⟨hcs, -, hcs'⟩ := List.nodup_append'.mp hrest
      refine List.nodup_append'.mpr ⟨hcs, (checkAll rule l.links seen).2.nodup, fun s hs hs' => ?_⟩
      rcases hseen s hs' with hin | hin
      · exact hdisj hin (List.mem_append_left _ hs)
      · exact hcs' hs hin
    rw [List.flatMap_cons, List.flatMap_cons, reports_append, hfound, ih _ hnext, List.filter_append]

/-- Without methods no operand is a brand check, so a run names nothing. -/
theorem names_of_mem_runs (hm : rule.methods.isEmpty) {l : Logical} {run : Run}
    (h : run ∈ rule.runs l) : run.names = [] := by
  obtain ⟨stretch, -, hstretch⟩ := List.mem_filterMap.mp h
  match stretch with
  | [] | (none, _) :: _ => simp [run?] at hstretch
  | (some l, e) :: sites =>
    rw [run?, calls_of_isEmpty hm, Option.some.injEq] at hstretch
    rw [← hstretch]
    rfl

/-- The runs that the traversal of a program reports are those that are too long, when the nodes that
it may look at have distinct spans. -/
theorem reports_eq_runs {p : Program} (h : p.examined.Nodup) :
    reports rule p.logicals .empty =
      (p.chains.flatMap rule.runs).filter fun run => rule.limit < run.names.length := by
  by_cases hm : rule.methods.isEmpty
  · -- nothing is looked at, but then nothing is too long
    have hnone : ∀ run ∈ p.chains.flatMap rule.runs,
        ¬ (decide (rule.limit < run.names.length)) = true := by
      intro run hrun
      obtain ⟨l, -, hl⟩ := List.mem_flatMap.mp hrun
      simp [names_of_mem_runs hm hl]
    rw [reports_of_isEmpty hm, List.filter_eq_nil_iff.mpr hnone]
  · rw [p.logicals_eq_flatMap_links]
    refine reports_flatMap_links hm p.chains .empty ?_
    rw [p.examined_eq] at h
    simpa [Seen.empty] using h

/-- **The findings of a program are its overlong runs**, in the order of the traversal, when the nodes
that the traversal may look at have distinct spans.  Their names are the ones that the findings list,
when the methods of the rule are identifiers. -/
theorem chainFindings_eq_runs (rule : ChainRule) (p : Program) (h : p.examined.Nodup) :
    (chainFindings rule p).1 =
      ((p.chains.flatMap rule.runs).filter fun run => rule.limit < run.names.length).map
        Run.diagnostic ∧
    ((∀ name ∈ rule.methods, Text.IsName name) →
      (chainFindings rule p).1.map Diagnostic.listed =
        ((p.chains.flatMap rule.runs).filter fun run => rule.limit < run.names.length).map
          Run.names) := by
  rw [← reports_eq_runs h]
  exact ⟨checkAll_eq_map_reports rule p.logicals .empty,
    fun hm => checkAll_listed_eq_names hm p.logicals .empty⟩

/-- Of a rule that allows one brand check, both runs of the sample are found. -/
theorem chainFindings_twoRuns : Program.twoRuns.examined.Nodup ∧
    (chainFindings (abc 1) Program.twoRuns).1 =
      [.warning Rule.chainName ⟨0, 42⟩ (message ["isB", "isC"]),
        .warning Rule.chainName ⟨0, 14⟩ (message ["isA", "isB"])] ∧
    (chainFindings (abc 1) Program.twoRuns).1.map Diagnostic.listed =
      [["isB", "isC"], ["isA", "isB"]] := by
  have hd : Program.twoRuns.examined.Nodup := by decide
  obtain ⟨hfound, hlisted⟩ := chainFindings_eq_runs (abc 1) Program.twoRuns hd
  exact ⟨hd, hfound.trans rfl, (hlisted (by decide)).trans rfl⟩

end ChainRule

end ChainLint
