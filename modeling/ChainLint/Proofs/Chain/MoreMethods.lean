import ChainLint.Proofs.Chain.Runs

/-!
# More methods

When a rule knows more methods, its runs grow and join, and there may be fewer findings.  No run is
lost: the operands that part the runs under more methods part them under fewer, so every run lies in one
that starts where it starts or further out.

* `Expr.sites_ordered`: the logical expressions of a chain stand in the order of its sites.
* `exists_wider`: a run of a chain lies in one of more methods.
* `reports_more_methods`: the runs that the traversal of a program reports lie in those that it reports
  under more methods.
-/

namespace ChainLint

/-! ### The order of the sites -/

theorem Expr.mem_links_of_mem_sites {e o : Expr} {l : Logical} (h : (some l, o) ∈ e.sites) :
    l ∈ e.links := by
  have hroot : some l ∈ e.links.map some ++ [none] := (List.of_mem_zip h).1
  simpa using hroot

/-- A site at or before that of a logical expression belongs to one at or above it. -/
theorem Expr.sites_ordered : ∀ (e : Expr) {before mid : List Site} {x : Option Logical} {o o' : Expr}
    {l : Logical}, before ++ (x, o) :: mid = e.sites → (some l, o') ∈ (x, o) :: mid →
    ∃ l', x = some l' ∧ l ∈ l'.links
  | .paren _ e, _, _, _, _, _, _, hsites, hmem => sites_ordered e hsites hmem
  | .logical s op left right, [], mid, x, o, o', l, hsites, hmem => by
    let outer : Logical := ⟨s, op, left, right⟩
    have hsites' : (x, o) :: mid = (some outer, right) :: left.sites := hsites
    obtain ⟨hx, rfl⟩ := List.cons_eq_cons.mp hsites'
    refine ⟨outer, congrArg Prod.fst hx, ?_⟩
    rcases List.mem_cons.mp hmem with heq | hin
    · have hroot : some l = some outer := (congrArg Prod.fst heq).trans (congrArg Prod.fst hx)
      exact Option.some.inj hroot ▸ List.mem_cons_self
    · exact List.mem_cons_of_mem _ (mem_links_of_mem_sites hin)
  | .logical _ _ left _, _ :: before, _, _, _, _, _, hsites, hmem =>
    sites_ordered left (List.cons_eq_cons.mp hsites).2 hmem
  | .name _ _, before, _, _, _, _, _, hsites, hmem | .call _ _ _, before, _, _, _, _, _, hsites, hmem
  | .not _ _, before, _, _, _, _, _, hsites, hmem | .other _ _, before, _, _, _, _, _, hsites, hmem => by
    -- the only site is that of the node itself, which is no right operand
    have hall := hsites ▸ List.mem_append_right before hmem
    simp [Expr.sites, Expr.links, Expr.operands] at hall

namespace ChainRule

variable {rule rule' : ChainRule} {run : Run} {sites : List Site}

theorem run?_eq_some : rule.run? sites = some run ↔
    (∃ o rest, sites = (some run.root, o) :: rest) ∧
      run.names = ((rule.calls (sites.map Prod.snd)).map Prod.fst).reverse := by
  rcases sites with _ | ⟨⟨_ | l, o⟩, rest⟩
  · simp [run?]
  · simp [run?]
  · rw [run?, Option.some.injEq]
    constructor
    · rintro rfl
      exact ⟨⟨o, rest, rfl⟩, rfl⟩
    · rintro ⟨⟨o', rest', heq⟩, hnames⟩
      have hroot : some l = some run.root := congrArg Prod.fst (List.cons_eq_cons.mp heq).1
      obtain rfl := Option.some.inj hroot
      exact congrArg (Run.mk run.root) hnames.symm

/-- A run consists of brand checks that stand next to each other. -/
theorem exists_infix_of_mem_runsOf (h : run ∈ rule.runsOf sites) :
    ∃ stretch, stretch <:+: sites ∧ (∀ site ∈ stretch, rule.brandAt site = true) ∧
      rule.run? stretch = some run := by
  obtain ⟨stretch, hstretch, hrun⟩ := List.mem_filterMap.mp h
  obtain ⟨hin, hall⟩ := List.mem_filter.mp hstretch
  refine ⟨stretch, ?_, List.all_eq_true.mp hall, hrun⟩
  have hinfix := List.infix_of_mem_flatten hin
  rwa [List.flatten_splitBy] at hinfix

/-! ### Wider runs -/

section MoreMethods

variable (hsub : rule.methods ⊆ rule'.methods)
include hsub

theorem brandAt_mono {site : Site} (h : rule.brandAt site = true) : rule'.brandAt site = true := by
  obtain ⟨call, hcall⟩ := Option.isSome_iff_exists.mp h
  exact Option.isSome_iff_exists.mpr ⟨call, brandCall_mono hsub hcall⟩

/-- Brand checks make the same calls when more methods are known. -/
theorem calls_of_brand (h : ∀ site ∈ sites, rule.brandAt site = true) :
    rule'.calls (sites.map Prod.snd) = rule.calls (sites.map Prod.snd) := by
  refine List.filterMap_congr fun e he => ?_
  obtain ⟨site, hsite, rfl⟩ := List.mem_map.mp he
  obtain ⟨call, hcall⟩ := Option.isSome_iff_exists.mp (h site hsite)
  rw [hcall, brandCall_mono hsub hcall]

/-- A run among sites of a chain lies in the run that all of them make under more methods. -/
theorem exists_run_around {e : Expr} {before after : List Site}
    (hsites : before ++ (sites ++ after) = e.sites) (h : run ∈ rule.runsOf sites) :
    ∃ run', rule'.run? sites = some run' ∧ run.root ∈ run'.root.links ∧
      run.names <:+: run'.names := by
  obtain ⟨stretch, ⟨front, back, hinfix⟩, hbrand, hrun⟩ := exists_infix_of_mem_runsOf h
  obtain ⟨⟨o, rest, hstretch⟩, hnames⟩ := run?_eq_some.mp hrun
  have hmem : (some run.root, o) ∈ sites := by
    rw [← hinfix, hstretch]
    simp
  obtain ⟨⟨x, o'⟩, mid, rfl⟩ := List.exists_cons_of_ne_nil (List.ne_nil_of_mem hmem)
  obtain ⟨l', rfl, hlink⟩ := e.sites_ordered hsites (List.mem_append_left after hmem)
  refine ⟨⟨l', _⟩, rfl, hlink, ?_⟩
  have hcalls : rule'.calls (((some l', o') :: mid).map Prod.snd) =
      rule'.calls (front.map Prod.snd) ++ rule.calls (stretch.map Prod.snd) ++
        rule'.calls (back.map Prod.snd) := by
    rw [← hinfix, ← calls_of_brand hsub hbrand]
    simp [calls]
  have hnames' : ((rule'.calls (((some l', o') :: mid).map Prod.snd)).map Prod.fst).reverse =
      ((rule'.calls (back.map Prod.snd)).map Prod.fst).reverse ++ run.names ++
        ((rule'.calls (front.map Prod.snd)).map Prod.fst).reverse := by
    rw [hcalls, hnames]
    simp
  exact ⟨_, _, hnames'.symm⟩

/-- **A run of a chain lies in one of more methods**, which belongs to the same logical expression or to
one above it. -/
theorem exists_wider (e : Expr) (before sites : List Site) (hsites : before ++ sites = e.sites)
    (h : run ∈ rule.runsOf sites) :
    ∃ run' ∈ rule'.runsOf sites, run.root ∈ run'.root.links ∧ run.names <:+: run'.names := by
  cases hfind : sites.find? fun site => !rule'.brandAt site with
  | none =>
    -- under more methods all of them are one run
    have hall : ∀ site ∈ sites, rule'.brandAt site = true := by
      simpa using List.find?_eq_none.mp hfind
    have hsites' : before ++ (sites ++ []) = e.sites := by rwa [List.append_nil]
    obtain ⟨run', hrun', hwider⟩ := exists_run_around hsub hsites' h
    refine ⟨run', ?_, hwider⟩
    rw [runsOf_of_all hall, hrun']
    exact List.mem_singleton_self run'
  | some site =>
    obtain ⟨hparts, stretch, rest, hsplit, hstretch⟩ := List.find?_eq_some_iff_append.mp hfind
    have hall : ∀ site ∈ stretch, rule'.brandAt site = true := by simpa using hstretch
    have hsite' : rule'.brandAt site = false := by simpa using hparts
    -- the operand that ends the run of more methods parts the runs of fewer, too
    have hsite : rule.brandAt site = false := by
      rw [Bool.eq_false_iff] at hsite' ⊢
      exact fun hbrand => hsite' (brandAt_mono hsub hbrand)
    rw [hsplit, runsOf_append_cons hsite, List.mem_append] at h
    rw [hsplit, runsOf_append_cons hsite']
    rcases h with hin | hin
    · -- the run lies before that operand, where all are one run under more methods
      obtain ⟨run', hrun', hwider⟩ := exists_run_around hsub (hsplit ▸ hsites) hin
      refine ⟨run', List.mem_append_left _ ?_, hwider⟩
      rw [runsOf_of_all hall, hrun']
      exact List.mem_singleton_self run'
    · -- or it lies behind it, among fewer sites
      have hsites' : (before ++ (stretch ++ [site])) ++ rest = e.sites := by
        rw [← hsites, hsplit]
        simp
      have hshorter : rest.length < sites.length := by
        rw [hsplit, List.length_append, List.length_cons]
        omega
      obtain ⟨run', hrun', hwider⟩ := exists_wider e _ rest hsites' hin
      exact ⟨run', List.mem_append_right _ hrun', hwider⟩
termination_by sites.length

end MoreMethods

/-! ### The whole traversal -/

/-- **More methods hide no chain.**  When the nodes that the traversal of a program may look at have
distinct spans, every run that it reports lies in one that it reports under more methods: there the names
stand among other names, at the same logical expression or at one above it on its chain.  The names of
a run are the ones that its finding lists, when the methods are identifiers. -/
theorem reports_more_methods {p : Program} (hd : p.examined.Nodup) (limit : ℕ)
    {methods methods' : List String} (hsub : methods ⊆ methods') :
    (chainFindings ⟨limit, methods⟩ p).1 =
      (reports ⟨limit, methods⟩ p.logicals .empty).map Run.diagnostic ∧
    (chainFindings ⟨limit, methods'⟩ p).1 =
      (reports ⟨limit, methods'⟩ p.logicals .empty).map Run.diagnostic ∧
    ((∀ name ∈ methods', Text.IsName name) →
      (chainFindings ⟨limit, methods⟩ p).1.map Diagnostic.listed =
        (reports ⟨limit, methods⟩ p.logicals .empty).map Run.names ∧
      (chainFindings ⟨limit, methods'⟩ p).1.map Diagnostic.listed =
        (reports ⟨limit, methods'⟩ p.logicals .empty).map Run.names) ∧
    ∀ run ∈ reports ⟨limit, methods⟩ p.logicals .empty,
      ∃ run' ∈ reports ⟨limit, methods'⟩ p.logicals .empty,
        run.root ∈ run'.root.links ∧ run.names <:+: run'.names := by
  have hmore : (⟨limit, methods⟩ : ChainRule).methods ⊆ (⟨limit, methods'⟩ : ChainRule).methods :=
    hsub
  refine ⟨checkAll_eq_map_reports _ _ _, checkAll_eq_map_reports _ _ _, fun hnames => ⟨?_, ?_⟩,
    fun run hrun => ?_⟩
  · exact checkAll_listed_eq_names (fun name hname => hnames name (hsub hname)) _ _
  · exact checkAll_listed_eq_names hnames _ _
  · rw [reports_eq_runs hd, List.mem_filter, List.mem_flatMap] at hrun
    obtain ⟨⟨l, hl, hin⟩, hlong⟩ := hrun
    have hlim : limit < run.names.length := by simpa using hlong
    obtain ⟨run', hin', hroot, hnames⟩ :=
      exists_wider hmore (.logical l.span l.op l.left l.right) [] l.sites rfl hin
    have hlim' : limit < run'.names.length := Nat.lt_of_lt_of_le hlim hnames.length_le
    refine ⟨run', ?_, hroot, hnames⟩
    rw [reports_eq_runs hd, List.mem_filter, List.mem_flatMap]
    exact ⟨⟨l, hl, hin'⟩, by simpa using hlim'⟩

/-- With one method the sample has two runs of one brand check.  With three methods one of them stands in
a run that starts further out, and the other in one that starts at the same place. -/
theorem reports_more_methods_twoRuns :
    Program.twoRuns.examined.Nodup ∧ ["isB"] ⊆ ["isA", "isB", "isC"] ∧
    (reports ⟨0, ["isB"]⟩ Program.twoRuns.logicals .empty).map
      (fun run => (run.root.span, run.names)) = [(⟨0, 32⟩, ["isB"]), (⟨0, 14⟩, ["isB"])] ∧
    (∀ run ∈ reports ⟨0, ["isB"]⟩ Program.twoRuns.logicals .empty,
      ∃ run' ∈ reports ⟨0, ["isA", "isB", "isC"]⟩ Program.twoRuns.logicals .empty,
        run.root ∈ run'.root.links ∧ run.names <:+: run'.names) ∧
    (chainFindings ⟨0, ["isA", "isB", "isC"]⟩ Program.twoRuns).1.map Diagnostic.listed =
      [["isB", "isC"], ["isA", "isB"]] ∧
    (reports ⟨0, ["isA", "isB", "isC"]⟩ Program.twoRuns.logicals .empty).map
      (fun run => (run.root.span, run.names)) =
        [(⟨0, 42⟩, ["isB", "isC"]), (⟨0, 14⟩, ["isA", "isB"])] := by
  have hd : Program.twoRuns.examined.Nodup := by decide
  have hsub : ["isB"] ⊆ ["isA", "isB", "isC"] := by simp
  obtain ⟨-, -, hlisted, hwider⟩ := reports_more_methods hd 0 hsub
  exact ⟨hd, hsub, by decide, hwider, ((hlisted (by decide)).2).trans (by decide), by decide⟩

end ChainRule

end ChainLint
