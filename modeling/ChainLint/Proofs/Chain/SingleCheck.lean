import ChainLint.Proofs.Chain.Counted
import ChainLint.Proofs.Chain.Spine

/-!
# One check

What one check does is told by rules, for any spans that are recorded already and any spans of the
nodes, which may collide: `Look` is a look at one node, and `Walk` goes through operands until a look
fails.

* `Look rule known e found new`: with the spans `known` recorded, a look at `e` finds the method
  `found`, and it records the spans `new` in turn.
* `Walk rule known es names new`: a walk through `es` finds the methods `names` and records `new`.
* `Look.iff`, `Walk.iff`: the check looks and walks by these rules.
* `check_exact`: what a check reports and records.
* `examine_mono`, `check_of_subset`: when more is recorded beforehand, a walk only ends earlier.
-/

namespace ChainLint

theorem Expr.bare_ne_paren : ∀ (e : Expr) (s : Span) (inner : Expr), e.bare ≠ .paren s inner
  | .paren _ e, s, inner => bare_ne_paren e s inner
  | .name _ _, _, _ | .call _ _ _, _, _ | .logical _ _ _ _, _, _ | .not _ _, _, _
  | .other _ _, _, _ => fun h => by cases h

namespace ChainRule

variable {rule : ChainRule} {known new : List Span} {e : Expr} {es : List Expr}
  {found : Option String} {names : List String} {seen seen' : Seen}

/-! ### A look at one node -/

/-- A look at a node, when the spans `known` are recorded: the method that the node is found to call
as a brand check, and the spans that the look records in turn. -/
inductive Look (rule : ChainRule) : List Span → Expr → Option String → List Span → Prop
  /-- A node that is recorded already is not looked at. -/
  | known {known : List Span} {e : Expr} (hknown : e.bare.span ∈ known) : Look rule known e none []
  /-- A look at a negation goes on to what it negates. -/
  | negation {known new : List Span} {e arg : Expr} {s : Span} {found : Option String}
      (he : e.bare = .not s arg) (hnew : s ∉ known) (harg : Look rule (s :: known) arg found new) :
      Look rule known e found (s :: new)
  /-- A call of a method by its name is a brand check. -/
  | brand {known : List Span} {e f : Expr} {args : List Expr} {s t : Span} {name : String}
      (he : e.bare = .call s f args) (hnew : s ∉ known) (hf : f.bare = .name t name)
      (hname : name ∈ rule.methods) : Look rule known e (some name) [s]
  /-- Any other node is recorded and is no brand check. -/
  | other {known : List Span} {e : Expr} (hnew : e.bare.span ∉ known)
      (hnot : ∀ s arg, e.bare ≠ .not s arg)
      (hcall : ∀ s f args t name, e.bare = .call s f args → f.bare = .name t name →
        name ∉ rule.methods) : Look rule known e none [e.bare.span]

theorem callee_bare (rule : ChainRule) : ∀ (e : Expr) (seen : Seen),
    callee rule e seen = callee rule e.bare seen
  | .paren _ e, seen => callee_bare rule e seen
  | .name _ _, _ | .call _ _ _, _ | .logical _ _ _ _, _ | .not _ _, _ | .other _ _, _ => rfl

section New

variable {s : Span} (hs : s ∉ seen.spans)
include hs

theorem callee_not (arg : Expr) :
    callee rule (.not s arg) seen = callee rule arg (seen.record s) := by
  rw [callee, if_neg (mt Seen.contains_iff.mp hs)]

theorem callee_call (f : Expr) (args : List Expr) :
    callee rule (.call s f args) seen = (calledMethod rule f, seen.record s) := by
  rw [callee, if_neg (mt Seen.contains_iff.mp hs)]

end New

/-- Parentheses around a node change nothing for a look at it. -/
theorem Look.of_bare_eq {e' : Expr} (heq : e'.bare = e.bare) (h : Look rule known e found new) :
    Look rule known e' found new := by
  cases h with
  | known hknown => exact .known (by rwa [heq])
  | negation he hnew harg => exact .negation (heq.trans he) hnew harg
  | brand he hnew hf hname => exact .brand (heq.trans he) hnew hf hname
  | other hnew hnot hcall =>
    rw [← heq] at hnew hnot hcall ⊢
    exact .other hnew hnot hcall

theorem exists_look_of_mem (h : e.bare.span ∈ seen.spans) :
    ∃ new, Look rule seen.spans e (callee rule e seen).1 new := by
  rw [callee_of_mem h]
  exact ⟨[], .known h⟩

/-- Every look goes by one of the rules. -/
theorem exists_look (rule : ChainRule) : ∀ (e : Expr) (seen : Seen),
    ∃ new, Look rule seen.spans e (callee rule e seen).1 new
  | .paren s e, seen => by
    obtain ⟨new, hlook⟩ := exists_look rule e seen
    have hbare : (Expr.paren s e).bare = e.bare := rfl
    exact ⟨new, hlook.of_bare_eq hbare⟩
  | .not s arg, seen => by
    by_cases hs : s ∈ seen.spans
    · exact exists_look_of_mem hs
    · obtain ⟨new, hlook⟩ := exists_look rule arg (seen.record s)
      rw [Seen.spans_record hs] at hlook
      rw [callee_not hs]
      exact ⟨s :: new, .negation rfl hs hlook⟩
  | .call s f args, seen => by
    by_cases hs : s ∈ seen.spans
    · exact exists_look_of_mem hs
    · rw [callee_call hs]
      cases hm : calledMethod rule f with
      | some name =>
        obtain ⟨hname, t, hf⟩ := calledMethod_eq_some.mp hm
        exact ⟨[s], .brand rfl hs hf hname⟩
      | none =>
        refine ⟨[s], .other hs (fun _ _ h => by cases h) fun s' f' args' t name he hf hname => ?_⟩
        obtain ⟨-, rfl, -⟩ := Expr.call.inj he
        rw [calledMethod_eq_some.mpr ⟨hname, t, hf⟩] at hm
        cases hm
  | .name s text, seen | .logical s op left right, seen | .other s parts, seen => by
    by_cases hs : s ∈ seen.spans
    · exact exists_look_of_mem hs
    · exact ⟨[s], .other hs (fun _ _ h => by cases h) (fun _ _ _ _ _ h => by cases h)⟩

/-- What the rules say of a look is what it finds and records. -/
theorem Look.callee_eq (h : Look rule known e found new) (hseen : seen.spans = known) :
    (callee rule e seen).1 = found ∧ (callee rule e seen).2.spans = new.reverse ++ known := by
  induction h generalizing seen with
  | known hknown =>
    rw [callee_of_mem (hseen ▸ hknown)]
    exact ⟨rfl, hseen⟩
  | @negation known new e arg s found he hnew harg ih =>
    have hs : s ∉ seen.spans := hseen ▸ hnew
    have hrecord : (seen.record s).spans = s :: known := by rw [Seen.spans_record hs, hseen]
    rw [callee_bare, he, callee_not hs, List.reverse_cons, List.append_assoc]
    exact ih hrecord
  | @brand known e f args s t name he hnew hf hname =>
    have hs : s ∉ seen.spans := hseen ▸ hnew
    rw [callee_bare, he, callee_call hs]
    refine ⟨calledMethod_eq_some.mpr ⟨hname, t, hf⟩, ?_⟩
    rw [Seen.spans_record hs, hseen]
    rfl
  | @other known e hnew hnot hcall =>
    have hs : e.bare.span ∉ seen.spans := hseen ▸ hnew
    have hrecord : (seen.record e.bare.span).spans = [e.bare.span].reverse ++ known := by
      rw [Seen.spans_record hs, hseen]
      rfl
    rw [callee_bare]
    -- no rule for negations or brand checks applies, so the bare node itself is recorded
    cases he : e.bare with
    | paren s inner => exact absurd he (e.bare_ne_paren s inner)
    | not s arg => exact absurd he (hnot s arg)
    | call s f args =>
      rw [he, Expr.span] at hs hrecord
      have hnone : calledMethod rule f = none := by
        rw [Option.eq_none_iff_forall_ne_some]
        intro name hm
        obtain ⟨hname, t, hf⟩ := calledMethod_eq_some.mp hm
        exact hcall s f args t name he hf hname
      rw [callee_call hs]
      exact ⟨hnone, hrecord⟩
    | name s text | logical s op left right | other s parts =>
      rw [he] at hrecord
      exact ⟨rfl, hrecord⟩

/-- A look finds and records what the rules say, and nothing else. -/
theorem Look.iff : Look rule seen.spans e found new ↔
    (callee rule e seen).1 = found ∧ (callee rule e seen).2.spans = new.reverse ++ seen.spans := by
  refine ⟨fun h => h.callee_eq rfl, ?_⟩
  rintro ⟨rfl, hspans⟩
  obtain ⟨new', hlook⟩ := exists_look rule e seen
  have hspans' := (hlook.callee_eq rfl).2
  rw [hspans] at hspans'
  have hnew : new = new' := List.reverse_injective (List.append_cancel_right hspans')
  exact hnew ▸ hlook

/-! ### A walk through operands -/

/-- A walk through operands, when the spans `known` are recorded: it looks at one after another until
a look fails.  The methods that it finds, and the spans that it records in turn. -/
inductive Walk (rule : ChainRule) : List Span → List Expr → List String → List Span → Prop
  /-- No operand is left. -/
  | done {known : List Span} : Walk rule known [] [] []
  /-- The walk ends at an operand that is found to be no brand check. -/
  | fail {known new : List Span} {e : Expr} {es : List Expr} (hlook : Look rule known e none new) :
      Walk rule known (e :: es) [] new
  /-- The walk goes on after a brand check. -/
  | pass {known new new' : List Span} {e : Expr} {es : List Expr} {name : String}
      {names : List String} (hlook : Look rule known e (some name) new)
      (hrest : Walk rule (new.reverse ++ known) es names new') :
      Walk rule known (e :: es) (name :: names) (new ++ new')

/-- Every walk goes by the rules. -/
theorem exists_walk (rule : ChainRule) (es : List Expr) (seen : Seen) :
    ∃ new, Walk rule seen.spans es ((calls rule (examine rule es seen).1).map Prod.fst) new := by
  induction es generalizing seen with
  | nil => exact ⟨[], .done⟩
  | cons e es ih =>
    obtain ⟨new, hlook⟩ := exists_look rule e seen
    cases hc : (callee rule e seen).1 with
    | none =>
      rw [hc] at hlook
      rw [examine_cons_of_none hc]
      exact ⟨new, .fail hlook⟩
    | some name =>
      obtain ⟨new', hrest⟩ := ih (callee rule e seen).2
      rw [(hlook.callee_eq rfl).2] at hrest
      rw [hc] at hlook
      rw [examine_cons_of_some hc, calls_cons_of_some hc]
      exact ⟨new ++ new', .pass hlook hrest⟩

/-- What the rules say of a walk is what it finds and records. -/
theorem Walk.examine_eq (h : Walk rule known es names new) (hseen : seen.spans = known) :
    (calls rule (examine rule es seen).1).map Prod.fst = names ∧
      (examine rule es seen).2.spans = new.reverse ++ known := by
  induction h generalizing seen with
  | done => exact ⟨rfl, hseen⟩
  | fail hlook =>
    obtain ⟨hc, hspans⟩ := hlook.callee_eq hseen
    rw [examine_cons_of_none hc]
    exact ⟨rfl, hspans⟩
  | pass hlook hrest ih =>
    obtain ⟨hc, hspans⟩ := hlook.callee_eq hseen
    obtain ⟨hnames, hafter⟩ := ih hspans
    rw [examine_cons_of_some hc, calls_cons_of_some hc, hnames, hafter, List.reverse_append,
      List.append_assoc]
    exact ⟨rfl, rfl⟩

/-- A walk finds and records what the rules say, and nothing else. -/
theorem Walk.iff : Walk rule seen.spans es names new ↔
    (calls rule (examine rule es seen).1).map Prod.fst = names ∧
      (examine rule es seen).2.spans = new.reverse ++ seen.spans := by
  refine ⟨fun h => h.examine_eq rfl, ?_⟩
  rintro ⟨rfl, hspans⟩
  obtain ⟨new', hwalk⟩ := exists_walk rule es seen
  have hspans' := (hwalk.examine_eq rfl).2
  rw [hspans] at hspans'
  have hnew : new = new' := List.reverse_injective (List.append_cancel_right hspans')
  exact hnew ▸ hwalk

/-- A walk finds something if its first look does. -/
theorem Walk.names_ne_nil_iff (h : Walk rule seen.spans (e :: es) names new) :
    names ≠ [] ↔ ∃ name ss, Look rule seen.spans e (some name) ss := by
  cases h with
  | fail hlook =>
    refine ⟨fun hne => absurd rfl hne, ?_⟩
    rintro ⟨name, ss, hlook'⟩
    have hsame : none = some name := (Look.iff.mp hlook).1.symm.trans (Look.iff.mp hlook').1
    cases hsame
  | pass hlook hrest => exact ⟨fun _ => ⟨_, _, hlook⟩, fun _ => List.cons_ne_nil _ _⟩

/-! ### The check -/

/-- A check reports its names if they are too many. -/
theorem check_eq_some_iff {l : Logical} {d : Diagnostic} : (check rule l seen).1 = some d ↔
    rule.limit < (collect rule l seen).1.length ∧
      d = .warning Rule.chainName l.span (message (collect rule l seen).1.reverse) := by
  rw [check_fst_eq_finding, finding]
  split_ifs with hlim
  · simp only [hlim, true_and, Option.some.injEq]
    exact eq_comm
  · simp [hlim]

/-- What a check reports lists the names that it collects, from left to right, when the methods of the
rule are identifiers. -/
theorem listed_of_check {l : Logical} {d : Diagnostic}
    (hm : ∀ name ∈ rule.methods, Text.IsName name) (h : (check rule l seen).1 = some d) :
    d.listed = (collect rule l seen).1.reverse := by
  obtain ⟨-, rfl⟩ := check_eq_some_iff.mp h
  refine listed_warning (fun name hname => ?_) l.span
  rw [List.mem_reverse, collect_eq] at hname
  exact isName_of_mem_calls hm name hname

/-- **One check, exactly.**  Without methods a check finds and records nothing.  With methods, the
rules of a walk through the operands of the chain, from the right operand down to the leftmost node,
determine some names and some spans.  The check reports the names, from left to right, if they are
more than the rule allows, and it records the spans, whether it reports or not.  There are names only
if the right operand was found to be a brand check.  When the methods are identifiers, a report lists
these names. -/
theorem check_exact (rule : ChainRule) (l : Logical) (seen : Seen) :
    (rule.methods = [] → check rule l seen = (none, seen)) ∧
    (rule.methods ≠ [] → ∃ names new,
      (∀ names' new', Walk rule seen.spans (l.links.map Logical.right ++ [l.left.leftmost])
        names' new' ↔ names' = names ∧ new' = new) ∧
      (check rule l seen).1 =
        (if rule.limit < names.length then
          some (.warning Rule.chainName l.span (message names.reverse)) else none) ∧
      ((∀ name ∈ rule.methods, Text.IsName name) →
        ∀ d, (check rule l seen).1 = some d → d.listed = names.reverse) ∧
      (check rule l seen).2.spans = new.reverse ++ seen.spans ∧
      (names ≠ [] ↔ ∃ name ss, Look rule seen.spans l.right (some name) ss)) := by
  constructor
  · intro hm
    exact check_of_isEmpty (List.isEmpty_iff.mpr hm)
  · intro hm
    have hm' : ¬ rule.methods.isEmpty := mt List.isEmpty_iff.mp hm
    obtain ⟨new, hwalk⟩ := exists_walk rule l.operands seen
    obtain ⟨-, hspans⟩ := Walk.iff.mp hwalk
    refine ⟨(collect rule l seen).1, new, fun names' new' => ?_, ?_,
      fun hnames d hd => listed_of_check hnames hd, ?_, ?_⟩
    · rw [← l.operands_eq_rights, Walk.iff, hspans, collect_eq]
      constructor
      · rintro ⟨hnames, hnew⟩
        exact ⟨hnames.symm, (List.reverse_injective (List.append_cancel_right hnew)).symm⟩
      · rintro ⟨rfl, rfl⟩
        exact ⟨rfl, rfl⟩
    · exact check_fst_eq_finding rule l seen
    · rw [check_snd hm', hspans]
    · rw [collect_eq]
      exact hwalk.names_ne_nil_iff

/-- A chain `isB() && !isC()` whose two calls have the same span: the walk finds the right one, and the
left one is recorded by then. -/
theorem check_exact_collision :
    let l : Logical := ⟨⟨0, 15⟩, .and, .call ⟨10, 15⟩ (.name ⟨0, 3⟩ "isB") [],
      .not ⟨9, 15⟩ (.call ⟨10, 15⟩ (.name ⟨10, 13⟩ "isC") [])⟩
    check ⟨0, []⟩ l .empty = (none, .empty) ∧
    Walk (abc 0) [] (l.links.map Logical.right ++ [l.left.leftmost]) ["isC"] [⟨9, 15⟩, ⟨10, 15⟩] ∧
    (check (abc 0) l .empty).1 = some (.warning Rule.chainName ⟨0, 15⟩ (message ["isC"])) ∧
    (∀ d, (check (abc 0) l .empty).1 = some d → d.listed = ["isC"]) ∧
    (check (abc 0) l .empty).2.spans = [⟨10, 15⟩, ⟨9, 15⟩] := by
  intro l
  have hlook : Look (abc 0) [] l.right (some "isC") [⟨9, 15⟩, ⟨10, 15⟩] :=
    .negation rfl (by decide) (.brand rfl (by decide) rfl (by decide))
  have hwalk : Walk (abc 0) [] (l.links.map Logical.right ++ [l.left.leftmost]) ["isC"]
      [⟨9, 15⟩, ⟨10, 15⟩] := .pass hlook (.fail (.known (by decide)))
  obtain ⟨names, new, hiff, hfound, hlisted, hspans, -⟩ := (check_exact (abc 0) l .empty).2 (by decide)
  obtain ⟨rfl, rfl⟩ := (hiff _ _).mp hwalk
  exact ⟨(check_exact ⟨0, []⟩ l .empty).1 rfl, hwalk, hfound, hlisted (by decide), hspans⟩

/-! ### Less and more recorded beforehand -/

/-- What a look finds after more has been recorded, it finds after less. -/
theorem callee_mono {name : String} (hsub : seen.spans ⊆ seen'.spans)
    (h : (callee rule e seen').1 = some name) :
    (callee rule e seen).1 = some name ∧
      (callee rule e seen).2.spans ⊆ (callee rule e seen').2.spans := by
  rw [callee_eq] at h
  cases hall : (seen'.recordNew e.trail).1 with
  | false => simp [hall] at h
  | true =>
    obtain ⟨hall', hspans⟩ := Seen.recordNew_mono hsub hall
    rw [hall, cond_true] at h
    rw [callee_eq, callee_eq, hall', cond_true]
    exact ⟨h, hspans⟩

/-- A walk after more has been recorded counts the first of the operands that it counts after less:
up to its end both walks look at the same operands, and what is recorded stays included. -/
theorem examine_mono (hsub : seen.spans ⊆ seen'.spans) :
    (examine rule es seen').1 <+: (examine rule es seen).1 := by
  induction es generalizing seen seen' with
  | nil => exact List.nil_prefix
  | cons e es ih =>
    cases hc' : (callee rule e seen').1 with
    | none =>
      rw [examine_cons_of_none hc']
      exact List.nil_prefix
    | some name =>
      obtain ⟨hc, hspans⟩ := callee_mono hsub hc'
      rw [examine_cons_of_some hc, examine_cons_of_some hc', List.prefix_cons_inj]
      exact ih hspans

/-- The names that a check collects from right to left after more has been recorded are the first of
those that it collects after less. -/
theorem collect_mono (l : Logical) (hsub : seen.spans ⊆ seen'.spans) :
    (collect rule l seen').1 <+: (collect rule l seen).1 := by
  rw [collect_eq, collect_eq]
  exact ((examine_mono hsub).filterMap _).map _

/-- **More recorded beforehand can only shorten a report.**  If a check reports after more has been
recorded, it reports the same logical expression after less, and its names then end with those; so it
reports when nothing has been recorded.  When the methods are identifiers, the names are the ones that
the reports list. -/
theorem check_of_subset (rule : ChainRule) (l : Logical) (hsub : seen.spans ⊆ seen'.spans)
    {d : Diagnostic} (h : (check rule l seen').1 = some d) :
    d = .warning Rule.chainName l.span (message (collect rule l seen').1.reverse) ∧
    (check rule l seen).1 =
      some (.warning Rule.chainName l.span (message (collect rule l seen).1.reverse)) ∧
    (collect rule l seen').1.reverse <:+ (collect rule l seen).1.reverse ∧
    ((∀ name ∈ rule.methods, Text.IsName name) →
      ∀ d', (check rule l seen).1 = some d' → d.listed <:+ d'.listed) ∧
    ((check rule l .empty).1).isSome := by
  obtain ⟨hlim, hd⟩ := check_eq_some_iff.mp h
  have hempty : Seen.empty.spans ⊆ seen'.spans := List.nil_subset _
  have hfirst : (collect rule l seen').1 <+: (collect rule l seen).1 := collect_mono l hsub
  have hfresh : (collect rule l seen').1 <+: (collect rule l .empty).1 := collect_mono l hempty
  have hless : rule.limit < (collect rule l seen).1.length := by
    have := hfirst.length_le
    omega
  have hnothing : rule.limit < (collect rule l .empty).1.length := by
    have := hfresh.length_le
    omega
  have hsuffix : (collect rule l seen').1.reverse <:+ (collect rule l seen).1.reverse :=
    List.reverse_suffix.mpr hfirst
  refine ⟨hd, check_eq_some_iff.mpr ⟨hless, rfl⟩, hsuffix, fun hm d' hd' => ?_, ?_⟩
  · rwa [listed_of_check hm h, listed_of_check hm hd']
  · rw [check_eq_some_iff.mpr ⟨hnothing, rfl⟩]
    rfl

/-- A chain `isA() && isB() && !isC()` is reported without its first call when that has been looked at
before. -/
theorem check_of_subset_partial :
    let l : Logical := ⟨⟨0, 24⟩, .and, .logical ⟨0, 14⟩ .and (.call ⟨0, 5⟩ (.name ⟨0, 3⟩ "isA") [])
      (.call ⟨9, 14⟩ (.name ⟨9, 12⟩ "isB") []),
      .not ⟨18, 24⟩ (.call ⟨19, 24⟩ (.name ⟨19, 22⟩ "isC") [])⟩
    let seen := Seen.empty.record ⟨0, 5⟩
    (check (abc 1) l seen).1 = some (.warning Rule.chainName ⟨0, 24⟩ (message ["isB", "isC"])) ∧
    (check (abc 1) l .empty).1 =
      some (.warning Rule.chainName ⟨0, 24⟩ (message ["isA", "isB", "isC"])) ∧
    ["isB", "isC"] <:+ ["isA", "isB", "isC"] := by
  intro l seen
  have hsub : Seen.empty.spans ⊆ seen.spans := List.nil_subset _
  have hreported : (check (abc 1) l seen).1 =
      some (.warning Rule.chainName ⟨0, 24⟩ (message ["isB", "isC"])) := rfl
  obtain ⟨-, hfound, hsuffix, -, -⟩ := check_of_subset (abc 1) l hsub hreported
  exact ⟨hreported, hfound, hsuffix⟩

end ChainRule

end ChainLint
