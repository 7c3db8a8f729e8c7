import Mathlib.Logic.Relation
import ChainLint.Proofs.Chain.Relabel
import ChainLint.Proofs.Chain.Spine

/-!
# Chains under parentheses and other connectives

Parentheses, and which of the connectives joins two operands, make no difference to the checks of
chains.  An *edit* puts a pair of parentheses around one subexpression or replaces the connective of
one logical expression; edits may be made and taken back anywhere and any number of times.  The spans
of a program are arbitrary, those of the parentheses too.

* `Expr.Edit e e'`, `Expr.EditIn es es'`: `e'` is `e` after one edit.
* `Expr.skeleton e`: the expression without parentheses, with one connective for all.
* `Expr.eqvGen_editIn_iff`: edits connect just the expressions of one skeleton.
* `ChainRule.checkEach rule ls seen`: what each of several checks finds, and what has been looked at
  after it.
* `ChainRule.checkEach_skeleton`: the checks of skeletons.
* `ChainRule.checkEach_of_edits`: edits change neither what a check finds nor what it looks at.
-/

namespace ChainLint

namespace Expr

/-! ### Edits -/

mutual

/-- One edit at one place of an expression: parentheses around a subexpression, or another
connective. -/
inductive Edit : Expr → Expr → Prop
  | wrap (s : Span) (e : Expr) : Edit e (.paren s e)
  | connective (s : Span) (op op' : Connective) (l r : Expr) :
    Edit (.logical s op l r) (.logical s op' l r)
  | callee {f f' : Expr} (s : Span) (args : List Expr) (h : Edit f f') :
    Edit (.call s f args) (.call s f' args)
  | args {args args' : List Expr} (s : Span) (f : Expr) (h : EditIn args args') :
    Edit (.call s f args) (.call s f args')
  | left {l l' : Expr} (s : Span) (op : Connective) (r : Expr) (h : Edit l l') :
    Edit (.logical s op l r) (.logical s op l' r)
  | right {r r' : Expr} (s : Span) (op : Connective) (l : Expr) (h : Edit r r') :
    Edit (.logical s op l r) (.logical s op l r')
  | negated {e e' : Expr} (s : Span) (h : Edit e e') : Edit (.not s e) (.not s e')
  | inner {e e' : Expr} (s : Span) (h : Edit e e') : Edit (.paren s e) (.paren s e')
  | parts {parts parts' : List Expr} (s : Span) (h : EditIn parts parts') :
    Edit (.other s parts) (.other s parts')

/-- One edit at one place of several expressions. -/
inductive EditIn : List Expr → List Expr → Prop
  | head {e e' : Expr} (es : List Expr) (h : Edit e e') : EditIn (e :: es) (e' :: es)
  | tail {es es' : List Expr} (e : Expr) (h : EditIn es es') : EditIn (e :: es) (e :: es')

end

/-! ### Skeletons -/

mutual

/-- The expression without parentheses, with one connective for all. -/
def skeleton : Expr → Expr
  | .name s text => .name s text
  | .call s f args => .call s (skeleton f) (skeletons args)
  | .logical s _ l r => .logical s .and (skeleton l) (skeleton r)
  | .not s e => .not s (skeleton e)
  | .paren _ e => skeleton e
  | .other s parts => .other s (skeletons parts)

/-- The skeletons of several expressions. -/
def skeletons : List Expr → List Expr
  | [] => []
  | e :: es => skeleton e :: skeletons es

end

mutual

/-- An edit keeps the skeleton. -/
theorem skeleton_of_edit : ∀ {e e' : Expr}, Edit e e' → e'.skeleton = e.skeleton
  | _, _, .wrap _ _ => rfl
  | _, _, .connective _ _ _ _ _ => rfl
  | _, _, .callee _ _ h => by rw [skeleton, skeleton, skeleton_of_edit h]
  | _, _, .args _ _ h => by rw [skeleton, skeleton, skeletons_of_editIn h]
  | _, _, .left _ _ _ h => by rw [skeleton, skeleton, skeleton_of_edit h]
  | _, _, .right _ _ _ h => by rw [skeleton, skeleton, skeleton_of_edit h]
  | _, _, .negated _ h => by rw [skeleton, skeleton, skeleton_of_edit h]
  | _, _, .inner _ h => by rw [skeleton, skeleton, skeleton_of_edit h]
  | _, _, .parts _ h => by rw [skeleton, skeleton, skeletons_of_editIn h]

theorem skeletons_of_editIn : ∀ {es es' : List Expr}, EditIn es es' → skeletons es' = skeletons es
  | _, _, .head _ h => by rw [skeletons, skeletons, skeleton_of_edit h]
  | _, _, .tail _ h => by rw [skeletons, skeletons, skeletons_of_editIn h]

end

/-- Any number of edits, made or taken back, keeps the skeletons. -/
theorem skeletons_of_eqvGen {es es' : List Expr} (h : Relation.EqvGen EditIn es es') :
    skeletons es' = skeletons es := by
  induction h with
  | rel es es' h => exact skeletons_of_editIn h
  | refl es => rfl
  | symm es es' _ ih => exact ih.symm
  | trans es mid es' _ _ ih ih' => exact ih'.trans ih

/-- What one edit can do in a context, any number of edits can. -/
theorem eqvGen_lift {α β : Type} {r : α → α → Prop} {r' : β → β → Prop} (f : α → β)
    (hf : ∀ a b, r a b → r' (f a) (f b)) {a b : α} (h : Relation.EqvGen r a b) :
    Relation.EqvGen r' (f a) (f b) := by
  induction h with
  | rel a b h => exact .rel _ _ (hf a b h)
  | refl a => exact .refl _
  | symm a b _ ih => exact .symm _ _ ih
  | trans a b c _ _ ih ih' => exact .trans _ _ _ ih ih'

mutual

/-- Edits lead from an expression to its skeleton. -/
theorem eqvGen_edit_skeleton : ∀ e : Expr, Relation.EqvGen Edit e e.skeleton
  | .name _ _ => .refl _
  | .call s f args =>
    have hcallee : Relation.EqvGen Edit (.call s f args) (.call s f.skeleton args) :=
      eqvGen_lift (Expr.call s · args) (fun _ _ => .callee s args) (eqvGen_edit_skeleton f)
    have hargs : Relation.EqvGen Edit (.call s f.skeleton args)
        (.call s f.skeleton (skeletons args)) :=
      eqvGen_lift (Expr.call s f.skeleton) (fun _ _ => .args s f.skeleton)
        (eqvGen_editIn_skeletons args)
    hcallee.trans _ _ _ hargs
  | .logical s op l r =>
    have hleft : Relation.EqvGen Edit (.logical s op l r) (.logical s op l.skeleton r) :=
      eqvGen_lift (Expr.logical s op · r) (fun _ _ => .left s op r) (eqvGen_edit_skeleton l)
    have hright : Relation.EqvGen Edit (.logical s op l.skeleton r)
        (.logical s op l.skeleton r.skeleton) :=
      eqvGen_lift (Expr.logical s op l.skeleton) (fun _ _ => .right s op l.skeleton)
        (eqvGen_edit_skeleton r)
    hleft.trans _ _ _ (hright.trans _ _ _ (.rel _ _ (.connective s op .and _ _)))
  | .not s e => eqvGen_lift (Expr.not s) (fun _ _ => .negated s) (eqvGen_edit_skeleton e)
  | .paren s e => .trans _ _ _ (.symm _ _ (.rel _ _ (.wrap s e))) (eqvGen_edit_skeleton e)
  | .other s parts => eqvGen_lift (Expr.other s) (fun _ _ => .parts s) (eqvGen_editIn_skeletons parts)

theorem eqvGen_editIn_skeletons : ∀ es : List Expr, Relation.EqvGen EditIn es (skeletons es)
  | [] => .refl _
  | e :: es =>
    have hhead : Relation.EqvGen EditIn (e :: es) (e.skeleton :: es) :=
      eqvGen_lift (· :: es) (fun _ _ => .head es) (eqvGen_edit_skeleton e)
    have htail : Relation.EqvGen EditIn (e.skeleton :: es) (e.skeleton :: skeletons es) :=
      eqvGen_lift (e.skeleton :: ·) (fun _ _ => .tail e.skeleton) (eqvGen_editIn_skeletons es)
    hhead.trans _ _ _ htail

end

/-- Edits connect just the expressions of one skeleton. -/
theorem eqvGen_editIn_iff {es es' : List Expr} :
    Relation.EqvGen EditIn es es' ↔ skeletons es' = skeletons es := by
  refine ⟨skeletons_of_eqvGen, fun h => ?_⟩
  have hes' := eqvGen_editIn_skeletons es'
  rw [h] at hes'
  exact .trans _ _ _ (eqvGen_editIn_skeletons es) (.symm _ _ hes')

end Expr

/-! ### Checks -/

/-- A logical expression without parentheses, with one connective for all. -/
def Logical.skeleton (l : Logical) : Logical := ⟨l.span, .and, l.left.skeleton, l.right.skeleton⟩

namespace Expr

mutual

/-- The traversal of a skeleton meets the skeletons of the logical expressions. -/
theorem logicals_skeleton : ∀ e : Expr, e.skeleton.logicals = e.logicals.map Logical.skeleton
  | .name _ _ => rfl
  | .call _ f args => by
    rw [skeleton, logicals, logicals, logicals_skeleton f, logicalsIn_skeletons args,
      List.map_append]
  | .logical _ _ l r => by
    rw [skeleton, logicals, logicals, logicals_skeleton l, logicals_skeleton r, List.map_cons,
      List.map_append]
    rfl
  | .not _ e => by rw [skeleton, logicals, logicals, logicals_skeleton e]
  | .paren _ e => by rw [skeleton, logicals, logicals_skeleton e]
  | .other _ parts => by rw [skeleton, logicals, logicals, logicalsIn_skeletons parts]

theorem logicalsIn_skeletons : ∀ es : List Expr,
    logicalsIn (skeletons es) = (logicalsIn es).map Logical.skeleton
  | [] => rfl
  | e :: es => by
    rw [skeletons, logicalsIn, logicalsIn, logicals_skeleton e, logicalsIn_skeletons es,
      List.map_append]

end

end Expr

namespace ChainRule

/-- What each of several checks finds, and what has been looked at after it. -/
def checkEach (rule : ChainRule) : List Logical → Seen → List (Option Diagnostic × Seen)
  | [], _ => []
  | l :: ls, seen => check rule l seen :: checkEach rule ls (check rule l seen).2

variable (rule : ChainRule)

/-- Several checks together find what each of them finds, and have looked at what the last one has. -/
theorem checkAll_eq_checkEach (ls : List Logical) (seen : Seen) :
    checkAll rule ls seen = ((checkEach rule ls seen).flatMap fun answer => answer.1.toList,
      ((checkEach rule ls seen).map Prod.snd).getLastD seen) := by
  induction ls generalizing seen with
  | nil => rfl
  | cons l ls ih =>
    rw [checkAll_cons, checkEach, List.flatMap_cons, List.map_cons, List.getLastD_cons, ih]

theorem calledMethod_skeleton : ∀ e : Expr, rule.calledMethod e.skeleton = rule.calledMethod e
  | .paren _ e => calledMethod_skeleton e
  | .name _ _ | .call _ _ _ | .logical _ _ _ _ | .not _ _ | .other _ _ => rfl

theorem callee_skeleton : ∀ (e : Expr) (seen : Seen),
    rule.callee e.skeleton seen = rule.callee e seen
  | .paren _ e, seen => callee_skeleton e seen
  | .not s e, seen => by
    rw [Expr.skeleton, callee, callee]
    split_ifs
    · rfl
    · exact callee_skeleton e _
  | .call s f args, seen => by
    rw [Expr.skeleton, ChainRule.callee, ChainRule.callee, calledMethod_skeleton]
  | .name _ _, seen | .logical _ _ _ _, seen | .other _ _, seen => by
    simp only [Expr.skeleton, callee, Expr.span]

theorem walk_skeleton : ∀ (e : Expr) (seen : Seen), rule.walk e.skeleton seen = rule.walk e seen
  | .paren _ e, seen => walk_skeleton e seen
  | .logical _ _ l r, seen => by
    rw [Expr.skeleton, walk, walk, callee_skeleton]
    rcases rule.callee r seen with ⟨_ | name, seen'⟩
    · rfl
    · simp only [walk_skeleton l seen']
  | .name _ _, seen | .call _ _ _, seen | .not _ _, seen | .other _ _, seen => by
    rw [walk_of_operands rule rfl, walk_of_operands rule rfl, callee_skeleton]

/-- A check finds and looks at the same in a skeleton. -/
theorem check_skeleton (l : Logical) (seen : Seen) :
    rule.check l.skeleton seen = rule.check l seen := by
  have hcollect : rule.collect l.skeleton seen = rule.collect l seen := by
    rw [collect, collect, Logical.skeleton, callee_skeleton]
    rcases rule.callee l.right seen with ⟨_ | name, seen'⟩
    · rfl
    · simp only [walk_skeleton]
  rw [check, check, hcollect]
  rfl

theorem checkEach_skeleton (ls : List Logical) (seen : Seen) :
    rule.checkEach (ls.map Logical.skeleton) seen = rule.checkEach ls seen := by
  induction ls generalizing seen with
  | nil => rfl
  | cons l ls ih => rw [List.map_cons, checkEach, checkEach, check_skeleton, ih]

/-- **Parentheses and the choice of connectives are invisible.**  However many edits lead from some
expressions to others, whatever the spans and whatever has been looked at before: one by one the checks
of both find the same, and the same has been looked at after each. -/
theorem checkEach_of_edits {es es' : List Expr} (h : Relation.EqvGen Expr.EditIn es es')
    (seen : Seen) :
    rule.checkEach (Expr.logicalsIn es') seen = rule.checkEach (Expr.logicalsIn es) seen ∧
      rule.checkAll (Expr.logicalsIn es') seen = rule.checkAll (Expr.logicalsIn es) seen := by
  have heach : rule.checkEach (Expr.logicalsIn es') seen =
      rule.checkEach (Expr.logicalsIn es) seen := by
    calc rule.checkEach (Expr.logicalsIn es') seen
      _ = rule.checkEach (Expr.logicalsIn (Expr.skeletons es')) seen := by
        rw [Expr.logicalsIn_skeletons, checkEach_skeleton]
      _ = rule.checkEach (Expr.logicalsIn (Expr.skeletons es)) seen := by
        rw [Expr.skeletons_of_eqvGen h]
      _ = rule.checkEach (Expr.logicalsIn es) seen := by
        rw [Expr.logicalsIn_skeletons, checkEach_skeleton]
  exact ⟨heach, by rw [checkAll_eq_checkEach, checkAll_eq_checkEach, heach]⟩

end ChainRule

/-- The sample with parentheses around a callee, an operand, an argument of a negation and a part of the
chain, all at one span that an operand has too, and with the three connectives mixed:
`(((isA)() || isB()) ?? (ready)) && isB() || !(isC())`. -/
def Program.restyledRuns : Program where
  comments := []
  body :=
    let around : Expr → Expr := .paren ⟨9, 14⟩
    let first := .logical ⟨0, 14⟩ .or (.call ⟨0, 5⟩ (around (.name ⟨0, 3⟩ "isA")) [])
      (.call ⟨9, 14⟩ (.name ⟨9, 12⟩ "isB") [])
    let parted := .logical ⟨0, 23⟩ .nullish (around first) (around (.name ⟨18, 23⟩ "ready"))
    let second := .logical ⟨0, 32⟩ .and (around parted) (.call ⟨27, 32⟩ (.name ⟨27, 30⟩ "isB") [])
    [.logical ⟨0, 42⟩ .or second
      (.not ⟨36, 42⟩ (around (.call ⟨37, 42⟩ (.name ⟨37, 40⟩ "isC") [])))]

/-- Both runs of the sample are reported in either style, from the empty cache and, for the outer one,
from a cache that holds the right operand of the inner one. -/
theorem ChainRule.checkEach_of_edits_restyledRuns :
    let seen := Seen.empty.record ⟨9, 14⟩
    Relation.EqvGen Expr.EditIn Program.twoRuns.body Program.restyledRuns.body ∧
    (abc 1).checkEach Program.restyledRuns.logicals .empty =
      (abc 1).checkEach Program.twoRuns.logicals .empty ∧
    (abc 1).checkAll Program.restyledRuns.logicals seen =
      (abc 1).checkAll Program.twoRuns.logicals seen ∧
    ((abc 1).checkAll Program.twoRuns.logicals .empty).1.map Diagnostic.span =
      [⟨0, 42⟩, ⟨0, 14⟩] ∧
    ((abc 1).checkAll Program.twoRuns.logicals seen).1.map Diagnostic.span = [⟨0, 42⟩] := by
  intro seen
  have hedits : Relation.EqvGen Expr.EditIn Program.twoRuns.body Program.restyledRuns.body :=
    Expr.eqvGen_editIn_iff.mpr rfl
  exact ⟨hedits, (checkEach_of_edits (abc 1) hedits .empty).1,
    (checkEach_of_edits (abc 1) hedits seen).2, by decide, by decide⟩

end ChainLint
