import Mathlib.Data.List.Flatten
import Mathlib.Data.List.Pairwise
import Mathlib.Data.List.Perm.Basic
import ChainLint.Proofs.Chain.Counted
import ChainLint.Proofs.Chain.Spine

/-!
# Checks in any order

Checks in different orders cut the same chain at different places, and report different parts of it.
What does not depend on the order is which operands are looked at: the first look at an operand
decides whether the next one is looked at, whichever walk comes to it.

* `Program.reached rule p`: the operands that are looked at in the end.
* `Program.named rule p`: the brand checks among them.
* `Visited`: what holds of the operands that have been looked at, between the checks and within a
  walk, which is about to look at its `front`.
* `Visited.look`: a look at one operand keeps it; `Visited.examine`: so does a walk;
  `Visited.checkAll`: and so do checks in any order.
* `checkAll_any_order`: all nodes of the reached operands are looked at in the end, and when no brand
  check is allowed, every reached brand check is named once.
-/

namespace ChainLint

/-- The rightmost operand of a node. -/
def Expr.rightmost : Expr → Expr
  | .paren _ e => rightmost e
  | .logical _ _ _ right => right
  | e => e

/-- The operands that a logical expression has looked at in the end: the right one, and the left one
if the chain ends there and the right one is a brand check. -/
def Logical.reached (rule : ChainRule) (l : Logical) : List Expr :=
  l.right :: if l.isInnermost && rule.isBrand l.right then [l.left.bare] else []

/-- The operands of a program that are looked at in the end. -/
def Program.reached (rule : ChainRule) (p : Program) : List Expr :=
  p.logicals.flatMap (Logical.reached rule)

/-- The brand checks among the operands of a program that are looked at in the end. -/
def Program.named (rule : ChainRule) (p : Program) : List Expr :=
  (p.reached rule).filter rule.isBrand

theorem Logical.mem_reached {rule : ChainRule} {l : Logical} {o : Expr} :
    o ∈ l.reached rule ↔
      o = l.right ∨ (l.isInnermost = true ∧ rule.isBrand l.right = true) ∧ o = l.left.bare := by
  cases h : l.isInnermost <;> cases hb : rule.isBrand l.right <;> simp [Logical.reached, h, hb]

theorem Expr.rightmost_eq_bare : ∀ {e : Expr}, e.isLogical = false → e.rightmost = e.bare
  | .paren _ e, h => rightmost_eq_bare (e := e) h
  | .name _ _, _ | .call _ _ _, _ | .not _ _, _ | .other _ _, _ => rfl

/-! ### Operands of distinct nodes -/

/-- Lists without a common element come from one place each. -/
theorem eq_of_mem_of_nodup_flatMap {α β : Type} {f : α → List β} {xs : List α}
    (h : (xs.flatMap f).Nodup) {x y : α} (hx : x ∈ xs) (hy : y ∈ xs) {b : β} (hbx : b ∈ f x)
    (hby : b ∈ f y) : x = y := by
  by_contra hne
  have hsymm : Std.Symm (Function.onFun List.Disjoint f) := ⟨fun _ _ hdisj _ hx hy => hdisj hy hx⟩
  exact (List.nodup_flatMap.mp h).2.forall hx hy hne hbx hby

/-- Operands of distinct nodes are distinct. -/
theorem nodup_of_nodup_trails {es : List Expr} (h : (es.flatMap Expr.trail).Nodup) : es.Nodup := by
  refine (List.nodup_flatMap.mp h).2.imp fun {o o'} hdisj heq => ?_
  subst heq
  exact hdisj o.bare_span_mem_trail o.bare_span_mem_trail

section Distinct

variable {ls : List Logical} (hd : (ls.flatMap Logical.examined).Nodup)
include hd

theorem nodup_trails : ((ls.flatMap Logical.own).flatMap Expr.trail).Nodup := by
  rw [List.flatMap_assoc]
  exact hd

theorem nodup_own : (ls.flatMap Logical.own).Nodup := nodup_of_nodup_trails (nodup_trails hd)

/-- No right operand is the left operand at the end of a chain. -/
theorem right_ne_left {l l' : Logical} (hl : l ∈ ls) (hl' : l' ∈ ls)
    (hin : l'.isInnermost = true) : l.right ≠ l'.left.bare := by
  intro heq
  have hown := nodup_own hd
  have hleft : l.right ∈ l'.own := heq ▸ Logical.left_mem_own hin
  obtain rfl : l = l' := eq_of_mem_of_nodup_flatMap hown hl hl' l.right_mem_own hleft
  have := (List.nodup_flatMap.mp hown).1 l hl
  simp [Logical.own, hin, heq] at this

end Distinct

namespace ChainRule

/-! ### What a walk keeps -/

/-- The operands `es` that have been looked at, those whose nodes are recorded.  They are operands of
the logical expressions `ls`.  After a brand check the next operand has been looked at, too, unless
it is the `front`, which the walk is about to look at; and at the end of a chain the left operand is
looked at only after such a brand check. -/
structure Visited (rule : ChainRule) (ls : List Logical) (front : Option Expr) (es : List Expr)
    (seen : Seen) : Prop where
  spans : seen.spans.Perm (es.flatMap Expr.trail)
  own : ∀ o ∈ es, o ∈ ls.flatMap Logical.own
  next : ∀ l ∈ ls, l.right ∈ es → rule.isBrand l.right = true →
    l.left.rightmost ∈ es ∨ front = some l.left.rightmost
  left : ∀ l ∈ ls, l.isInnermost = true → l.left.bare ∈ es →
    l.right ∈ es ∧ rule.isBrand l.right = true

namespace Visited

variable {rule : ChainRule} {ls : List Logical} {front : Option Expr} {es : List Expr}
  {seen : Seen} {o : Expr}

theorem empty (rule : ChainRule) (ls : List Logical) : Visited rule ls none [] .empty where
  spans := List.Perm.refl _
  own _ h := absurd h List.not_mem_nil
  next _ _ h _ := absurd h List.not_mem_nil
  left _ _ _ h := absurd h List.not_mem_nil

/-- A walk may start at any operand. -/
theorem start (h : Visited rule ls none es seen) (o : Expr) : Visited rule ls (some o) es seen where
  spans := h.spans
  own := h.own
  next l hl hr hb := (h.next l hl hr hb).imp_right fun hnone => absurd hnone (by simp)
  left := h.left

/-- A walk may end at an operand that has been looked at. -/
theorem stop (h : Visited rule ls (some o) es seen) (ho : o ∈ es) :
    Visited rule ls none es seen where
  spans := h.spans
  own := h.own
  next l hl hr hb := by
    rcases h.next l hl hr hb with hin | heq
    · exact Or.inl hin
    · exact Or.inl (Option.some.inj heq ▸ ho)
  left := h.left

theorem nodup (h : Visited rule ls front es seen) : es.Nodup :=
  nodup_of_nodup_trails (h.spans.nodup_iff.mp seen.nodup)

variable (hd : (ls.flatMap Logical.examined).Nodup)
include hd

/-- An operand has been looked at when its own span is recorded. -/
theorem mem_iff (h : Visited rule ls front es seen) (ho : o ∈ ls.flatMap Logical.own) :
    o.bare.span ∈ seen.spans ↔ o ∈ es := by
  rw [h.spans.mem_iff, List.mem_flatMap]
  constructor
  · rintro ⟨o', ho', hspan⟩
    have heq : o = o' := eq_of_mem_of_nodup_flatMap (nodup_trails hd) ho (h.own o' ho')
      o.bare_span_mem_trail hspan
    exact heq ▸ ho'
  · intro hin
    exact ⟨o, hin, o.bare_span_mem_trail⟩

/-- No node of an operand that has not been looked at is recorded. -/
theorem nodup_trail (h : Visited rule ls front es seen) (ho : o ∈ ls.flatMap Logical.own)
    (hnew : o ∉ es) : (o.trail ++ seen.spans).Nodup := by
  refine List.nodup_append'.mpr ⟨(List.nodup_flatMap.mp (nodup_trails hd)).1 o ho, seen.nodup, ?_⟩
  intro s hs hs'
  obtain ⟨o', ho', hs''⟩ := List.mem_flatMap.mp (h.spans.mem_iff.mp hs')
  have heq : o = o' :=
    eq_of_mem_of_nodup_flatMap (nodup_trails hd) ho (h.own o' ho') hs hs''
  exact hnew (heq ▸ ho')

/-- **A look at one operand** that has not been looked at.  The walk goes on to `front'`, which is the
next operand after a brand check; and it has come to a left operand from a brand check. -/
theorem look {front' : Option Expr} (h : Visited rule ls (some o) es seen)
    (ho : o ∈ ls.flatMap Logical.own) (hnew : o ∉ es)
    (hnext : ∀ l ∈ ls, l.right = o → rule.isBrand o = true → front' = some l.left.rightmost)
    (hleft : ∀ l ∈ ls, l.isInnermost = true → l.left.bare = o →
      l.right ∈ es ∧ rule.isBrand l.right = true) :
    Visited rule ls front' (o :: es) (callee rule o seen).2 where
  spans := by
    rw [(callee_of_nodup (h.nodup_trail hd ho hnew)).2, List.flatMap_cons]
    exact o.trail.reverse_perm.append h.spans
  own o' ho' := by
    rcases List.mem_cons.mp ho' with rfl | hin
    · exact ho
    · exact h.own o' hin
  next l hl hr hb := by
    rcases List.mem_cons.mp hr with heq | hin
    · exact Or.inr (hnext l hl heq (heq ▸ hb))
    · rcases h.next l hl hin hb with hin' | heq
      · exact Or.inl (List.mem_cons_of_mem _ hin')
      · exact Or.inl (Option.some.inj heq ▸ List.mem_cons_self)
  left l hl hin hmem := by
    rcases List.mem_cons.mp hmem with heq | hes
    · exact (hleft l hl hin heq).imp_left (List.mem_cons_of_mem _)
    · exact (h.left l hl hin hes).imp_left (List.mem_cons_of_mem _)

/-- A walk that comes to the end of the chain from a brand check. -/
theorem examine_left (h : Visited rule ls (some o) es seen) {l : Logical} (hl : l ∈ ls)
    (hin : l.isInnermost = true) (hlo : l.left.bare = o) (hr : l.right ∈ es)
    (hb : rule.isBrand l.right = true) :
    ∃ es', Visited rule ls none es' (examine rule [o] seen).2 ∧
      ((examine rule [o] seen).1 ++ es.filter rule.isBrand).Perm (es'.filter rule.isBrand) := by
  have hown : o ∈ l.own := hlo ▸ Logical.left_mem_own hin
  have ho : o ∈ ls.flatMap Logical.own := List.mem_flatMap.mpr ⟨l, hl, hown⟩
  by_cases hes : o ∈ es
  · rw [examine_of_mem ((h.mem_iff hd ho).mpr hes)]
    exact ⟨es, h.stop hes, List.Perm.refl _⟩
  · have hlook : Visited rule ls none (o :: es) (callee rule o seen).2 := by
      refine h.look hd ho hes (fun l' hl' hr' _ => ?_) (fun l' hl' hin' hlo' => ?_)
      · exact absurd (hr'.trans hlo.symm) (right_ne_left hd hl' hl hin)
      · have hown' : o ∈ l'.own := hlo' ▸ Logical.left_mem_own hin'
        obtain rfl : l' = l := eq_of_mem_of_nodup_flatMap (nodup_own hd) hl' hl hown' hown
        exact ⟨hr, hb⟩
    rw [examine_cons_of_nodup (h.nodup_trail hd ho hes)]
    refine ⟨o :: es, ?_, ?_⟩
    · cases rule.isBrand o <;> exact hlook
    · cases hbo : rule.isBrand o <;> simp [hbo, examine]

/-- **A walk** down the left side of a node, which starts at the right operand of a logical expression
or comes from a brand check. -/
theorem examine : ∀ (e : Expr) {es : List Expr} {seen : Seen},
    Visited rule ls (some e.rightmost) es seen → (∀ l ∈ e.links, l ∈ ls) →
    (e.isLogical = false → ∃ l ∈ ls, l.isInnermost = true ∧ l.left.bare = e.bare ∧ l.right ∈ es ∧
      rule.isBrand l.right = true) →
    ∃ es', Visited rule ls none es' (examine rule e.operands seen).2 ∧
      ((examine rule e.operands seen).1 ++ es.filter rule.isBrand).Perm (es'.filter rule.isBrand)
  | .paren _ e, _, _, h, hls, hleft => examine e h hls hleft
  | .logical s op left right, es, seen, h, hls, _ => by
    let l : Logical := ⟨s, op, left, right⟩
    have hl : l ∈ ls := hls l List.mem_cons_self
    have ho : right ∈ ls.flatMap Logical.own := List.mem_flatMap.mpr ⟨l, hl, l.right_mem_own⟩
    -- an earlier walk that looked at `right` went on from it in the same way, so this one may end
    by_cases hes : right ∈ es
    · rw [Expr.operands, examine_of_mem ((h.mem_iff hd ho).mpr hes)]
      exact ⟨es, h.stop hes, List.Perm.refl _⟩
    · have hlook {front' : Option Expr}
          (hfront : rule.isBrand right = true → front' = some left.rightmost) :
          Visited rule ls front' (right :: es) (callee rule right seen).2 := by
        refine h.look hd ho hes (fun l' hl' hr' hb => ?_) (fun l' hl' hin' hlo' => ?_)
        · have hown' : right ∈ l'.own := List.mem_cons.mpr (Or.inl hr'.symm)
          obtain rfl : l' = l :=
            eq_of_mem_of_nodup_flatMap (nodup_own hd) hl' hl hown' l.right_mem_own
          exact hfront hb
        · exact absurd hlo'.symm (right_ne_left hd hl hl' hin')
      rw [Expr.operands, examine_cons_of_nodup (h.nodup_trail hd ho hes)]
      -- whether the walk goes on is a property of `right` alone
      cases hb : rule.isBrand right with
      | false =>
        refine ⟨right :: es, hlook (fun htrue => ?_), ?_⟩
        · simp [hb] at htrue
        · simp [hb]
      | true =>
        obtain ⟨es', hes', hperm⟩ := examine left (hlook fun _ => rfl)
          (fun l' hl' => hls l' (List.mem_cons_of_mem _ hl'))
          (fun hlog => ⟨l, hl, by simp [Logical.isInnermost, l, hlog], rfl, List.mem_cons_self, hb⟩)
        refine ⟨es', hes', ?_⟩
        rw [List.filter_cons_of_pos hb] at hperm
        exact List.perm_middle.symm.trans hperm
  | .name _ _, _, _, h, _, hleft | .call _ _ _, _, _, h, _, hleft | .not _ _, _, _, h, _, hleft
  | .other _ _, _, _, h, _, hleft => by
    obtain ⟨l, hl, hin, hlo, hr, hb⟩ := hleft rfl
    exact h.examine_left hd hl hin hlo hr hb

/-! ### What checks keep -/

/-- A check of a logical expression; when no brand check is allowed it reports what it counts. -/
theorem check (h : Visited rule ls none es seen) (hm : ¬ rule.methods.isEmpty) {l : Logical}
    (hl : ∀ l' ∈ l.links, l' ∈ ls) :
    ∃ es', Visited rule ls none es' (check rule l seen).2 ∧
      (rule.limit = 0 →
        ((counted? rule l seen).toList.flatMap CountedChain.operands ++
          es.filter rule.isBrand).Perm (es'.filter rule.isBrand)) := by
  obtain ⟨es', hes', hperm⟩ := (h.start l.right).examine hd
    (.logical l.span l.op l.left l.right) hl (fun hlog => by simp [Expr.isLogical] at hlog)
  rw [check_snd hm]
  refine ⟨es', hes', fun hlim => ?_⟩
  rw [counted?_of_limit hlim]
  exact hperm

/-- **Checks in any order.** -/
theorem checkAll (hm : ¬ rule.methods.isEmpty) (ks : List Logical)
    (hks : ∀ l ∈ ks, ∀ l' ∈ l.links, l' ∈ ls) (h : Visited rule ls none es seen) :
    ∃ es', Visited rule ls none es' (checkAll rule ks seen).2 ∧
      (rule.limit = 0 →
        ((countedAll rule ks seen).flatMap CountedChain.operands ++
          es.filter rule.isBrand).Perm (es'.filter rule.isBrand)) := by
  -- the first check leaves some operands visited, and the others start from these
  induction ks generalizing es seen with
  | nil => exact ⟨es, h, fun _ => List.Perm.refl _⟩
  | cons l ks ih =>
    obtain ⟨es₁, hes₁, hfirst⟩ := h.check hd hm (hks l List.mem_cons_self)
    obtain ⟨es₂, hes₂, hrest⟩ := ih (fun l' hl' => hks l' (List.mem_cons_of_mem _ hl')) hes₁
    refine ⟨es₂, hes₂, fun hlim => ?_⟩
    rw [countedAll, List.flatMap_append, List.append_assoc]
    refine (List.perm_append_comm_assoc _ _ _).trans ?_
    exact ((hfirst hlim).append_left _).trans (hrest hlim)

end Visited

/-! ### What is looked at in the end -/

variable {rule : ChainRule} {p : Program} {es : List Expr} {seen : Seen}

theorem nodup_reached (hd : p.examined.Nodup) : (p.reached rule).Nodup := by
  refine (nodup_own hd).sublist (List.Sublist.flatMap_right _ fun l _ => ?_)
  rw [Logical.reached, Logical.own]
  cases l.isInnermost <;> cases rule.isBrand l.right <;> simp

/-- When all logical expressions of a program have been checked, what has been looked at is known. -/
theorem Visited.perm_reached (hd : p.examined.Nodup) (h : Visited rule p.logicals none es seen)
    (hall : ∀ l ∈ p.logicals, l.right ∈ es) : es.Perm (p.reached rule) := by
  rw [List.perm_ext_iff_of_nodup h.nodup (nodup_reached hd)]
  intro o
  rw [Program.reached, List.mem_flatMap]
  constructor
  · intro ho
    obtain ⟨l, hl, hown⟩ := List.mem_flatMap.mp (h.own o ho)
    rcases Logical.mem_own.mp hown with rfl | ⟨hin, rfl⟩
    · exact ⟨l, hl, Logical.mem_reached.mpr (Or.inl rfl)⟩
    · obtain ⟨-, hb⟩ := h.left l hl hin ho
      exact ⟨l, hl, Logical.mem_reached.mpr (Or.inr ⟨⟨hin, hb⟩, rfl⟩)⟩
  · rintro ⟨l, hl, ho⟩
    rcases Logical.mem_reached.mp ho with rfl | ⟨⟨hin, hb⟩, rfl⟩
    · exact hall l hl
    · have hlog : l.left.isLogical = false := by simpa [Logical.isInnermost] using hin
      rw [← Expr.rightmost_eq_bare hlog]
      rcases h.next l hl (hall l hl) hb with hes | hnone
      · exact hes
      · simp at hnone

/-- What checks of all the logical expressions of a program look at and count. -/
theorem checkAll_reached (hd : p.examined.Nodup) (hm : ¬ rule.methods.isEmpty) {ls : List Logical}
    (hls : ∀ l, l ∈ ls ↔ l ∈ p.logicals) :
    (checkAll rule ls .empty).2.spans.Perm ((p.reached rule).flatMap Expr.trail) ∧
      (rule.limit = 0 →
        ((countedAll rule ls .empty).flatMap CountedChain.operands).Perm (p.named rule)) := by
  have hlinks : ∀ l ∈ ls, ∀ l' ∈ l.links, l' ∈ p.logicals := fun l hl l' hl' =>
    Program.mem_logicals_of_mem_links ((hls l).mp hl) hl'
  obtain ⟨es, hes, hcounted⟩ := (Visited.empty rule p.logicals).checkAll hd hm ls hlinks
  have hall : ∀ l ∈ p.logicals, l.right ∈ es := by
    intro l hl
    refine (hes.mem_iff hd (List.mem_flatMap.mpr ⟨l, hl, l.right_mem_own⟩)).mp ?_
    exact right_mem_checkAll hm ((hls l).mpr hl)
  have hperm := hes.perm_reached hd hall
  refine ⟨hes.spans.trans (hperm.flatMap_right _), fun hlim => ?_⟩
  have hnamed := (hcounted hlim).trans (hperm.filter _)
  rwa [List.filter_nil, List.append_nil] at hnamed

/-- **The order of the checks does not matter** to what is looked at: when the nodes that a traversal
may look at have distinct spans, and every logical expression of the program is checked, in any order
and any number of times, the spans of all nodes of the reached operands are recorded in the end and
no others.  When no brand check is allowed, all the findings together name every reached brand check
once, and nothing else; what they list are its names, when the methods of the rule are identifiers. -/
theorem checkAll_any_order (rule : ChainRule) (p : Program) (hd : p.examined.Nodup)
    (hm : rule.methods ≠ []) (ls ls' : List Logical) (hls : ∀ l, l ∈ ls ↔ l ∈ p.logicals)
    (hls' : ∀ l, l ∈ ls' ↔ l ∈ p.logicals) :
    (checkAll rule ls .empty).2.spans.Perm ((p.reached rule).flatMap Expr.trail) ∧
    (checkAll rule ls .empty).2.spans.Perm (checkAll rule ls' .empty).2.spans ∧
    (rule.limit = 0 →
      (checkAll rule ls .empty).1 =
        (countedAll rule ls .empty).map (CountedChain.diagnostic rule) ∧
      ((∀ name ∈ rule.methods, Text.IsName name) →
        (checkAll rule ls .empty).1.map Diagnostic.listed =
          (countedAll rule ls .empty).map fun c => ((c.calls rule).map Prod.fst).reverse) ∧
      ((countedAll rule ls .empty).flatMap CountedChain.operands).Nodup ∧
      ∀ o, (∃ c ∈ countedAll rule ls .empty, o ∈ c.operands) ↔ o ∈ p.named rule) := by
  have hm' : ¬ rule.methods.isEmpty := mt List.isEmpty_iff.mp hm
  obtain ⟨hspans, hcounted⟩ := checkAll_reached hd hm' hls
  obtain ⟨hspans', -⟩ := checkAll_reached hd hm' hls'
  refine ⟨hspans, hspans.trans hspans'.symm, fun hlim =>
    ⟨checkAll_fst rule ls .empty, fun hnames => checkAll_listed hnames ls .empty, ?_, ?_⟩⟩
  · exact (hcounted hlim).nodup_iff.mpr ((nodup_reached hd).filter _)
  · intro o
    rw [← (hcounted hlim).mem_iff, List.mem_flatMap]

/-- Innermost first, the checks of the sample cut its second run in two, but look at the same nodes and
name the same brand checks. -/
theorem checkAll_reverse_twoRuns :
    (checkAll (abc 0) Program.twoRuns.logicals .empty).1.length = 2 ∧
    (checkAll (abc 0) Program.twoRuns.logicals.reverse .empty).1.map Diagnostic.listed =
      [["isA", "isB"], ["isB"], ["isC"]] ∧
    (checkAll (abc 0) Program.twoRuns.logicals.reverse .empty).2.spans.Perm
      (checkAll (abc 0) Program.twoRuns.logicals .empty).2.spans ∧
    ((countedAll (abc 0) Program.twoRuns.logicals.reverse .empty).flatMap
      CountedChain.operands).Nodup ∧
    (Program.twoRuns.named (abc 0)).map Expr.span = [⟨36, 42⟩, ⟨27, 32⟩, ⟨9, 14⟩, ⟨0, 5⟩] := by
  obtain ⟨-, hspans, hnamed⟩ := checkAll_any_order (abc 0) Program.twoRuns (by decide) (by decide)
    Program.twoRuns.logicals.reverse Program.twoRuns.logicals
    (fun _ => List.mem_reverse) (fun _ => Iff.rfl)
  obtain ⟨-, hlisted, hnodup, -⟩ := hnamed rfl
  exact ⟨by decide, (hlisted (by decide)).trans (by decide), hspans, hnodup, by decide⟩

end ChainRule

end ChainLint
