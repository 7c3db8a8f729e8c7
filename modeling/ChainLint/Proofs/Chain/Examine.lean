import Mathlib.Data.List.Nodup
import ChainLint.Chain.Check

/-!
# Looking at the operands of a chain

A check walks a chain operand by operand, and every operand node by node through its negations.
This module takes the two walks apart.

* `Expr.trail e`: the spans that a look at `e` records, in the order in which it records them.
* `ChainRule.brandCall rule e`: the method that `e` calls as a brand check, with the span of the
  call, whatever has been recorded before.
* `callee_eq`: a look at a node records its trail up to a span that is recorded already, and finds
  the node's brand check when it came to the end of the trail.
* `Logical.operands l`: the operands of the chain at `l`, the rightmost first.
* `collect_eq`: the walk of a chain is `examine` on its operands, which looks at one after another
  until a look fails.
* `brandCall_mono`, `collect_congr`: what a walk takes from the methods of its rule.
-/

namespace ChainLint

/-! ### Recorded spans -/

namespace Seen

variable {seen : Seen} {s : Span}

theorem contains_iff : seen.contains s = true ↔ s ∈ seen.spans := by
  simp [contains]

theorem record_of_mem (h : s ∈ seen.spans) : seen.record s = seen := by
  simp [record, h]

theorem spans_record (h : s ∉ seen.spans) : (seen.record s).spans = s :: seen.spans := by
  simp [record, h]

/-- Records spans in turn, up to one that is recorded already; tells whether all of them were new. -/
def recordNew : Seen → List Span → Bool × Seen
  | seen, [] => (true, seen)
  | seen, s :: ss => if seen.contains s then (false, seen) else recordNew (seen.record s) ss

theorem recordNew_of_mem {ss : List Span} (h : s ∈ seen.spans) :
    seen.recordNew (s :: ss) = (false, seen) := by
  simp [recordNew, contains_iff, h]

theorem recordNew_of_not_mem {ss : List Span} (h : s ∉ seen.spans) :
    seen.recordNew (s :: ss) = (seen.record s).recordNew ss := by
  simp [recordNew, contains_iff, h]

@[simp] theorem recordNew_singleton : seen.recordNew [s] = (!seen.contains s, seen.record s) := by
  by_cases h : s ∈ seen.spans
  · rw [recordNew_of_mem h, record_of_mem h, contains_iff.mpr h]
    rfl
  · rw [recordNew_of_not_mem h, Bool.eq_false_iff.mpr (mt contains_iff.mp h)]
    rfl

/-- Spans of which none is recorded are recorded to the last. -/
theorem recordNew_of_nodup {ss : List Span} (h : (ss ++ seen.spans).Nodup) :
    (seen.recordNew ss).1 = true ∧ (seen.recordNew ss).2.spans = ss.reverse ++ seen.spans := by
  induction ss generalizing seen with
  | nil => simp [recordNew]
  | cons s ss ih =>
    rw [List.cons_append] at h
    have hs : s ∉ ss ∧ s ∉ seen.spans := by simpa using (List.nodup_cons.mp h).1
    have hnew : (ss ++ (seen.record s).spans).Nodup := by
      rw [spans_record hs.2]
      exact List.perm_middle.nodup_iff.mpr h
    obtain ⟨hall, hspans⟩ := ih hnew
    rw [recordNew_of_not_mem hs.2]
    refine ⟨hall, ?_⟩
    rw [hspans, spans_record hs.2]
    simp

/-- Spans that differ from recorded ones still do so when others are recorded. -/
theorem nodup_append_recorded {ss ts us : List Span} (h : (ss ++ (ts ++ us)).Nodup) :
    (ts ++ (ss.reverse ++ us)).Nodup := by
  have hperm : (ss ++ (ts ++ us)).Perm (ts ++ (ss.reverse ++ us)) :=
    (List.perm_append_comm_assoc ss ts us).trans ((ss.reverse_perm.symm.append_right us).append_left ts)
  exact hperm.nodup_iff.mp h

/-- What is recorded stays so, and the last of spans that were all new is recorded with it. -/
theorem recordNew_sublist (ss : List Span) :
    seen.spans.Sublist (seen.recordNew ss).2.spans ∧
      ((seen.recordNew ss).1 = true → ∀ s ∈ ss.getLast?,
        (s :: seen.spans).Sublist (seen.recordNew ss).2.spans) := by
  induction ss generalizing seen with
  | nil => simp [recordNew]
  | cons s ss ih =>
    by_cases hs : s ∈ seen.spans
    · rw [recordNew_of_mem hs]
      simp
    · have hsub : (s :: seen.spans).Sublist ((seen.record s).recordNew ss).2.spans := by
        rw [← spans_record hs]
        exact ih.1
      rw [recordNew_of_not_mem hs]
      refine ⟨(List.sublist_cons_self _ _).trans hsub, fun hall t ht => ?_⟩
      rw [List.getLast?_cons] at ht
      -- the last of them is `s` itself or the last of the others
      cases hl : ss.getLast? with
      | none =>
        simp only [hl, Option.getD_none, Option.mem_some_iff] at ht
        exact ht ▸ hsub
      | some u =>
        simp only [hl, Option.getD_some, Option.mem_some_iff] at ht
        subst ht
        have hu := ih.2 hall u hl
        rw [spans_record hs] at hu
        exact ((List.sublist_cons_self _ _).cons_cons u).trans hu

/-- Spans that are all new after more has been recorded are all new after less. -/
theorem recordNew_mono {seen' : Seen} {ss : List Span} (hsub : seen.spans ⊆ seen'.spans)
    (hall : (seen'.recordNew ss).1 = true) :
    (seen.recordNew ss).1 = true ∧ (seen.recordNew ss).2.spans ⊆ (seen'.recordNew ss).2.spans := by
  induction ss generalizing seen seen' with
  | nil => exact ⟨rfl, hsub⟩
  | cons s ss ih =>
    by_cases hs' : s ∈ seen'.spans
    · rw [recordNew_of_mem hs'] at hall
      cases hall
    · have hs : s ∉ seen.spans := fun hs => hs' (hsub hs)
      have hrecord : (seen.record s).spans ⊆ (seen'.record s).spans := by
        rw [spans_record hs, spans_record hs']
        exact List.cons_subset_cons s hsub
      rw [recordNew_of_not_mem hs'] at hall
      rw [recordNew_of_not_mem hs, recordNew_of_not_mem hs']
      exact ih hrecord hall

end Seen

/-! ### One operand -/

/-- The spans that a look at a node records: the node's own, and through negations those below. -/
def Expr.trail : Expr → List Span
  | .paren _ e => trail e
  | .not s e => s :: trail e
  | e => [e.span]

theorem Expr.trail_eq_cons : ∀ e : Expr, ∃ ss, e.trail = e.bare.span :: ss
  | .paren _ e => trail_eq_cons e
  | .not _ e => ⟨e.trail, rfl⟩
  | .name _ _ | .call _ _ _ | .logical _ _ _ _ | .other _ _ => ⟨[], rfl⟩

theorem Expr.bare_span_mem_trail (e : Expr) : e.bare.span ∈ e.trail := by
  obtain ⟨ss, hss⟩ := trail_eq_cons e
  rw [hss]
  exact List.mem_cons_self

namespace ChainRule

/-- The method that a node calls as a brand check, with the span of the call. -/
def brandCall (rule : ChainRule) : Expr → Option (String × Span)
  | .paren _ e => brandCall rule e
  | .not _ e => brandCall rule e
  | .call s f _ => (calledMethod rule f).map (·, s)
  | _ => none

/-- Whether a node is a brand check. -/
def isBrand (rule : ChainRule) (e : Expr) : Bool := (brandCall rule e).isSome

theorem calledMethod_eq_some {rule : ChainRule} {f : Expr} {name : String} :
    calledMethod rule f = some name ↔ name ∈ rule.methods ∧ ∃ s, f.bare = .name s name := by
  rw [calledMethod]
  cases f.bare with
  | name s text =>
    simp only [isBrandCheck, List.contains_iff_mem, Expr.name.injEq]
    split_ifs with htext
    · constructor
      · intro h
        obtain rfl := Option.some.inj h
        exact ⟨htext, s, rfl, rfl⟩
      · rintro ⟨-, _, -, rfl⟩
        rfl
    · constructor
      · intro h
        cases h
      · rintro ⟨hname, _, -, rfl⟩
        exact absurd hname htext
  | call _ _ _ | logical _ _ _ _ | not _ _ | paren _ _ | other _ _ => simp

/-- A look at a node records its trail, and finds its brand check at the end of the trail. -/
theorem callee_eq (rule : ChainRule) : ∀ (e : Expr) (seen : Seen), callee rule e seen =
    (bif (seen.recordNew e.trail).1 then (brandCall rule e).map Prod.fst else none,
      (seen.recordNew e.trail).2)
  | .paren _ e, seen => callee_eq rule e seen
  | .not s e, seen => by
    rw [Expr.trail, callee, brandCall]
    by_cases hs : s ∈ seen.spans
    · rw [Seen.recordNew_of_mem hs, if_pos (Seen.contains_iff.mpr hs)]
      rfl
    · rw [Seen.recordNew_of_not_mem hs, if_neg (mt Seen.contains_iff.mp hs)]
      exact callee_eq rule e (seen.record s)
  | .call s f _, seen => by
    simp only [Expr.trail, callee, brandCall, Expr.span, Seen.recordNew_singleton]
    cases hs : seen.contains s with
    | true => simp [Seen.record_of_mem (Seen.contains_iff.mp hs)]
    | false => cases calledMethod rule f <;> rfl
  | .name _ _, seen | .logical _ _ _ _, seen | .other _ _, seen => by
    simp [Expr.trail, callee, brandCall, Expr.span]

/-- The call of a brand check is the last node that a look at it comes to. -/
theorem getLast?_trail {rule : ChainRule} {name : String} {s : Span} : ∀ {e : Expr},
    brandCall rule e = some (name, s) → e.trail.getLast? = some s
  | .paren _ e, h => getLast?_trail (e := e) h
  | .not t e, h => by
    rw [Expr.trail, List.getLast?_cons, getLast?_trail (e := e) h]
    rfl
  | .call t f args, h => by
    simp only [brandCall, Option.map_eq_some_iff, Prod.mk.injEq] at h
    obtain ⟨_, _, _, rfl⟩ := h
    rfl

section Callee

variable {rule : ChainRule} {e : Expr} {seen : Seen}

theorem callee_sublist : seen.spans.Sublist (callee rule e seen).2.spans := by
  rw [callee_eq]
  exact (Seen.recordNew_sublist e.trail).1

/-- A name is found together with the span of its call, which is recorded by the same look. -/
theorem callee_eq_some {name : String} (h : (callee rule e seen).1 = some name) :
    ∃ s, brandCall rule e = some (name, s) ∧
      (s :: seen.spans).Sublist (callee rule e seen).2.spans := by
  rw [callee_eq] at h ⊢
  cases hall : (seen.recordNew e.trail).1 with
  | false => simp [hall] at h
  | true =>
    rw [hall, cond_true, Option.map_eq_some_iff] at h
    obtain ⟨⟨_, s⟩, hs, rfl⟩ := h
    exact ⟨s, hs, (Seen.recordNew_sublist e.trail).2 hall s (getLast?_trail hs)⟩

/-- A node that has been looked at is no brand check any more. -/
theorem callee_of_mem (h : e.bare.span ∈ seen.spans) : callee rule e seen = (none, seen) := by
  obtain ⟨ss, hss⟩ := Expr.trail_eq_cons e
  rw [callee_eq, hss, Seen.recordNew_of_mem h]
  rfl

/-- A look at nodes none of which has been looked at. -/
theorem callee_of_nodup (h : (e.trail ++ seen.spans).Nodup) :
    (callee rule e seen).1 = (brandCall rule e).map Prod.fst ∧
      (callee rule e seen).2.spans = e.trail.reverse ++ seen.spans := by
  obtain ⟨hall, hspans⟩ := Seen.recordNew_of_nodup h
  rw [callee_eq, hall, hspans]
  exact ⟨rfl, rfl⟩

/-- Whatever a look finds, the node itself is recorded after it. -/
theorem bare_span_mem_callee : e.bare.span ∈ (callee rule e seen).2.spans := by
  obtain ⟨ss, hss⟩ := Expr.trail_eq_cons e
  by_cases h : e.bare.span ∈ seen.spans
  · exact callee_sublist.subset h
  · rw [callee_eq, hss, Seen.recordNew_of_not_mem h]
    have hmem : e.bare.span ∈ (seen.record e.bare.span).spans := by
      rw [Seen.spans_record h]
      exact List.mem_cons_self
    exact (Seen.recordNew_sublist ss).1.subset hmem

end Callee

end ChainRule

/-! ### The operands of a chain -/

/-- The operands down the left side of a node, the rightmost first. -/
def Expr.operands : Expr → List Expr
  | .paren _ e => operands e
  | .logical _ _ left right => right :: operands left
  | e => [e]

/-- The operands of the chain at a logical expression, the rightmost first. -/
def Logical.operands (l : Logical) : List Expr := l.right :: l.left.operands

namespace ChainRule

/-- Looks at operands in turn until a look fails; the operands that were found to be brand checks. -/
def examine (rule : ChainRule) : List Expr → Seen → List Expr × Seen
  | [], seen => ([], seen)
  | e :: es, seen =>
    match callee rule e seen with
    | (none, seen) => ([], seen)
    | (some _, seen) =>
      let (counted, seen) := examine rule es seen
      (e :: counted, seen)

/-- The methods that operands call, each with the span of its call. -/
def calls (rule : ChainRule) (es : List Expr) : List (String × Span) :=
  es.filterMap (brandCall rule)

variable {rule : ChainRule} {e : Expr} {es : List Expr} {seen : Seen}

theorem examine_cons_of_none (h : (callee rule e seen).1 = none) :
    examine rule (e :: es) seen = ([], (callee rule e seen).2) := by
  rw [examine]
  rcases hc : callee rule e seen with ⟨_ | name, seen'⟩
  · rfl
  · simp [hc] at h

theorem examine_cons_of_some {name : String} (h : (callee rule e seen).1 = some name) :
    examine rule (e :: es) seen =
      (e :: (examine rule es (callee rule e seen).2).1,
        (examine rule es (callee rule e seen).2).2) := by
  rw [examine]
  rcases hc : callee rule e seen with ⟨_ | name, seen'⟩
  · simp [hc] at h
  · rfl

theorem calls_cons_of_some {name : String} (h : (callee rule e seen).1 = some name) :
    (calls rule (e :: es)).map Prod.fst = name :: (calls rule es).map Prod.fst := by
  obtain ⟨s, hs, -⟩ := callee_eq_some h
  simp [calls, hs]

/-- The walk down a left side looks at its operands. -/
theorem walk_eq (rule : ChainRule) : ∀ (e : Expr) (seen : Seen), walk rule e seen =
    ((calls rule (examine rule e.operands seen).1).map Prod.fst, (examine rule e.operands seen).2)
  | .paren _ e, seen => walk_eq rule e seen
  | .logical _ _ l r, seen => by
    rw [walk, Expr.operands]
    rcases hc : callee rule r seen with ⟨_ | name, seen'⟩
    · rw [examine_cons_of_none (by rw [hc]), hc]
      rfl
    · have hname : (callee rule r seen).1 = some name := by rw [hc]
      rw [examine_cons_of_some hname, calls_cons_of_some hname, hc]
      simp only [walk_eq rule l seen']
  | .name s t, seen | .call s f args, seen | .not s e, seen | .other s parts, seen => by
    simp only [walk, Expr.operands]
    split
    next seen' hc =>
      rw [examine_cons_of_none (by rw [hc]), hc]
      rfl
    next name seen' hc =>
      have hname := congrArg Prod.fst hc
      rw [examine_cons_of_some hname, calls_cons_of_some hname, hc]
      rfl

/-- The walk of a chain looks at its operands, and finds the names of those that it counts. -/
theorem collect_eq (rule : ChainRule) (l : Logical) (seen : Seen) : collect rule l seen =
    ((calls rule (examine rule l.operands seen).1).map Prod.fst,
      (examine rule l.operands seen).2) :=
  walk_eq rule (.logical l.span l.op l.left l.right) seen

/-- A walk that starts at an operand that has been looked at ends there. -/
theorem examine_of_mem (h : e.bare.span ∈ seen.spans) :
    examine rule (e :: es) seen = ([], seen) := by
  rw [examine_cons_of_none (by rw [callee_of_mem h]), callee_of_mem h]

/-- A walk that starts at nodes none of which has been looked at goes on after a brand check. -/
theorem examine_cons_of_nodup (h : (e.trail ++ seen.spans).Nodup) :
    examine rule (e :: es) seen =
      bif rule.isBrand e then
        (e :: (examine rule es (callee rule e seen).2).1, (examine rule es (callee rule e seen).2).2)
      else ([], (callee rule e seen).2) := by
  have hfound : (callee rule e seen).1 = (brandCall rule e).map Prod.fst := (callee_of_nodup h).1
  cases hb : brandCall rule e with
  | none =>
    rw [hb] at hfound
    rw [examine_cons_of_none hfound, isBrand, hb]
    rfl
  | some call =>
    rw [hb] at hfound
    rw [examine_cons_of_some hfound, isBrand, hb]
    rfl

/-- The calls that a walk counts are new, and recorded by the same walk one after another. -/
theorem examine_sublist (rule : ChainRule) (es : List Expr) (seen : Seen) :
    (((calls rule (examine rule es seen).1).map Prod.snd).reverse ++ seen.spans).Sublist
      (examine rule es seen).2.spans := by
  induction es generalizing seen with
  | nil => exact List.Sublist.refl _
  | cons e es ih =>
    cases hc : (callee rule e seen).1 with
    | none =>
      rw [examine_cons_of_none hc]
      exact callee_sublist
    | some name =>
      obtain ⟨s, hs, hsub⟩ := callee_eq_some hc
      rw [examine_cons_of_some hc]
      have hcalls : (calls rule (e :: (examine rule es (callee rule e seen).2).1)).map Prod.snd =
          s :: (calls rule (examine rule es (callee rule e seen).2).1).map Prod.snd := by
        simp [calls, hs]
      rw [hcalls, List.reverse_cons, List.append_assoc]
      exact (hsub.append_left _).trans (ih _)

/-- A walk counts brand checks only. -/
theorem length_calls_examine (rule : ChainRule) (es : List Expr) (seen : Seen) :
    (calls rule (examine rule es seen).1).length = (examine rule es seen).1.length := by
  induction es generalizing seen with
  | nil => rfl
  | cons e es ih =>
    cases hc : (callee rule e seen).1 with
    | none =>
      rw [examine_cons_of_none hc]
      rfl
    | some name =>
      obtain ⟨s, hs, -⟩ := callee_eq_some hc
      rw [examine_cons_of_some hc, calls, List.filterMap_cons_some hs, List.length_cons,
        List.length_cons, ← calls, ih]

/-- Without methods nothing is a brand check. -/
theorem brandCall_of_isEmpty (h : rule.methods.isEmpty) : ∀ e, brandCall rule e = none
  | .paren _ e => brandCall_of_isEmpty h e
  | .not _ e => brandCall_of_isEmpty h e
  | .call s f _ => by
    have hnone : calledMethod rule f = none := by
      rw [calledMethod]
      cases f.bare <;> simp [isBrandCheck, List.isEmpty_iff.mp h]
    rw [brandCall, hnone]
    rfl
  | .name _ _ | .logical _ _ _ _ | .other _ _ => rfl

theorem calls_of_isEmpty (h : rule.methods.isEmpty) (es : List Expr) : calls rule es = [] :=
  List.filterMap_eq_nil_iff.mpr fun e _ => brandCall_of_isEmpty h e

/-! ### Other methods -/

variable {rule' : ChainRule}

/-- A brand check is one when more methods are known. -/
theorem brandCall_mono (hsub : rule.methods ⊆ rule'.methods) {call : String × Span} :
    ∀ {e : Expr}, brandCall rule e = some call → brandCall rule' e = some call
  | .paren _ e, h => brandCall_mono hsub (e := e) h
  | .not _ e, h => brandCall_mono hsub (e := e) h
  | .call s f _, h => by
    rw [brandCall, Option.map_eq_some_iff] at h ⊢
    obtain ⟨name, hm, hcall⟩ := h
    obtain ⟨hname, hf⟩ := calledMethod_eq_some.mp hm
    exact ⟨name, calledMethod_eq_some.mpr ⟨hsub hname, hf⟩, hcall⟩

section Congr

variable (hm : ∀ name, name ∈ rule.methods ↔ name ∈ rule'.methods)
include hm

theorem isEmpty_congr : rule.methods.isEmpty = rule'.methods.isEmpty := by
  rw [Bool.eq_iff_iff, List.isEmpty_iff, List.isEmpty_iff, List.eq_nil_iff_forall_not_mem,
    List.eq_nil_iff_forall_not_mem]
  exact forall_congr' fun name => not_congr (hm name)

theorem brandCall_congr (e : Expr) : brandCall rule e = brandCall rule' e :=
  Option.ext fun _ => ⟨brandCall_mono fun name => (hm name).mp,
    brandCall_mono fun name => (hm name).mpr⟩

theorem calls_congr (es : List Expr) : calls rule es = calls rule' es :=
  List.filterMap_congr fun e _ => brandCall_congr hm e

/-- Of the methods of a rule only their set matters to a walk. -/
theorem examine_congr (es : List Expr) (seen : Seen) :
    examine rule es seen = examine rule' es seen := by
  have hcallee : ∀ e seen, callee rule e seen = callee rule' e seen := by
    intro e seen
    rw [callee_eq, callee_eq, brandCall_congr hm]
  induction es generalizing seen with
  | nil => rfl
  | cons e es ih => simp only [examine, hcallee, ih]

theorem collect_congr (l : Logical) (seen : Seen) : collect rule l seen = collect rule' l seen := by
  rw [collect_eq, collect_eq, examine_congr hm, calls_congr hm]

end Congr

end ChainRule

end ChainLint
