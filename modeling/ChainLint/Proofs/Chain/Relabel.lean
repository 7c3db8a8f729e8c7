import ChainLint.Proofs.Chain.Counted

/-!
# Chains under other spans

The check of chains compares spans for equality and for nothing else.  When every span of a program is
replaced, different spans by different ones, what is found and what is recorded changes in its spans
only.

* `Expr.mapSpan f e`, `Logical.mapSpan f l`: the same nodes at other spans.
* `Seen.map hf seen`: the recorded spans, replaced.
* `Expr.logicals_mapSpan`: the traversal meets the same logical expressions in the same order.
* `ChainRule.checkAll_mapSpan`: checks that share what they have seen.
-/

namespace ChainLint

/-! ### The same nodes at other spans -/

namespace Expr

mutual

/-- An expression with every span replaced. -/
def mapSpan (f : Span → Span) : Expr → Expr
  | .name s text => .name (f s) text
  | .call s callee args => .call (f s) (mapSpan f callee) (mapSpans f args)
  | .logical s op left right => .logical (f s) op (mapSpan f left) (mapSpan f right)
  | .not s e => .not (f s) (mapSpan f e)
  | .paren s e => .paren (f s) (mapSpan f e)
  | .other s parts => .other (f s) (mapSpans f parts)

/-- Expressions with every span replaced. -/
def mapSpans (f : Span → Span) : List Expr → List Expr
  | [] => []
  | e :: es => mapSpan f e :: mapSpans f es

end

end Expr

/-- A logical expression with every span replaced. -/
def Logical.mapSpan (f : Span → Span) (l : Logical) : Logical :=
  ⟨f l.span, l.op, l.left.mapSpan f, l.right.mapSpan f⟩

/-- A finding at another span. -/
def Diagnostic.mapSpan (f : Span → Span) (d : Diagnostic) : Diagnostic := { d with span := f d.span }

namespace Expr

variable (f : Span → Span)

mutual

theorem logicals_mapSpan : ∀ e : Expr, (e.mapSpan f).logicals = e.logicals.map (Logical.mapSpan f)
  | .name _ _ => rfl
  | .call _ callee args => by
    rw [mapSpan, logicals, logicals, logicals_mapSpan callee, logicalsIn_mapSpans args,
      List.map_append]
  | .logical _ _ left right => by
    rw [mapSpan, logicals, logicals, logicals_mapSpan left, logicals_mapSpan right, List.map_cons,
      List.map_append]
    rfl
  | .not _ e => by rw [mapSpan, logicals, logicals, logicals_mapSpan e]
  | .paren _ e => by rw [mapSpan, logicals, logicals, logicals_mapSpan e]
  | .other _ parts => by rw [mapSpan, logicals, logicals, logicalsIn_mapSpans parts]

theorem logicalsIn_mapSpans : ∀ es : List Expr,
    logicalsIn (mapSpans f es) = (logicalsIn es).map (Logical.mapSpan f)
  | [] => rfl
  | e :: es => by
    rw [mapSpans, logicalsIn, logicalsIn, logicals_mapSpan e, logicalsIn_mapSpans es,
      List.map_append]

end

end Expr

/-! ### Recorded spans -/

section Injective

variable {f : Span → Span} (hf : Function.Injective f)

/-- The recorded spans, replaced. -/
def Seen.map (seen : Seen) : Seen := ⟨seen.spans.map f, seen.nodup.map hf⟩

namespace Seen

variable {seen : Seen} {s : Span}

theorem contains_map : (seen.map hf).contains (f s) = seen.contains s := by
  rw [Bool.eq_iff_iff, contains_iff, contains_iff]
  exact List.mem_map_of_injective hf

theorem record_map : (seen.map hf).record (f s) = (seen.record s).map hf := by
  by_cases hs : s ∈ seen.spans
  · have hs' : f s ∈ (seen.map hf).spans := List.mem_map_of_mem hs
    rw [record_of_mem hs, record_of_mem hs']
  · have hs' : f s ∉ (seen.map hf).spans := mt (List.mem_map_of_injective hf).mp hs
    simp only [record, dif_neg hs, dif_neg hs']
    rfl

end Seen

/-! ### Checks -/

namespace ChainRule

variable (rule : ChainRule)

theorem calledMethod_mapSpan (f : Span → Span) :
    ∀ e : Expr, rule.calledMethod (e.mapSpan f) = rule.calledMethod e
  | .paren _ e => calledMethod_mapSpan f e
  | .name _ _ | .call _ _ _ | .logical _ _ _ _ | .not _ _ | .other _ _ => by
    rw [Expr.mapSpan]
    rfl

theorem callee_mapSpan : ∀ (e : Expr) (seen : Seen), rule.callee (e.mapSpan f) (seen.map hf) =
    ((rule.callee e seen).1, (rule.callee e seen).2.map hf)
  | .paren _ e, seen => callee_mapSpan e seen
  | .not s e, seen => by
    rw [Expr.mapSpan, callee, callee, Seen.contains_map, Seen.record_map]
    split_ifs
    · rfl
    · exact callee_mapSpan e _
  | .call s callee args, seen => by
    rw [Expr.mapSpan, ChainRule.callee, ChainRule.callee, Seen.contains_map, Seen.record_map,
      calledMethod_mapSpan]
    split_ifs <;> rfl
  | .name _ _, seen | .logical _ _ _ _, seen | .other _ _, seen => by
    simp only [Expr.mapSpan, callee, Expr.span, Seen.record_map]

/-- The walk of a node that is no chain is a look at the node. -/
theorem walk_of_operands {e : Expr} {seen : Seen} (h : e.operands = [e]) :
    rule.walk e seen = ((rule.callee e seen).1.toList, (rule.callee e seen).2) := by
  rw [walk_eq, h]
  cases hc : (rule.callee e seen).1 with
  | none =>
    rw [examine_cons_of_none hc]
    rfl
  | some name =>
    rw [examine_cons_of_some hc, calls_cons_of_some hc]
    rfl

theorem walk_mapSpan : ∀ (e : Expr) (seen : Seen), rule.walk (e.mapSpan f) (seen.map hf) =
    ((rule.walk e seen).1, (rule.walk e seen).2.map hf)
  | .paren _ e, seen => walk_mapSpan e seen
  | .logical _ _ left right, seen => by
    rw [Expr.mapSpan, walk, walk, callee_mapSpan hf]
    rcases rule.callee right seen with ⟨_ | name, seen'⟩
    · rfl
    · simp only [walk_mapSpan left seen']
  | .name _ _, seen | .call _ _ _, seen | .not _ _, seen | .other _ _, seen => by
    rw [walk_of_operands rule rfl, walk_of_operands rule rfl, callee_mapSpan hf]

theorem collect_mapSpan (l : Logical) (seen : Seen) :
    rule.collect (l.mapSpan f) (seen.map hf) =
      ((rule.collect l seen).1, (rule.collect l seen).2.map hf) := by
  rw [collect, collect, Logical.mapSpan, callee_mapSpan hf]
  rcases rule.callee l.right seen with ⟨_ | name, seen'⟩
  · rfl
  · simp only [walk_mapSpan hf]

/-- A check finds the same chain at its other span. -/
theorem check_mapSpan (l : Logical) (seen : Seen) : rule.check (l.mapSpan f) (seen.map hf) =
    ((rule.check l seen).1.map (Diagnostic.mapSpan f), (rule.check l seen).2.map hf) := by
  rw [check, check, collect_mapSpan hf]
  split_ifs
  · rfl
  · simp only [finding]
    split_ifs <;> rfl

/-- **Only the equality of spans matters** to checks that share what they have seen. -/
theorem checkAll_mapSpan (ls : List Logical) (seen : Seen) :
    rule.checkAll (ls.map (Logical.mapSpan f)) (seen.map hf) =
      ((rule.checkAll ls seen).1.map (Diagnostic.mapSpan f), (rule.checkAll ls seen).2.map hf) := by
  induction ls generalizing seen with
  | nil => rfl
  | cons l ls ih =>
    rw [List.map_cons, checkAll_cons, checkAll_cons, check_mapSpan hf, ih, List.map_append]
    cases (rule.check l seen).1 <;> rfl

end ChainRule

end Injective

end ChainLint
