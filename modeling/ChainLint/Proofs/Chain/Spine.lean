import ChainLint.Program
import ChainLint.Proofs.Chain.Examine

/-!
# The chains of a program

A maximal chain consists of a logical expression that is not itself a left operand and of those down
its left side, parentheses aside.

* `Expr.links e`: the logical expressions down the left side of `e`, the outermost first, and
  `Expr.leftmost e`: the node at its lower end.
* `Expr.chains false e`: the maximal chains of `e`, each by its outermost logical expression.
* `Logical.own l`: the operands of its chain that `l` brings in: the right one, and the left one when
  the chain ends there.
* `logicals_eq_flatMap_links`: the traversal goes through one maximal chain after another.
* `Program.flatMap_own`: every operand of a maximal chain is brought in by one logical expression.
-/

namespace ChainLint

namespace Expr

/-- Whether a node is a logical expression, parentheses aside. -/
def isLogical : Expr → Bool
  | .paren _ e => isLogical e
  | .logical _ _ _ _ => true
  | _ => false

/-- The node at the lower end of the left side of a node. -/
def leftmost : Expr → Expr
  | .paren _ e => leftmost e
  | .logical _ _ left _ => leftmost left
  | e => e

/-- The logical expressions down the left side of a node, the outermost first. -/
def links : Expr → List Logical
  | .paren _ e => links e
  | .logical s op l r => ⟨s, op, l, r⟩ :: links l
  | _ => []

mutual

/-- The maximal chains of an expression, each by its outermost logical expression; the flag tells
that the expression is a left operand, so that its own chain starts further out. -/
def chains : Bool → Expr → List Logical
  | _, .name _ _ => []
  | _, .call _ f args => chains false f ++ chainsIn args
  | isLeft, .logical s op l r =>
    (if isLeft then [] else [⟨s, op, l, r⟩]) ++ (chains true l ++ chains false r)
  | _, .not _ e => chains false e
  | isLeft, .paren _ e => chains isLeft e
  | _, .other _ parts => chainsIn parts

/-- The maximal chains of several expressions in order. -/
def chainsIn : List Expr → List Logical
  | [] => []
  | e :: es => chains false e ++ chainsIn es

end

end Expr

namespace Logical

/-- The logical expressions of the chain at a logical expression, the outermost first. -/
def links (l : Logical) : List Logical := l :: l.left.links

/-- Whether the chain ends with the left operand of a logical expression. -/
def isInnermost (l : Logical) : Bool := !l.left.isLogical

/-- The operands that a logical expression brings into its chain. -/
def own (l : Logical) : List Expr := l.right :: if l.isInnermost then [l.left.bare] else []

/-- The spans of the nodes that may be looked at for the operands of a logical expression. -/
def examined (l : Logical) : List Span := l.own.flatMap Expr.trail

theorem mem_own {l : Logical} {o : Expr} :
    o ∈ l.own ↔ o = l.right ∨ l.isInnermost = true ∧ o = l.left.bare := by
  cases h : l.isInnermost <;> simp [own, h]

theorem right_mem_own (l : Logical) : l.right ∈ l.own := mem_own.mpr (Or.inl rfl)

theorem left_mem_own {l : Logical} (h : l.isInnermost = true) : l.left.bare ∈ l.own :=
  mem_own.mpr (Or.inr ⟨h, rfl⟩)

end Logical

/-- The maximal chains of a program. -/
def Program.chains (p : Program) : List Logical := Expr.chainsIn p.body

/-- The spans of the nodes that a traversal may look at, those of one node after those of another. -/
def Program.examined (p : Program) : List Span := p.logicals.flatMap Logical.examined

/-! ### The operands of a chain -/

theorem Expr.operands_eq : ∀ e : Expr,
    e.operands = (if e.isLogical then [] else [e.bare]) ++ e.links.flatMap Logical.own
  | .paren _ e => operands_eq e
  | .logical s op l r => by
    rw [operands, operands_eq l]
    cases hl : l.isLogical <;> simp [isLogical, links, Logical.own, Logical.isInnermost, hl]
  | .name _ _ | .call _ _ _ | .not _ _ | .other _ _ => rfl

/-- A chain has one operand more than logical expressions. -/
theorem Expr.length_operands : ∀ e : Expr, e.operands.length = e.links.length + 1
  | .paren _ e => length_operands e
  | .logical _ _ left _ => congrArg Nat.succ (length_operands left)
  | .name _ _ | .call _ _ _ | .not _ _ | .other _ _ => rfl

theorem Logical.operands_eq (l : Logical) : l.operands = l.links.flatMap Logical.own :=
  Expr.operands_eq (.logical l.span l.op l.left l.right)

/-- The operands of a chain are the right ones of its logical expressions, and its leftmost node. -/
theorem Expr.operands_eq_rights : ∀ e : Expr,
    e.operands = e.links.map Logical.right ++ [e.leftmost]
  | .paren _ e => operands_eq_rights e
  | .logical _ _ left right => congrArg (right :: ·) (operands_eq_rights left)
  | .name _ _ | .call _ _ _ | .not _ _ | .other _ _ => rfl

theorem Logical.operands_eq_rights (l : Logical) :
    l.operands = l.links.map Logical.right ++ [l.left.leftmost] :=
  Expr.operands_eq_rights (.logical l.span l.op l.left l.right)

/-- The chain at a logical expression of a chain lies on that chain. -/
theorem Expr.mem_links_trans : ∀ (e : Expr) {l l' : Logical}, l ∈ e.links → l' ∈ l.links →
    l' ∈ e.links
  | .paren _ e, _, _, hl, hl' => mem_links_trans e hl hl'
  | .logical _ _ left _, _, _, hl, hl' => by
    rcases List.mem_cons.mp hl with rfl | hin
    · exact hl'
    · exact List.mem_cons_of_mem _ (mem_links_trans left hin hl')

/-! ### The traversal by chains -/

mutual

/-- The traversal of an expression goes through its own chain, then through the chains inside. -/
theorem Expr.logicals_eq : ∀ e : Expr,
    e.logicals = e.links ++ (e.chains true).flatMap Logical.links ∧
      e.logicals = (e.chains false).flatMap Logical.links
  | .paren _ e => Expr.logicals_eq e
  | .logical s op l r => by
    obtain ⟨hl, -⟩ := Expr.logicals_eq l
    obtain ⟨-, hr⟩ := Expr.logicals_eq r
    constructor
    · rw [logicals, links, chains, hl, hr]
      simp
    · rw [logicals, chains, hl, hr]
      simp [Logical.links]
  | .name _ _ => ⟨rfl, rfl⟩
  | .call _ f args => by
    have h : f.logicals ++ logicalsIn args =
        (f.chains false ++ chainsIn args).flatMap Logical.links := by
      rw [List.flatMap_append, ← (Expr.logicals_eq f).2, ← Expr.logicalsIn_eq args]
    exact ⟨h, h⟩
  | .not _ e => ⟨(Expr.logicals_eq e).2, (Expr.logicals_eq e).2⟩
  | .other _ parts => ⟨Expr.logicalsIn_eq parts, Expr.logicalsIn_eq parts⟩

theorem Expr.logicalsIn_eq : ∀ es : List Expr,
    logicalsIn es = (chainsIn es).flatMap Logical.links
  | [] => rfl
  | e :: es => by
    rw [logicalsIn, chainsIn, List.flatMap_append, ← (Expr.logicals_eq e).2,
      ← Expr.logicalsIn_eq es]

end

namespace Program

/-- The traversal goes through one maximal chain after another. -/
theorem logicals_eq_flatMap_links (p : Program) : p.logicals = p.chains.flatMap Logical.links :=
  Expr.logicalsIn_eq p.body

/-- A program contains the chain at each of its logical expressions. -/
theorem mem_logicals_of_mem_links {p : Program} {l l' : Logical} (hl : l ∈ p.logicals)
    (hl' : l' ∈ l.links) : l' ∈ p.logicals := by
  rw [logicals_eq_flatMap_links, List.mem_flatMap] at hl ⊢
  obtain ⟨c, hc, hlc⟩ := hl
  exact ⟨c, hc, Expr.mem_links_trans (.logical c.span c.op c.left c.right) hlc hl'⟩

/-- Every operand of a maximal chain is brought in by one logical expression. -/
theorem flatMap_own (p : Program) :
    p.logicals.flatMap Logical.own = p.chains.flatMap Logical.operands := by
  rw [logicals_eq_flatMap_links, List.flatMap_assoc]
  exact List.flatMap_congr fun l _ => (Logical.operands_eq l).symm

theorem examined_eq (p : Program) :
    p.examined = p.chains.flatMap fun l => l.operands.flatMap Expr.trail := by
  rw [← List.flatMap_assoc, ← flatMap_own, List.flatMap_assoc]
  rfl

/-- One chain of two runs, `isA() && isB() && ready && isB() && !isC()`. -/
def twoRuns : Program where
  comments := []
  body :=
    let first := .logical ⟨0, 14⟩ .and (.call ⟨0, 5⟩ (.name ⟨0, 3⟩ "isA") [])
      (.call ⟨9, 14⟩ (.name ⟨9, 12⟩ "isB") [])
    let parted := .logical ⟨0, 23⟩ .and first (.name ⟨18, 23⟩ "ready")
    let second := .logical ⟨0, 32⟩ .and parted (.call ⟨27, 32⟩ (.name ⟨27, 30⟩ "isB") [])
    [.logical ⟨0, 42⟩ .and second
      (.not ⟨36, 42⟩ (.call ⟨37, 42⟩ (.name ⟨37, 40⟩ "isC") []))]

end Program

/-- A rule on which the calls of `twoRuns` are brand checks. -/
def ChainRule.abc (limit : ℕ) : ChainRule := ⟨limit, ["isA", "isB", "isC"]⟩

end ChainLint
