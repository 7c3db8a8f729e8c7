import ChainLint.Diagnostic
import ChainLint.Expr
import ChainLint.Rule

/-!
# Chains of brand checks

A logical expression is a chain: its right operand, the right operands of the logical expressions
down its left side, and the left operand of the last of these.  A *brand check* is a call `isX()` of
a method from a given set, under any number of negations and parentheses.

`ChainRule.check rule l seen` walks the chain of `l` from its right end as long as it meets brand
checks.  Every node that is looked at is recorded in `seen` by its span, and a node that is recorded
already ends the walk, so no call is counted twice in one traversal.  The walk is reported when it
met more brand checks than the rule allows; their names are listed from left to right.

* `ChainRule.callee`: the method a node calls as a brand check.
* `ChainRule.walk`: the names down the left side.
* `ChainRule.collect`: the names of the whole chain, the rightmost first.
* `ChainRule.checkAll`: the findings of several checks that share what they have seen.
-/

namespace ChainLint

/-- The spans of the nodes that have been looked at, the latest first. -/
structure Seen where
  spans : List Span
  nodup : spans.Nodup

namespace Seen

/-- Nothing has been looked at. -/
def empty : Seen := ⟨[], List.Pairwise.nil⟩

instance : Inhabited Seen := ⟨empty⟩

/-- Whether a span is recorded. -/
def contains (seen : Seen) (s : Span) : Bool := seen.spans.contains s

/-- How many spans are recorded. -/
def size (seen : Seen) : Nat := seen.spans.length

/-- Records a span; one that is recorded already changes nothing. -/
def record (seen : Seen) (s : Span) : Seen :=
  if h : s ∈ seen.spans then seen else ⟨s :: seen.spans, List.nodup_cons.2 ⟨h, seen.nodup⟩⟩

end Seen

/-- The rule on chains: how many brand checks one may hold, and the methods that are brand checks. -/
structure ChainRule where
  limit : Nat
  methods : List String
deriving DecidableEq, Inhabited

namespace ChainRule

/-- How many brand checks a chain may hold unless said otherwise. -/
def defaultLimit : Nat := 3

/-- The rule without options. -/
def default : ChainRule := ⟨defaultLimit, []⟩

/-- Whether a method is a brand check. -/
def isBrandCheck (rule : ChainRule) (name : String) : Bool := rule.methods.contains name

/-- The method that a call names as a brand check. -/
def calledMethod (rule : ChainRule) (callee : Expr) : Option String :=
  match callee.bare with
  | .name _ text => if rule.isBrandCheck text then some text else none
  | _ => none

/-- The method that a node calls as a brand check; looks at the node and, through negations, below. -/
def callee (rule : ChainRule) : Expr → Seen → Option String × Seen
  | .paren _ e, seen => callee rule e seen
  | .not s e, seen => if seen.contains s then (none, seen) else callee rule e (seen.record s)
  | .call s f _, seen =>
    if seen.contains s then (none, seen) else (calledMethod rule f, seen.record s)
  | e, seen => (none, seen.record e.span)

/-- The brand checks down the left side of a chain, the rightmost first, until one fails. -/
def walk (rule : ChainRule) : Expr → Seen → List String × Seen
  | .paren _ e, seen => walk rule e seen
  | .logical _ _ left right, seen =>
    match callee rule right seen with
    | (none, seen) => ([], seen)
    | (some name, seen) =>
      let (names, seen) := walk rule left seen
      (name :: names, seen)
  | e, seen =>
    match callee rule e seen with
    | (none, seen) => ([], seen)
    | (some name, seen) => ([name], seen)

/-- The brand checks of a chain, the rightmost first, until one fails. -/
def collect (rule : ChainRule) (l : Logical) (seen : Seen) : List String × Seen :=
  match callee rule l.right seen with
  | (none, seen) => ([], seen)
  | (some name, seen) =>
    let (names, seen) := walk rule l.left seen
    (name :: names, seen)

/-- The message on a chain, given its brand checks from left to right. -/
def message (names : List String) : String :=
  "Call brand check method too many times [" ++ ", ".intercalate (names.map (· ++ "()")) ++
    "], please add a new field (isXXXX) in 'brandFeaturesConfig', " ++
    "and use \"getBrandFeatures().isXXXX\" here."

/-- The finding on a chain, given its brand checks from right to left. -/
def finding (rule : ChainRule) (l : Logical) (names : List String) : Option Diagnostic :=
  if rule.limit < names.length then
    some (.warning Rule.chainName l.span (message names.reverse))
  else none

/-- Checks one logical expression; without methods nothing is looked at. -/
def check (rule : ChainRule) (l : Logical) (seen : Seen) : Option Diagnostic × Seen :=
  if rule.methods.isEmpty then (none, seen)
  else
    let (names, seen) := collect rule l seen
    (finding rule l names, seen)

/-- Checks logical expressions in turn; each sees what the earlier ones have looked at. -/
def checkAll (rule : ChainRule) : List Logical → Seen → List Diagnostic × Seen
  | [], seen => ([], seen)
  | l :: ls, seen =>
    let (found, seen) := check rule l seen
    let (rest, seen) := checkAll rule ls seen
    (found.toList ++ rest, seen)

end ChainRule

end ChainLint
