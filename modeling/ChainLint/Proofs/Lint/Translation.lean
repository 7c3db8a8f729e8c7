import ChainLint.Proofs.Chain.Relabel
import ChainLint.Proofs.Chain.Spine
import ChainLint.Proofs.Lint.Merge
import ChainLint.Proofs.Text.Offsets

/-!
# A program behind other text

When a text is put in front of a source and every span of its program is moved along, the same findings
are listed in the same order at the moved spans.  Behind whole lines they stand as many lines further
down, in the same columns; so do findings that start at no boundary of the source.

* `Program.move k p`: the program `k` bytes further on.
* `rawFindings_move`: what is found and what is looked at move along.
* `lint_behind`: the listed findings and their places.
-/

namespace ChainLint

/-- A program with every span `k` bytes further on. -/
def Program.move (k : Nat) (p : Program) : Program where
  comments := p.comments.map fun c => ⟨c.kind, c.span.move k⟩
  body := Expr.mapSpans (Span.move k) p.body

/-- A finding `k` bytes further on. -/
def Diagnostic.move (k : Nat) (d : Diagnostic) : Diagnostic := d.mapSpan (Span.move k)

theorem Program.logicals_move (k : Nat) (p : Program) :
    (p.move k).logicals = p.logicals.map (Logical.mapSpan (Span.move k)) :=
  Expr.logicalsIn_mapSpans (Span.move k) p.body

/-- A comment has the same body behind other text. -/
theorem Comment.findings_move (front source : List Char) (comments : List Comment) :
    findings (front ++ source)
        (comments.map fun c => ⟨c.kind, c.span.move (Text.byteLength front)⟩) =
      (findings source comments).map (Diagnostic.move (Text.byteLength front)) := by
  have hbody : isUnspecified (front ++ source) ∘
      (fun c => (⟨c.kind, c.span.move (Text.byteLength front)⟩ : Comment)) =
        isUnspecified source := by
    funext c
    simp only [Function.comp_apply, isUnspecified, body, Text.slice?_append]
  rw [findings, findings, List.filter_map, hbody, List.map_map, List.map_map]
  rfl

section Moved

variable (rules : RuleSet) (front source : List Char) (p : Program)

/-- What is found and what is looked at move along. -/
theorem rawFindings_move :
    rawFindings rules (front ++ source) (p.move (Text.byteLength front)) =
      ((rawFindings rules source p).1.map (Diagnostic.move (Text.byteLength front)),
        (rawFindings rules source p).2.map (Span.move_injective (Text.byteLength front))) := by
  have hcomments : (if rules.comments then
        Comment.findings (front ++ source) (p.move (Text.byteLength front)).comments else []) =
      (if rules.comments then Comment.findings source p.comments else []).map
        (Diagnostic.move (Text.byteLength front)) := by
    split_ifs
    · exact Comment.findings_move front source p.comments
    · rfl
  rw [rawFindings, rawFindings, hcomments]
  cases rules.chains with
  | none => rfl
  | some rule =>
    have hchains := rule.checkAll_mapSpan (Span.move_injective (Text.byteLength front))
      p.logicals .empty
    rw [← Program.logicals_move] at hchains
    have hempty : Seen.empty.map (Span.move_injective (Text.byteLength front)) = .empty := rfl
    rw [hempty] at hchains
    simp only [chainFindings, hchains, List.map_append]
    rfl

theorem Diagnostic.precedes_move (k : Nat) (a b : Diagnostic) :
    (a.move k).precedes (b.move k) = a.precedes b := by
  rw [Bool.eq_iff_iff, precedes_iff, precedes_iff]
  simp only [move, mapSpan, Span.move]
  omega

/-- **A program behind other text** has the same findings, in the same order, at the moved spans.
Behind whole lines every place is as many lines further down, in the same column. -/
theorem lint_behind :
    lint rules (front ++ source) (p.move (Text.byteLength front)) =
      (lint rules source p).map (Diagnostic.move (Text.byteLength front)) ∧
    ((front = [] ∨ front.getLast? = some '\n') → ∀ d : Diagnostic,
      (d.move (Text.byteLength front)).place (front ++ source) =
        ⟨(d.place source).line + front.count '\n', (d.place source).column⟩) := by
  refine ⟨?_, fun hlines d => Text.position_append source d.span.start hlines⟩
  have hlevel : rules.relevel ∘ Diagnostic.move (Text.byteLength front) =
      Diagnostic.move (Text.byteLength front) ∘ rules.relevel := by
    funext d
    rw [Function.comp_apply, Function.comp_apply, RuleSet.relevel_eq, RuleSet.relevel_eq]
    rfl
  have hsort := List.map_mergeSort (r := Diagnostic.precedes) (s := Diagnostic.precedes)
    (f := Diagnostic.move (Text.byteLength front))
    (l := (rawFindings rules source p).1.map rules.relevel)
    fun a _ b _ => (Diagnostic.precedes_move _ a b).symm
  rw [lint, lint, rawFindings_move, List.map_map, hlevel, ← List.map_map, hsort]

end Moved

/-- Behind one line of three bytes, the comment below `aé` and the two chains of the sample are found
three bytes further on.  The comment keeps its column, and so does what would start inside the `é`. -/
theorem lint_behind_twoRuns :
    let source := ['a', 'é', '\n', ' ', ' ', '/', '/', 't', 'o', 'd', 'o']
    let front := ['é', '\n']
    let rules := (RuleSet.empty.withChains (.abc 1)).withComments
    let p : Program := { Program.twoRuns with comments := [⟨.line, ⟨6, 12⟩⟩] }
    let comment : Diagnostic := .warning Rule.commentName ⟨6, 12⟩ Comment.message
    (front = [] ∨ front.getLast? = some '\n') ∧
    (lint rules source p).length = 3 ∧ comment ∈ lint rules source p ∧
    lint rules (front ++ source) (p.move 3) = (lint rules source p).map (Diagnostic.move 3) ∧
    comment.place source = ⟨2, 3⟩ ∧ (comment.move 3).place (front ++ source) = ⟨3, 3⟩ ∧
    ((Diagnostic.warning Rule.chainName ⟨2, 14⟩ "").move 3).place (front ++ source) = ⟨3, 9⟩ := by
  intro source front rules p comment
  have hlines : front = [] ∨ front.getLast? = some '\n' := Or.inr rfl
  have hcount : (rawFindings rules source p).1.length = 3 := by decide
  have hcomment : comment ∈ rules.commentPart source p := by decide
  obtain ⟨hfound, hplace⟩ := lint_behind rules front source p
  refine ⟨hlines, ?_, ?_, hfound, rfl, (hplace hlines comment).trans rfl,
    (hplace hlines _).trans rfl⟩
  · rw [lint, List.length_mergeSort, List.length_map, hcount]
  · rw [lint, List.mem_mergeSort, RuleSet.map_relevel_rawFindings]
    exact List.mem_append_left _ hcomment

end ChainLint
