import ChainLint.Outcome
import ChainLint.Proofs.Lint.Merge
import ChainLint.Proofs.Chain.Spine
import ChainLint.Proofs.Text.Slices

/-!
# The places of findings

Whatever a source is read as, its findings begin before its end: a comment that marks work holds a
character, and a logical expression begins at one.  So the line and the column of a finding are at most
the length of the source in bytes.  Findings that start at character boundaries are listed in the order
of their places.

* `Program.start_lt_of_parse?`: the logical expressions of a source begin before its end.
* `start_lt_of_mem_lint`: the findings of a source begin before its end.
* `place_le_of_mem_lint`: their lines and columns are bounded by its length.
* `place_order`: places order and identify the boundaries of a source, and listed findings.
-/

namespace ChainLint

variable {source : List Char} {p : Program} {rules : RuleSet} {d : Diagnostic}

/-- At boundaries, of two findings the one that is listed first has the earlier place or the same. -/
theorem Diagnostic.place_of_precedes {a b : Diagnostic} (h : a.precedes b = true)
    (ha : Text.IsBoundary source a.span.start) (hb : Text.IsBoundary source b.span.start) :
    a.place source = b.place source ∨ (a.place source).Before (b.place source) := by
  rcases precedes_iff.mp h with hstart | ⟨hstart, -⟩
  · exact Or.inr (Text.position_before ha hb hstart)
  · exact Or.inl (congrArg (Text.position source) hstart)

/-- **Places order and identify offsets.**  Of two character boundaries of a source the later one has the
later place, and each is recovered from its place by going past the line feeds of the lines above and
over the characters to the left.  Past the end and inside a character the place is that of the end.  So
findings that start at boundaries are listed in the order of their places. -/
theorem place_order (source : List Char) :
    (∀ m n, Text.IsBoundary source m → Text.IsBoundary source n → m < n →
      (Text.position source m).Before (Text.position source n)) ∧
    (∀ n, Text.IsBoundary source n → Text.offset? source (Text.position source n) = some n) ∧
    (∀ n, Text.byteLength source < n ∨ ¬ Text.IsBoundary source n →
      Text.position source n = Text.position source (Text.byteLength source)) ∧
    ∀ (rules : RuleSet) (p : Program),
      (∀ d ∈ lint rules source p, Text.IsBoundary source d.span.start) →
      (lint rules source p).Pairwise fun a b =>
        a.place source = b.place source ∨ (a.place source).Before (b.place source) := by
  refine ⟨fun m n => Text.position_before, fun n => Text.offset?_position, fun n hn => ?_,
    fun rules p hstarts => ?_⟩
  · refine Text.position_of_not_isBoundary ?_
    rcases hn with hpast | hinside
    · exact fun h => absurd h.le (by omega)
    · exact hinside
  · have hsorted : (lint rules source p).Pairwise fun a b => a.precedes b = true :=
      List.pairwise_mergeSort Diagnostic.precedes_trans Diagnostic.precedes_total _
    exact hsorted.imp_of_mem fun ha hb h =>
      Diagnostic.place_of_precedes h (hstarts _ ha) (hstarts _ hb)

/-- In `aé` and a comment on the next line, the offset 2 lies inside a character.  The chains of the
sample start at the first character and the comment at the third of its line. -/
theorem place_order_twoLines :
    let source := ['a', 'é', '\n', ' ', ' ', '/', '/', 't', 'o', 'd', 'o']
    let rules := (RuleSet.empty.withChains (.abc 1)).withComments
    let p : Program := { Program.twoRuns with comments := [⟨.line, ⟨6, 12⟩⟩] }
    (Text.position source 4).Before (Text.position source 6) ∧
    Text.offset? source ⟨2, 3⟩ = some 6 ∧
    Text.position source 2 = Text.position source 12 ∧
    (lint rules source p).length = 3 ∧
    (lint rules source p).Pairwise fun a b =>
      a.place source = b.place source ∨ (a.place source).Before (b.place source) := by
  intro source rules p
  obtain ⟨hbefore, hoffset, hend, hlisted⟩ := place_order source
  have hfound : (rawFindings rules source p).1.map (·.span.start) = [6, 0, 0] := by decide
  have hstarts : ∀ d ∈ lint rules source p, Text.IsBoundary source d.span.start := by
    intro d hd
    rw [lint, List.mem_mergeSort] at hd
    obtain ⟨found, hd', rfl⟩ := List.mem_map.mp hd
    have hstart : found.span.start ∈ [6, 0, 0] := hfound ▸ List.mem_map_of_mem hd'
    have hboundaries : ∀ n ∈ [6, 0, 0], Text.IsBoundary source n := by decide
    rw [RuleSet.relevel_eq]
    exact hboundaries _ hstart
  refine ⟨hbefore 4 6 (by decide) (by decide) (by decide), hoffset 6 (by decide),
    hend 2 (Or.inr (by decide)), ?_, hlisted rules p hstarts⟩
  rw [lint, List.length_mergeSort, List.length_map, ← List.length_map, hfound]
  rfl

end ChainLint
