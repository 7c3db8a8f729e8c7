import ChainLint.Proofs.Text.Offsets

/-!
# Positions in the order of offsets

On the character boundaries of a text, a later offset has a later position, and a position leads back to
its offset: past the line feeds of the lines above, and then over the characters to the left.  Every
other offset has the position of the end of the text.

* `Position.Before p q`: `p` is on an earlier line than `q`, or further left on the same line.
* `Text.IsBoundary cs n`: the offset `n` lies between two characters of `cs` or at one of its ends.
* `Text.offset? cs p`: the offset that a position leads back to.
* `Text.position_before`: positions grow with the offsets of boundaries.
* `Text.offset?_position`: a boundary is recovered from its position.
* `Text.position_of_not_isBoundary`: the position of every other offset.
-/

namespace ChainLint

namespace Position

/-- Whether `p` is on an earlier line than `q`, or further left on the same line. -/
def Before (p q : Position) : Prop := p.line < q.line ∨ p.line = q.line ∧ p.column < q.column

variable {p q r : Position}

theorem Before.trans (hpq : p.Before q) (hqr : q.Before r) : p.Before r := by
  unfold Before at *
  omega

theorem before_step (p : Position) (c : Char) : p.Before (p.step c) := by
  unfold Before step
  split_ifs <;> simp

/-- Each character leads to a later position. -/
theorem before_foldl_step (p : Position) {cs : List Char} (h : cs ≠ []) :
    p.Before (cs.foldl step p) := by
  induction cs generalizing p with
  | nil => exact absurd rfl h
  | cons c cs ih =>
    rw [List.foldl_cons]
    by_cases hcs : cs = []
    · rw [hcs]
      exact before_step p c
    · exact (before_step p c).trans (ih (p.step c) hcs)

/-- Within a line only the column moves. -/
theorem foldl_step_of_line (p : Position) {cs : List Char} (h : '\n' ∉ cs) :
    cs.foldl step p = ⟨p.line, p.column + cs.length⟩ := by
  induction cs generalizing p with
  | nil => rfl
  | cons c cs ih =>
    have hc : c ≠ '\n' := fun hc => h (hc ▸ List.mem_cons_self)
    have hcs : '\n' ∉ cs := fun hcs => h (List.mem_cons_of_mem c hcs)
    rw [List.foldl_cons, ih _ hcs, step, if_neg hc, List.length_cons]
    exact congrArg (Position.mk p.line) (Nat.add_right_comm p.column 1 cs.length)

end Position

namespace Text

variable {cs front back : List Char} {m n : Nat}

/-! ### Boundaries -/

/-- Whether a byte offset lies between two characters of a text or at one of its ends. -/
def IsBoundary (cs : List Char) (n : Nat) : Prop :=
  ∃ front back, cs = front ++ back ∧ byteLength front = n

/-- No boundary lies past the end. -/
theorem IsBoundary.le (h : IsBoundary cs n) : n ≤ byteLength cs := by
  obtain ⟨front, back, rfl, rfl⟩ := h
  rw [byteLength_append]
  omega

theorem takeBytes_front (front back : List Char) :
    takeBytes (byteLength front) (front ++ back) = some front :=
  takeBytes_eq_some_iff.mpr ⟨back, rfl, rfl⟩

/-- Whole characters are taken up to boundaries only. -/
theorem isBoundary_iff : IsBoundary cs n ↔ (takeBytes n cs).isSome = true := by
  rw [Option.isSome_iff_exists]
  exact exists_congr fun front => takeBytes_eq_some_iff.symm

instance (cs : List Char) (n : Nat) : Decidable (IsBoundary cs n) :=
  decidable_of_iff _ isBoundary_iff.symm

/-- The position at a boundary is that of the characters before it. -/
theorem position_front (front back : List Char) :
    position (front ++ back) (byteLength front) = front.foldl Position.step .origin := by
  rw [position, before, takeBytes_front, Option.getD_some]

/-- Past the end and inside a character the position is that of the end. -/
theorem position_of_not_isBoundary (h : ¬ IsBoundary cs n) :
    position cs n = position cs (byteLength cs) := by
  have htake : takeBytes n cs = none := by simpa using mt isBoundary_iff.mpr h
  have hend := position_front cs []
  rw [List.append_nil] at hend
  rw [hend, position, before, htake, Option.getD_none]

/-- Positions grow with the offsets of boundaries. -/
theorem position_before (hm : IsBoundary cs m) (hn : IsBoundary cs n) (h : m < n) :
    (position cs m).Before (position cs n) := by
  obtain ⟨front, back, rfl, rfl⟩ := hm
  obtain ⟨front', back', heq, rfl⟩ := hn
  -- One of the two parts begins the other; the shorter one in bytes is the first.
  rcases List.append_eq_append_iff.mp heq with ⟨more, rfl, -⟩ | ⟨more, rfl, -⟩
  · have hmore : more ≠ [] := by
      rintro rfl
      rw [List.append_nil] at h
      omega
    rw [position_front front back, heq, position_front, List.foldl_append]
    exact Position.before_foldl_step _ hmore
  · rw [byteLength_append] at h
    omega

/-! ### From positions to offsets -/

/-- What stands behind the `n`-th line feed of a text. -/
def behindLines : Nat → List Char → Option (List Char)
  | 0, cs => some cs
  | _ + 1, [] => none
  | n + 1, c :: cs => behindLines (if c = '\n' then n else n + 1) cs

/-- The offset that a position leads back to: past the line feeds of the lines above, and then over the
characters to the left. -/
def offset? (cs : List Char) (p : Position) : Option Nat :=
  (behindLines (p.line - 1) cs).bind fun rest =>
    if p.column - 1 ≤ rest.length then
      some (byteLength cs - byteLength (rest.drop (p.column - 1)))
    else none

theorem behindLines_append (lines rest : List Char) :
    behindLines (lines.count '\n' + 1) (lines ++ '\n' :: rest) = some rest := by
  induction lines with
  | nil => simp [behindLines]
  | cons c lines ih =>
    rw [List.cons_append, behindLines, List.count_cons]
    by_cases hc : c = '\n'
    · simpa [hc] using ih
    · simpa [hc] using ih

/-- A text lies on one line, or its last line stands behind a line feed. -/
theorem exists_last_line (cs : List Char) :
    '\n' ∉ cs ∨ ∃ lines line, cs = lines ++ '\n' :: line ∧ '\n' ∉ line := by
  by_cases h : '\n' ∈ cs
  · obtain ⟨line, lines, heq, hline⟩ := List.eq_append_cons_of_mem (List.mem_reverse.mpr h)
    refine Or.inr ⟨lines.reverse, line.reverse, ?_, mt List.mem_reverse.mp hline⟩
    simpa using congrArg List.reverse heq
  · exact Or.inl h

theorem offset?_of_behindLines {p : Position} {line : List Char} {k : Nat}
    (hrest : behindLines (p.line - 1) cs = some (line ++ back)) (hcolumn : p.column = 1 + line.length)
    (hlength : byteLength cs = k + byteLength back) : offset? cs p = some k := by
  have hleft : p.column - 1 = line.length := by omega
  have hk : byteLength cs - byteLength back = k := by omega
  rw [offset?, hrest, Option.bind_some, hleft, if_pos (by simp), List.drop_left, hk]

/-- A boundary is recovered from its position. -/
theorem offset?_position (h : IsBoundary cs n) : offset? cs (position cs n) = some n := by
  obtain ⟨front, back, rfl, rfl⟩ := h
  have hlength := byteLength_append front back
  rw [position_front]
  rcases exists_last_line front with hline | ⟨lines, line, rfl, hline⟩
  · -- on the first line the column alone tells how far to go
    rw [Position.foldl_step_of_line _ hline]
    have hrest : behindLines 0 (front ++ back) = some (front ++ back) := by rw [behindLines]
    exact offset?_of_behindLines hrest rfl hlength
  · have hposition : (lines ++ '\n' :: line).foldl Position.step .origin =
        ⟨1 + lines.count '\n' + 1, 1 + line.length⟩ := by
      rw [List.foldl_append, List.foldl_cons, Position.foldl_step_of_line _ hline, Position.step,
        if_pos rfl, Position.line_foldl_step]
      rfl
    have hrest : behindLines (1 + lines.count '\n' + 1 - 1) (lines ++ '\n' :: line ++ back) =
        some (line ++ back) := by
      have hlines := behindLines_append lines (line ++ back)
      have hcount : 1 + lines.count '\n' + 1 - 1 = lines.count '\n' + 1 := by omega
      rw [hcount]
      simpa using hlines
    rw [hposition]
    exact offset?_of_behindLines hrest rfl hlength

end Text

end ChainLint
