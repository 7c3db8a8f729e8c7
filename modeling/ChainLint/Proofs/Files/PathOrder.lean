import ChainLint.Path

/-!
# The order of paths

Components are ordered by their form and names among each other, and paths by their components, as the
words of a dictionary are.  The order is total, and two paths each of which is listed before the other
have the same components.

* `Path.componentsPrecede_trans`, `Path.componentsPrecede_total`, `Path.componentsPrecede_antisymm`: the
  order of components.
* `Path.Before as bs`: the strict order that comes with it.
-/

namespace ChainLint.Path

namespace Component

variable {a b c : Component}

/-- A form of a lower rank comes first, and among names the smaller one. -/
theorem before_iff : a.before b = true ↔
    a.rank < b.rank ∨ ∃ x y, a = .normal x ∧ b = .normal y ∧ x < y := by
  cases a <;> cases b <;> simp [before, rank]

theorem not_before_self (a : Component) : ¬ a.before a = true := by
  rw [before_iff]
  rintro (h | ⟨x, y, rfl, hy, hxy⟩)
  · exact absurd h (Nat.lt_irrefl _)
  · obtain rfl := Component.normal.inj hy
    exact String.lt_irrefl _ hxy

theorem before_trans (hab : a.before b = true) (hbc : b.before c = true) : a.before c = true := by
  rw [before_iff] at *
  rcases hab with hab | ⟨x, y, rfl, rfl, hxy⟩
  · rcases hbc with hbc | ⟨x, y, rfl, rfl, -⟩
    · exact Or.inl (Nat.lt_trans hab hbc)
    · exact Or.inl hab
  · rcases hbc with hbc | ⟨y', z, hy, rfl, hyz⟩
    · exact Or.inl hbc
    · obtain rfl := Component.normal.inj hy
      exact Or.inr ⟨x, z, rfl, rfl, String.lt_trans hxy hyz⟩

theorem before_normal_iff {x y : String} : (normal x).before (.normal y) = true ↔ x < y :=
  decide_eq_true_iff

theorem before_or_eq_or_before (a b : Component) :
    a.before b = true ∨ a = b ∨ b.before a = true := by
  cases a <;> cases b
  case normal.normal x y =>
    rw [before_normal_iff, before_normal_iff, Component.normal.injEq]
    by_cases hxy : x < y
    · exact Or.inl hxy
    · by_cases hyx : y < x
      · exact Or.inr (Or.inr hyx)
      · exact Or.inr (Or.inl (String.le_antisymm (String.not_lt.mp hyx) (String.not_lt.mp hxy)))
  all_goals simp [before, rank]

end Component

theorem componentsPrecede_cons {a b : Component} {as bs : List Component} :
    componentsPrecede (a :: as) (b :: bs) = true ↔
      a.before b = true ∨ a = b ∧ componentsPrecede as bs = true := by
  simp [componentsPrecede]

theorem componentsPrecede_trans : ∀ {as bs cs : List Component},
    componentsPrecede as bs = true → componentsPrecede bs cs = true →
      componentsPrecede as cs = true
  | [], _, _, _, _ => rfl
  | _ :: _, _ :: _, [], _, hbc => by cases hbc
  | a :: as, b :: bs, c :: cs, hab, hbc => by
    rw [componentsPrecede_cons] at *
    rcases hab with hab | ⟨rfl, hab⟩
    · rcases hbc with hbc | ⟨rfl, -⟩
      · exact Or.inl (Component.before_trans hab hbc)
      · exact Or.inl hab
    · rcases hbc with hbc | ⟨rfl, hbc⟩
      · exact Or.inl hbc
      · exact Or.inr ⟨rfl, componentsPrecede_trans hab hbc⟩

theorem componentsPrecede_total : ∀ as bs : List Component,
    componentsPrecede as bs = true ∨ componentsPrecede bs as = true
  | [], _ => Or.inl rfl
  | _ :: _, [] => Or.inr rfl
  | a :: as, b :: bs => by
    rw [componentsPrecede_cons, componentsPrecede_cons]
    rcases Component.before_or_eq_or_before a b with hab | rfl | hba
    · exact Or.inl (Or.inl hab)
    · rcases componentsPrecede_total as bs with h | h
      · exact Or.inl (Or.inr ⟨rfl, h⟩)
      · exact Or.inr (Or.inr ⟨rfl, h⟩)
    · exact Or.inr (Or.inl hba)

theorem componentsPrecede_antisymm : ∀ {as bs : List Component},
    componentsPrecede as bs = true → componentsPrecede bs as = true → as = bs
  | [], [], _, _ => rfl
  | [], _ :: _, _, h => by cases h
  | _ :: _, [], h, _ => by cases h
  | a :: as, b :: bs, hab, hba => by
    rw [componentsPrecede_cons] at *
    rcases hab with hab | ⟨rfl, hab⟩
    · rcases hba with hba | ⟨rfl, -⟩
      · exact absurd (Component.before_trans hab hba) a.not_before_self
      · exact absurd hab b.not_before_self
    · rcases hba with hba | ⟨-, hba⟩
      · exact absurd hba a.not_before_self
      · rw [componentsPrecede_antisymm hab hba]

/-- Whether the components `as` come strictly before `bs`. -/
def Before (as bs : List Component) : Prop := componentsPrecede as bs = true ∧ as ≠ bs

variable {as bs cs : List Component}

theorem Before.of_precede (hab : Before as bs) (hbc : componentsPrecede bs cs = true) :
    Before as cs := by
  refine ⟨componentsPrecede_trans hab.1 hbc, ?_⟩
  rintro rfl
  exact hab.2 (componentsPrecede_antisymm hab.1 hbc)

instance : Std.Irrefl Before := ⟨fun _ h => h.2 rfl⟩

instance : Std.Antisymm Before := ⟨fun _ _ hab hba => componentsPrecede_antisymm hab.1 hba.1⟩

end ChainLint.Path
