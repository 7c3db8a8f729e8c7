import Mathlib.Algebra.Order.Floor.Semifield
import Mathlib.Data.Nat.Log
import Mathlib.Data.Rat.Floor
import Mathlib.Tactic.Positivity
import Mathlib.Tactic.NormNum
import ChainLint.Config.Options

/-!
# The value of a float

* `Binary64.toRat x`: the rational number that a float stands for.
* `Binary64.floor_eq`: the whole part of a float is that of its value, cut off at zero.
* `Binary64.round_of_le`: whole numbers of up to 53 binary digits are read exactly.
* `Json.Number.IsWord n`: a number that documents have; each of them is read as some float.
* `limitOf_eq`: the limit that a number stands for.
-/

namespace ChainLint

namespace Binary64

/-- The rational number that a float stands for. -/
def toRat (x : Binary64) : ℚ :=
  (if x.negative then -1 else 1) * (x.mantissa * (2 : ℚ) ^ x.exponent)

/-- The whole part of a float, and zero for a negative one. -/
theorem floor_eq (x : Binary64) : x.floor = ⌊max x.toRat 0⌋₊ := by
  have hsize : (0 : ℚ) ≤ x.mantissa * (2 : ℚ) ^ x.exponent :=
    mul_nonneg (Nat.cast_nonneg _) (zpow_nonneg (by norm_num) _)
  rw [floor, toRat]
  by_cases hneg : x.negative
  · have hle : (-1 : ℚ) * (x.mantissa * (2 : ℚ) ^ x.exponent) ≤ 0 := by linarith
    rw [if_pos hneg, if_pos hneg, max_eq_right hle, Nat.floor_zero]
  · rw [if_neg hneg, if_neg hneg, one_mul, max_eq_left hsize]
    by_cases he : 0 ≤ x.exponent
    · -- no digit stands behind the point
      have hwhole : (x.mantissa : ℚ) * (2 : ℚ) ^ x.exponent =
          ((x.mantissa * 2 ^ x.exponent.toNat : ℕ) : ℚ) := by
        conv_lhs => rw [← Int.toNat_of_nonneg he]
        push_cast
        rw [zpow_natCast]
      rw [if_pos he, hwhole, Nat.floor_natCast]
      rfl
    · have hquotient : (x.mantissa : ℚ) * (2 : ℚ) ^ x.exponent =
          (x.mantissa : ℚ) / ((2 ^ (-x.exponent).toNat : ℕ) : ℚ) := by
        have hexp : x.exponent = -((-x.exponent).toNat : ℤ) := by omega
        conv_lhs => rw [hexp]
        push_cast
        rw [zpow_neg, zpow_natCast, div_eq_mul_inv]
      rw [if_neg he, hquotient, Nat.floor_div_eq_div]
      rfl

/-! ### Whole numbers of few digits -/

theorem nearest_one (p : ℕ) : nearest p 1 = p := by
  simp [nearest, Nat.mod_one]

/-- Scaling a whole number to 53 binary digits. -/
theorem scaled_bounds {p : ℕ} (hpos : 0 < p) (h : p < 2 ^ 53) :
    2 ^ 52 ≤ p * 2 ^ (52 - p.log2) ∧ p * 2 ^ (52 - p.log2) < 2 ^ 53 := by
  have hlog : p.log2 < 53 := (Nat.log2_lt hpos.ne').mpr h
  have hlow : 2 ^ p.log2 * 2 ^ (52 - p.log2) ≤ p * 2 ^ (52 - p.log2) :=
    Nat.mul_le_mul_right _ (Nat.log2_self_le hpos.ne')
  have hhigh : p * 2 ^ (52 - p.log2) < 2 ^ (p.log2 + 1) * 2 ^ (52 - p.log2) :=
    Nat.mul_lt_mul_of_pos_right Nat.lt_log2_self (Nat.two_pow_pos _)
  rw [← Nat.pow_add] at hlow hhigh
  have hsum : p.log2 + (52 - p.log2) = 52 := by omega
  have hsum' : p.log2 + 1 + (52 - p.log2) = 53 := by omega
  rw [hsum] at hlow
  rw [hsum'] at hhigh
  exact ⟨hlow, hhigh⟩

theorem exponentOf_one {p : ℕ} (hpos : 0 < p) (h : p < 2 ^ 53) :
    exponentOf p 1 = (p.log2 : ℤ) - 52 ∧
      scale p 1 (exponentOf p 1) = (p * 2 ^ (52 - p.log2), 1) := by
  have hlog : p.log2 < 53 := (Nat.log2_lt hpos.ne').mpr h
  have hscale : scale p 1 ((p.log2 : ℤ) - 52) = (p * 2 ^ (52 - p.log2), 1) := by
    rw [scale]
    split_ifs with he
    · have hnat : ((p.log2 : ℤ) - 52).toNat = 0 ∧ 52 - p.log2 = 0 := by omega
      rw [hnat.1, hnat.2]
      simp
    · have hnat : (-((p.log2 : ℤ) - 52)).toNat = 52 - p.log2 := by omega
      rw [hnat]
      rfl
  have hexp : exponentOf p 1 = (p.log2 : ℤ) - 52 := by
    have hone : (1 : ℕ).log2 = 0 := by decide
    have hguess : (p.log2 : ℤ) - ((0 : ℕ) : ℤ) - 52 = (p.log2 : ℤ) - 52 := by omega
    have hnot : ¬ p * 2 ^ (52 - p.log2) < Nat.pow 2 52 := Nat.not_lt.mpr (scaled_bounds hpos h).1
    simp only [exponentOf, hone, hguess, hscale, Nat.div_one, if_neg hnot]
    exact max_eq_right (by simp only [minExponent]; omega)
  exact ⟨hexp, hexp ▸ hscale⟩

/-- Whole numbers of up to 53 binary digits are read exactly. -/
theorem round_of_le (negative : Bool) {p : ℕ} (h : p ≤ 2 ^ 53) :
    ∃ x, round negative p 1 = some x ∧ x.toRat = (if negative then -1 else 1) * p := by
  rcases Nat.eq_zero_or_pos p with rfl | hpos
  · exact ⟨zero negative, rfl, by simp [toRat, zero]⟩
  · rcases h.eq_or_lt with rfl | hlt
    · -- the first number of 54 digits is even, so nothing is lost
      refine ⟨⟨negative, 2 ^ 52, 1⟩, by cases negative <;> rfl, ?_⟩
      simp only [toRat]
      norm_num
    · obtain ⟨hexp, hscale⟩ := exponentOf_one hpos hlt
      rw [hexp] at hscale
      have hcarry : p * 2 ^ (52 - p.log2) ≠ Nat.pow 2 53 := (scaled_bounds hpos hlt).2.ne
      have hlog : p.log2 < 53 := (Nat.log2_lt hpos.ne').mpr hlt
      have hmax : (p.log2 : ℤ) - 52 ≤ maxExponent := by
        simp only [maxExponent]
        omega
      refine ⟨⟨negative, p * 2 ^ (52 - p.log2), (p.log2 : ℤ) - 52⟩, ?_, ?_⟩
      · simp only [round, if_neg hpos.ne', hexp, hscale, nearest_one, carry, if_neg hcarry, if_pos hmax]
      · have hneg : (p.log2 : ℤ) - 52 = -((52 - p.log2 : ℕ) : ℤ) := by omega
        have hone : (2 : ℚ) ^ (52 - p.log2) * ((2 : ℚ) ^ (52 - p.log2))⁻¹ = 1 :=
          mul_inv_cancel₀ (by positivity)
        simp only [toRat]
        rw [hneg, zpow_neg, zpow_natCast]
        push_cast
        rw [mul_assoc (p : ℚ), hone, mul_one]

/-! ### Whole numbers of a word -/

theorem exponentOf_le (p q : ℕ) :
    exponentOf p q ≤ max minExponent ((p.log2 : ℤ) - (q.log2 : ℤ) - 52) := by
  simp only [exponentOf]
  split_ifs
  · exact max_le_max_left _ (by omega)
  · exact le_refl _

/-- Below the largest exponent there is room for a carry. -/
theorem exists_carry (negative : Bool) (m : ℕ) {e : ℤ} (h : e < maxExponent) :
    ∃ x, carry negative m e = some x := by
  have hle : (if m = Nat.pow 2 53 then (⟨negative, Nat.pow 2 52, e + 1⟩ : Binary64)
      else ⟨negative, m, e⟩).exponent ≤ maxExponent := by
    split_ifs
    · exact h
    · exact h.le
  exact ⟨_, if_pos hle⟩

/-- A whole number of 64 binary digits has a nearest float. -/
theorem exists_round (negative : Bool) {p : ℕ} (h : p < 2 ^ 64) : ∃ x, round negative p 1 = some x := by
  by_cases hp : p = 0
  · exact ⟨zero negative, if_pos hp⟩
  · have hlog : p.log2 < 64 := (Nat.log2_lt hp).mpr h
    have hone : (1 : ℕ).log2 = 0 := by decide
    have hexp := exponentOf_le p 1
    have hlt : exponentOf p 1 < maxExponent := by
      simp only [minExponent, maxExponent, hone] at hexp ⊢
      omega
    simp only [round, if_neg hp]
    exact exists_carry negative _ hlt

end Binary64

/-! ### Numbers of documents -/

/-- A number that documents have: a whole number of 64 bits, with a sign or without, or a float. -/
def Json.Number.IsWord : Json.Number → Prop
  | .integer i => -2 ^ 63 ≤ i ∧ i < 2 ^ 64
  | .real _ => True

/-- Every number of a document is read as some float. -/
theorem Json.Number.IsWord.exists_toFloat? {n : Json.Number} (h : n.IsWord) :
    ∃ x, n.toFloat? = some x := by
  cases n with
  | integer i =>
    obtain ⟨hlow, hhigh⟩ : -2 ^ 63 ≤ i ∧ i < 2 ^ 64 := h
    exact Binary64.exists_round _ (by omega)
  | real x => exact ⟨x, rfl⟩

/-- A whole number of up to 53 binary digits is read as itself. -/
theorem Json.Number.toRat_of_le {i : ℤ} {x : Binary64} (hx : (integer i).toFloat? = some x)
    (h : i.natAbs ≤ 2 ^ 53) : x.toRat = i := by
  obtain ⟨y, hy, hvalue⟩ := Binary64.round_of_le (i < 0) h
  obtain rfl : y = x := Option.some.inj (hy.symm.trans hx)
  rw [hvalue, Nat.cast_natAbs]
  rcases lt_or_ge i 0 with hneg | hnonneg
  · simp [hneg, abs_of_neg hneg]
  · simp [not_lt.mpr hnonneg, abs_of_nonneg hnonneg]

/-! ### Limits -/

/-- A number that a float stands for is cut off at zero, to its whole part, and at the largest limit. -/
theorem limitOf_eq {n : Json.Number} {x : Binary64} (h : n.toFloat? = some x) :
    limitOf n = min ⌊max x.toRat 0⌋₊ (2 ^ 64 - 1) := by
  rw [← Binary64.floor_eq]
  cases n with
  | integer i =>
    rw [limitOf, h]
    rfl
  | real y =>
    obtain rfl : y = x := Option.some.inj h
    rfl

/-- A whole number of up to 53 binary digits is its own limit, or zero if it is negative. -/
theorem limitOf_integer {i : ℤ} (h : i.natAbs ≤ 2 ^ 53) : limitOf (.integer i) = i.toNat := by
  obtain ⟨x, hx, -⟩ := Binary64.round_of_le (i < 0) h
  have hfloat : (Json.Number.integer i).toFloat? = some x := hx
  have hrat : x.toRat = (i : ℚ) := Json.Number.toRat_of_le hfloat h
  have hmax : max (i : ℚ) 0 = ((i.toNat : ℕ) : ℚ) := by
    have hint : max i 0 = (i.toNat : ℤ) := by omega
    exact_mod_cast hint
  rw [limitOf_eq hfloat, hrat, hmax, Nat.floor_natCast]
  omega

end ChainLint
