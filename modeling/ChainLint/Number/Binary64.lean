/-!
# Binary floating point, exactly

A `Binary64` is a sign, a mantissa below `2 ^ 53` and an exponent from `-1074` to `971`; it stands for
the rational number `± mantissa * 2 ^ exponent`.  Everything is computed on natural numbers, so each
operation is the exact quotient of two of them, rounded once.

* `round neg p q`: the float nearest to `p / q`, a tie going to the even mantissa, or `none` beyond
  the largest float.
* `mul`, `div`, `ofNat`, `powerOfTen`: that rounding of the exact result.
* `floor x`: the largest natural number not above `x`, and zero for a negative `x`.
-/

namespace ChainLint

/-- A finite binary floating point number. -/
structure Binary64 where
  negative : Bool
  mantissa : Nat
  exponent : Int
deriving DecidableEq, Inhabited

namespace Binary64

/-- The exponent of the smallest positive float. -/
def minExponent : Int := -1074

/-- The exponent of the largest float. -/
def maxExponent : Int := 971

/-- Zero, of either sign. -/
def zero (negative : Bool) : Binary64 := ⟨negative, 0, minExponent⟩

/-- The float of the other sign. -/
def neg (x : Binary64) : Binary64 := { x with negative := !x.negative }

/-- The quotient `p / q` counted in units of `2 ^ e`, again as a quotient. -/
def scale (p q : Nat) (e : Int) : Nat × Nat :=
  if 0 ≤ e then (p, q * Nat.pow 2 e.toNat) else (p * Nat.pow 2 (-e).toNat, q)

/-- The exponent that leaves 53 binary digits before the point, or the least one. -/
def exponentOf (p q : Nat) : Int :=
  let guess : Int := (p.log2 : Int) - (q.log2 : Int) - 52
  let s := scale p q guess
  max minExponent (if s.1 / s.2 < Nat.pow 2 52 then guess - 1 else guess)

/-- The natural number nearest to `p / q`, a tie going to the even one. -/
def nearest (p q : Nat) : Nat :=
  let whole := p / q
  let twice := 2 * (p % q)
  if twice < q then whole
  else if q < twice then whole + 1
  else if whole % 2 = 0 then whole else whole + 1

/-- A mantissa that rounding pushed to `2 ^ 53` moves on to the next exponent. -/
def carry (negative : Bool) (m : Nat) (e : Int) : Option Binary64 :=
  let x : Binary64 := if m = Nat.pow 2 53 then ⟨negative, Nat.pow 2 52, e + 1⟩ else ⟨negative, m, e⟩
  if x.exponent ≤ maxExponent then some x else none

/-- The float nearest to `p / q`. -/
def round (negative : Bool) (p q : Nat) : Option Binary64 :=
  if p = 0 then some (zero negative)
  else
    let e := exponentOf p q
    let s := scale p q e
    carry negative (nearest s.1 s.2) e

/-- The float nearest to a product of a quotient and a power of two. -/
def roundScaled (negative : Bool) (p q : Nat) (e : Int) : Option Binary64 :=
  if 0 ≤ e then round negative (p * Nat.pow 2 e.toNat) q
  else round negative p (q * Nat.pow 2 (-e).toNat)

/-- The rounded product. -/
def mul (x y : Binary64) : Option Binary64 :=
  roundScaled (x.negative != y.negative) (x.mantissa * y.mantissa) 1 (x.exponent + y.exponent)

/-- The rounded quotient; the divisor is not zero. -/
def div (x y : Binary64) : Option Binary64 :=
  roundScaled (x.negative != y.negative) x.mantissa y.mantissa (x.exponent - y.exponent)

/-- The float nearest to a natural number. -/
def ofNat (n : Nat) : Option Binary64 := round false n 1

/-- The float nearest to `10 ^ k`. -/
def powerOfTen (k : Nat) : Binary64 := (ofNat (Nat.pow 10 k)).getD (zero false)

/-- The whole part of a number that is not negative, and zero for a negative one. -/
def floor (x : Binary64) : Nat :=
  if x.negative then 0
  else if 0 ≤ x.exponent then x.mantissa * Nat.pow 2 x.exponent.toNat
  else x.mantissa / Nat.pow 2 (-x.exponent).toNat

/-- `significand * 10 ^ k`, in steps that each round: one product with a power of ten. -/
def raise (significand k : Nat) : Option Binary64 := do
  let x ← ofNat significand
  if k ≤ 308 then mul x (powerOfTen k) else if x.mantissa = 0 then some x else none

/-- The quotient by `10 ^ k`, taken in steps of at most `308` places that each round. -/
def lower (x : Binary64) (k : Nat) : Option Binary64 :=
  if k ≤ 308 then div x (powerOfTen k)
  else if x.mantissa = 0 then some x
  else (div x (powerOfTen 308)).bind (lower · (k - 308))
termination_by k

/-- The float read from a significand and a decimal exponent. -/
def ofDecimal (negative : Bool) (significand : Nat) (exponent : Int) : Option Binary64 :=
  let x := if 0 ≤ exponent then raise significand exponent.toNat
    else (ofNat significand).bind (lower · (-exponent).toNat)
  x.map fun x => if negative then x.neg else x

end Binary64

end ChainLint
