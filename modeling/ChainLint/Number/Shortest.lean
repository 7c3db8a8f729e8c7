import ChainLint.Number.Binary64

/-!
# The shortest decimal that reads back

Around every float lies the interval of the numbers that round to it; its ends belong to it when the
mantissa is even.  `shortest x` is the decimal with the fewest digits in that interval, and of those
the nearest to `x`.

A grid of step `10 ^ g` has a point in the interval only if one of the two points around `x` lies in
it, so these two are all that is tried, from one digit up to seventeen.

`DecimalStyle` holds what a notation leaves open: when the point is written out and when an exponent
is.  `text style x` is the written form.
-/

namespace ChainLint

/-- The number `digits * 10 ^ exponent`. -/
structure Decimal where
  digits : Nat
  exponent : Int
deriving DecidableEq, Inhabited

namespace Shortest

/-- A positive float and its interval, as numerators over `2 ^ shift` or as multiples of it. -/
structure Interval where
  low : Nat
  value : Nat
  high : Nat
  denominator : Nat
  closed : Bool

/-- The interval of the numbers that round to a float of mantissa `m` and exponent `e`. -/
def interval (m : Nat) (e : Int) : Interval :=
  let below := if m = Nat.pow 2 52 ∧ Binary64.minExponent < e then 1 else 2
  let unit := Nat.pow 2 (e - 2).toNat
  { low := (4 * m - below) * unit
    value := 4 * m * unit
    high := (4 * m + 2) * unit
    denominator := Nat.pow 2 (2 - e).toNat
    closed := m % 2 = 0 }

/-- The numerator `p` over the denominator of the interval, counted in steps of `10 ^ g`. -/
def Interval.inSteps (i : Interval) (p : Nat) (g : Int) : Nat × Nat :=
  (p * Nat.pow 10 (-g).toNat, i.denominator * Nat.pow 10 g.toNat)

/-- Whether `k` steps of `10 ^ g` lie in the interval. -/
def Interval.holds (i : Interval) (k : Nat) (g : Int) : Bool :=
  let low := i.inSteps i.low g
  let high := i.inSteps i.high g
  if i.closed then low.1 ≤ k * low.2 && k * high.2 ≤ high.1
  else low.1 < k * low.2 && k * high.2 < high.1

/-- The nearest point of the grid of step `10 ^ g` that lies in the interval, if one does. -/
def Interval.onGrid (i : Interval) (g : Int) : Option Decimal :=
  let s := i.inSteps i.value g
  let k := s.1 / s.2
  let twice := 2 * (s.1 % s.2)
  let upFirst := s.2 < twice || (s.2 = twice && k % 2 = 1)
  let (first, second) := if upFirst then (k + 1, k) else (k, k + 1)
  if i.holds first g then some ⟨first, g⟩
  else if i.holds second g then some ⟨second, g⟩
  else none

/-- How many places the first digit of `p / q` stands left of the point, less one. -/
def magnitude (p q : Nat) : Int :=
  if q ≤ p then ((Nat.toDigits 10 (p / q)).length : Int) - 1
  else
    match (List.range 400).find? fun k => q ≤ p * Nat.pow 10 (k + 1) with
    | some k => -(k + 1 : Int)
    | none => 0

/-- Drops zeros at the end of the digits. -/
def trim : Nat → Decimal → Decimal
  | 0, d => d
  | fuel + 1, d =>
    if d.digits % 10 = 0 ∧ d.digits ≠ 0 then trim fuel ⟨d.digits / 10, d.exponent + 1⟩ else d

/-- The shortest decimal in the interval of a positive float. -/
def ofInterval (i : Interval) : Decimal :=
  let e := magnitude i.value i.denominator
  match (List.range 17).findSome? fun (n : Nat) => i.onGrid (e - n) with
  | some d => trim 20 d
  | none => ⟨0, 0⟩

end Shortest

/-- The shortest decimal that reads back as the float, its sign aside. -/
def Binary64.shortest (x : Binary64) : Decimal :=
  if x.mantissa = 0 then ⟨0, 0⟩ else Shortest.ofInterval (Shortest.interval x.mantissa x.exponent)

/-- The range of decimal exponents that a notation writes without an exponent. -/
structure DecimalStyle where
  leastPositional : Int
  greatestPositional : Int

namespace Decimal

/-- The digits of a natural number. -/
def digitText (n : Nat) : List Char := Nat.toDigits 10 n

/-- Digits with a point inside, in front or behind; at least one digit on either side. -/
def positional (ds : List Char) (places : Int) : List Char :=
  if places ≤ 0 then '0' :: '.' :: (List.replicate (-places).toNat '0' ++ ds)
  else if ds.length ≤ places.toNat then
    ds ++ List.replicate (places.toNat - ds.length) '0' ++ ['.', '0']
  else ds.take places.toNat ++ '.' :: ds.drop places.toNat

/-- Digits with a point behind the first and a signed exponent. -/
def scientific (ds : List Char) (e : Int) : List Char :=
  let mantissa := match ds with
    | [] => ['0']
    | [d] => [d]
    | d :: rest => d :: '.' :: rest
  mantissa ++ 'e' :: (if e < 0 then '-' else '+') :: digitText e.natAbs

/-- The written form of a decimal. -/
def text (style : DecimalStyle) (d : Decimal) : List Char :=
  if d.digits = 0 then ['0', '.', '0']
  else
    let ds := digitText d.digits
    let e := d.exponent + (ds.length : Int) - 1
    if style.leastPositional ≤ e ∧ e ≤ style.greatestPositional then positional ds (e + 1)
    else scientific ds e

end Decimal

/-- The written form of a float. -/
def Binary64.text (style : DecimalStyle) (x : Binary64) : List Char :=
  (if x.negative then ['-'] else []) ++ x.shortest.text style

end ChainLint
