import GuardedQuery.Number.Binary64

/-!
# Shortest decimal digits

`Binary64.shortest` gives the decimal with the fewest digits among those that read back as the
number, and of these the nearest to it. Candidates are the two neighbours of the number on the grid
of `n` significant digits, for `n` = 1, 2, … 17; they are compared with the interval of reals that
round to the number in exact arithmetic.
-/

namespace GuardedQuery

/-- The number `coefficient · 10^exponent`. -/
structure Decimal where
  coefficient : Nat
  exponent : Int
  deriving DecidableEq, Repr

namespace Decimal

/-- Drops zeros at the end of the coefficient, at most `fuel` of them. -/
def trimZeros : Nat → Decimal → Decimal
  | 0, d => d
  | fuel + 1, d =>
    if d.coefficient % 10 = 0 ∧ d.coefficient ≠ 0 then
      trimZeros fuel ⟨d.coefficient / 10, d.exponent + 1⟩
    else d

end Decimal

/-- Which of two equally near candidates is taken. -/
inductive Tie where
  | even
  | up
  deriving DecidableEq, Repr

namespace Binary64

/-- A positive finite number as a quotient, with the ends of the interval that rounds to it over
the same denominator. -/
structure Interval where
  low : Nat
  value : Nat
  high : Nat
  denominator : Nat
  /-- The ends belong to the interval. -/
  closed : Bool

/-- The reals that round to `x`: half a step up and down, a quarter step down where the numbers
below lie twice as close. The ends round to `x` exactly when its significand is even. -/
def interval (x : Binary64) : Interval :=
  let m := x.significand
  let (up, down) := powerOfTwo (x.exponent - 2)
  let closer := decide (x.fraction = 0 ∧ 1 < x.exponentField)
  { low := (4 * m - if closer then 1 else 2) * up
    value := 4 * m * up
    high := (4 * m + 2) * up
    denominator := down
    closed := m % 2 = 0 }

/-- The `k` with `10^(k-1) ≤ num / den < 10^k`, where `num / den` is no power of ten below 1. -/
def decimalPlaces (num den : Nat) : Int :=
  if den ≤ num then (Nat.toDigits 10 (num / den)).length
  else 1 - ((Nat.toDigits 10 (den / num)).length : Int)

/-- The interval measured in units of `10^e`. -/
def Interval.inUnits (i : Interval) (e : Int) : Interval :=
  let up := Nat.pow 10 (-e).toNat
  { i with
    low := i.low * up
    value := i.value * up
    high := i.high * up
    denominator := i.denominator * Nat.pow 10 e.toNat }

/-- The natural number `c` lies in the interval. -/
def Interval.holds (i : Interval) (c : Nat) : Bool :=
  let n := c * i.denominator
  if i.closed then decide (i.low ≤ n ∧ n ≤ i.high) else decide (i.low < n ∧ n < i.high)

/-- The neighbour of the value among the natural numbers that lies in the interval; of two the
nearer one. -/
def Interval.neighbour? (tie : Tie) (i : Interval) : Option Nat :=
  let below := i.value / i.denominator
  let twice := 2 * (i.value % i.denominator)
  match i.holds below, i.holds (below + 1) with
  | false, false => none
  | true, false => some below
  | false, true => some (below + 1)
  | true, true =>
    if twice < i.denominator then some below
    else if i.denominator < twice then some (below + 1)
    else match tie with
      | .up => some (below + 1)
      | .even => some (if below % 2 = 0 then below else below + 1)

/-- First hit on the grids of `digits`, `digits + 1`, … significant digits. -/
def firstHit (tie : Tie) (i : Interval) (places : Int) : Nat → Nat → Option Decimal
  | 0, _ => none
  | fuel + 1, digits =>
    let e := places - digits
    match (i.inUnits e).neighbour? tie with
    | some c => some ⟨c, e⟩
    | none => firstHit tie i places fuel (digits + 1)

/-- The shortest decimal that reads back as the magnitude of a finite number. -/
def shortest (tie : Tie) (x : Binary64) : Decimal :=
  if x.isZero then ⟨0, 0⟩
  else
    let i := x.interval
    match firstHit tie i (decimalPlaces i.value i.denominator) 17 1 with
    | some d => d.trimZeros 18
    | none => ⟨0, 0⟩

end Binary64

end GuardedQuery
