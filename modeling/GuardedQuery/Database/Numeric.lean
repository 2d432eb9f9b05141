import GuardedQuery.Number.Rounding

/-!
# Exact numbers of a database

An exact number is a sign, a natural number below `2 ^ 96` and a scale, the number of its decimal digits
after the point. A sum that has no room is rounded to as many places as it has room for. A number is
read (`Numeric.ofText?`) as the sum of its integer part and the groups of four digits after the point,
so that it may be rounded once for each group.
-/

namespace GuardedQuery

/-- The number `± coefficient / 10 ^ scale`; zero has no sign. -/
structure Numeric where
  negative : Bool
  coefficient : Nat
  scale : Nat
  coefficient_lt : coefficient < Nat.pow 2 96
  deriving DecidableEq

namespace Numeric

def zero : Numeric := ⟨false, 0, 0, by decide⟩

/-! ## Rounding to the room there is -/

/-- `n / 10 ^ (dropped + places)` with as many of `places` digits after the point as there is room
for. -/
def fitDropping? (negative : Bool) (n dropped places : Nat) : Option Numeric :=
  let coefficient := roundHalfEven n (Nat.pow 10 dropped)
  if h : coefficient < Nat.pow 2 96 then some ⟨negative, coefficient, places, h⟩
  else match places with
    | 0 => none
    | places + 1 => fitDropping? negative n (dropped + 1) places

/-- `n / 10 ^ places` with as many of these digits after the point as there is room for; `none` if
there is no room for its integer part. -/
def fit? (negative : Bool) (n places : Nat) : Option Numeric := fitDropping? negative n 0 places

/-- Adds `n / 10 ^ places` to a number, away from zero. -/
def grow? (d : Numeric) (n places : Nat) : Option Numeric :=
  fit? d.negative (d.coefficient * Nat.pow 10 (places - d.scale) + n * Nat.pow 10 (d.scale - places))
    (max d.scale places)

/-- The number with `more` zeros added at the end, or as many of them as there is room for. -/
def extend (d : Numeric) : Nat → Numeric
  | 0 => d
  | more + 1 =>
    if h : 10 * d.coefficient < Nat.pow 2 96 then
      extend ⟨d.negative, 10 * d.coefficient, d.scale + 1, h⟩ more
    else d

/-! ## Text -/

/-- The natural number that some digits stand for. -/
def natural (digits : List Char) : Nat :=
  digits.foldl (fun n c => 10 * n + (c.toNat - '0'.toNat)) 0

/-- The digits in front of the point and those after it. -/
def split? (cs : List Char) : Option (List Char × List Char) :=
  let whole := cs.takeWhile Char.isDigit
  match cs.dropWhile Char.isDigit with
  | [] => if whole.isEmpty then none else some (whole, [])
  | '.' :: fraction =>
    if fraction.isEmpty || !fraction.all Char.isDigit then none else some (whole, fraction)
  | _ => none

/-- The most digits after the point that may be read, zeros at the end apart. -/
def maxPlaces : Nat := 28

/-- Adds digits after the point, four at a time, where `places` digits have been added before. -/
def growDigits? (d : Numeric) (places : Nat) : List Char → Option Numeric
  | [] => some d
  | a :: b :: c :: e :: rest =>
    (d.grow? (natural [a, b, c, e]) (places + 4)).bind fun d => d.growDigits? (places + 4) rest
  | last => d.grow? (natural last) (places + last.length)

/-- The number with some digits in front of the point and some after it. Zeros at the end are kept as
far as there is room for them, but zero has none. -/
def ofDigits? (negative : Bool) (whole fraction : List Char) : Option Numeric :=
  let significant := (fraction.reverse.dropWhile (· == '0')).reverse
  if natural (whole ++ fraction) = 0 then some zero
  else if maxPlaces < significant.length then none
  else do
    let d ← fit? negative (natural whole) 0
    let d ← d.growDigits? 0 significant
    return d.extend (fraction.length - d.scale)

/-- Reads a number: an optional minus, digits, and perhaps a point and more digits. -/
def ofText? (s : String) : Option Numeric :=
  let cs := s.toList
  let negative := cs.head? = some '-'
  (split? (if negative then cs.drop 1 else cs)).bind fun (whole, fraction) =>
    ofDigits? negative whole fraction

/-- The digits of the number, with the point where the scale puts it and one digit at least in front of
it. -/
def text (d : Numeric) : String :=
  let digits := Nat.toDigits 10 d.coefficient
  let digits := List.replicate (d.scale + 1 - digits.length) '0' ++ digits
  let whole := digits.length - d.scale
  let point := if d.scale = 0 then [] else '.' :: digits.drop whole
  String.ofList ((if d.negative then ['-'] else []) ++ digits.take whole ++ point)

end Numeric

end GuardedQuery
