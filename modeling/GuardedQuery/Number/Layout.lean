import GuardedQuery.Number.Shortest

/-!
# Text of floating point numbers

A `Layout` holds the decisions of one way to write a number; `Binary64.render` carries them out on
the shortest digits. Two layouts are in use: `Layout.plain` for messages and `Layout.json` for JSON
text.
-/

namespace GuardedQuery

/-- How a binary64 number is written. The decimal point position of digits `d₁d₂…` with value
`0.d₁d₂… · 10^k` is `k`. -/
structure Layout where
  /-- Least point position written without an exponent; `none` for no bound. -/
  least : Option Int
  /-- Greatest point position written without an exponent; `none` for no bound. -/
  greatest : Option Int
  /-- What follows the digits of a whole number. -/
  wholeSuffix : String
  /-- A sign stands in front of an exponent that is not negative. -/
  exponentPlus : Bool
  tie : Tie
  notANumber : String
  /-- The text of infinity, of minus infinity for `true`. -/
  infinity : Bool → String

/-- Positional at every size: `1`, `0.0000001`, `-0`, `NaN`, `inf`. -/
def Layout.plain : Layout :=
  { least := none, greatest := none, wholeSuffix := "", exponentPlus := false, tie := .up,
    notANumber := "NaN", infinity := fun negative => if negative then "-inf" else "inf" }

/-- JSON text: `1.0`, `0.00001`, `1e-7`, `1000000000000000.0`, `1e+16`; `null` where JSON has no
number. -/
def Layout.json : Layout :=
  { least := some (-4), greatest := some 16, wholeSuffix := ".0", exponentPlus := true, tie := .even,
    notANumber := "null", infinity := fun _ => "null" }

namespace Layout

/-- The point position `k` is written without an exponent. -/
def isPositional (l : Layout) (k : Int) : Bool :=
  (l.least.all fun b => decide (b ≤ k)) && (l.greatest.all fun b => decide (k ≤ b))

/-- The characters of `0.d₁d₂… · 10^k` without an exponent. -/
def positional (l : Layout) (digits : List Char) (k : Int) : List Char :=
  if k ≤ 0 then '0' :: '.' :: (List.replicate (-k).toNat '0' ++ digits)
  else if digits.length ≤ k.toNat then
    digits ++ List.replicate (k.toNat - digits.length) '0' ++ l.wholeSuffix.toList
  else digits.take k.toNat ++ '.' :: digits.drop k.toNat

/-- The characters of `0.d₁d₂… · 10^k` with an exponent. -/
def scientific (l : Layout) (digits : List Char) (k : Int) : List Char :=
  let e := k - 1
  let mantissa := match digits with
    | [] => []
    | [d] => [d]
    | d :: rest => d :: '.' :: rest
  let sign := if e < 0 then ['-'] else if l.exponentPlus then ['+'] else []
  mantissa ++ 'e' :: (sign ++ Nat.toDigits 10 e.natAbs)

end Layout

/-- The text of a number in a layout. -/
def Binary64.render (l : Layout) (x : Binary64) : String :=
  if x.isNaN then l.notANumber
  else if !x.isFinite then l.infinity x.isNegative
  else
    let sign := if x.isNegative then ['-'] else []
    let d := x.shortest l.tie
    let digits := Nat.toDigits 10 d.coefficient
    let body :=
      if x.isZero then '0' :: l.wholeSuffix.toList
      else
        let k := (digits.length : Int) + d.exponent
        if l.isPositional k then l.positional digits k else l.scientific digits k
    String.ofList (sign ++ body)

end GuardedQuery
