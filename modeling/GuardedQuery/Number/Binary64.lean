import GuardedQuery.Number.Rounding

/-!
# Binary64 numbers

A floating point number is its 64 bits. A finite one is `m · 2^q` for natural `m`; every operation
here is exact arithmetic on `m` and `q` followed by one rounding (`Binary64.ofQuotient`), to the
nearest number and to the even one of two nearest.
-/

namespace GuardedQuery

/-- A binary64 number, held as its bits. -/
structure Binary64 where
  bits : UInt64
  deriving DecidableEq, Repr

namespace Binary64

/-! ## Fields of the representation -/

/-- The sign bit is set. -/
def isNegative (x : Binary64) : Bool := decide (Nat.pow 2 63 ≤ x.bits.toNat)

/-- The biased exponent, 0 for zeros and subnormal numbers, 2047 for infinities and NaN. -/
def exponentField (x : Binary64) : Nat := x.bits.toNat / Nat.pow 2 52 % Nat.pow 2 11

/-- The 52 bits after the leading bit. -/
def fraction (x : Binary64) : Nat := x.bits.toNat % Nat.pow 2 52

def isFinite (x : Binary64) : Bool := x.exponentField != 2047

def isNaN (x : Binary64) : Bool := x.exponentField == 2047 && x.fraction != 0

def isZero (x : Binary64) : Bool := x.exponentField == 0 && x.fraction == 0

/-- The natural `m` of a finite number `± m · 2^q`. -/
def significand (x : Binary64) : Nat :=
  if x.exponentField = 0 then x.fraction else Nat.pow 2 52 + x.fraction

/-- The exponent `q` of a finite number `± m · 2^q`. -/
def exponent (x : Binary64) : Int :=
  if x.exponentField = 0 then -1074 else (x.exponentField : Int) - 1075

/-- Equality as numbers: NaN differs from everything and the two zeros are equal. -/
def numericallyEqual (x y : Binary64) : Bool :=
  !x.isNaN && !y.isNaN && (x == y || (x.isZero && y.isZero))

/-! ## Rounding -/

/-- `2^q` as a quotient of natural numbers. -/
def powerOfTwo (q : Int) : Nat × Nat := (Nat.pow 2 q.toNat, Nat.pow 2 (-q).toNat)

/-- The bits of `± m · 2^q` for `m ≤ 2^53`, where `q = -1074` or `2^52 ≤ m`. A carry to `2^53` moves
into the exponent field by itself; an exponent field above 2046 becomes infinity. -/
def encode (negative : Bool) (m : Nat) (q : Int) : Binary64 :=
  let magnitude :=
    if m < Nat.pow 2 52 then m else (q + 1075).toNat * Nat.pow 2 52 + (m - Nat.pow 2 52)
  let capped := min magnitude (2047 * Nat.pow 2 52)
  ⟨UInt64.ofNat (capped + if negative then Nat.pow 2 63 else 0)⟩

/-- The number nearest to `± num / den`, the even one of two nearest. -/
def ofQuotient (negative : Bool) (num den : Nat) : Binary64 :=
  if num = 0 then encode negative 0 (-1074)
  else
    let guess := max ((num.log2 : Int) - (den.log2 : Int) - 53) (-1074)
    let fits (q : Int) : Bool :=
      let (up, down) := powerOfTwo q
      num * down < Nat.pow 2 53 * (den * up)
    let q := if fits guess then guess else guess + 1
    let (up, down) := powerOfTwo q
    encode negative (roundHalfEven (num * down) (den * up)) q

/-- The number nearest to a natural number. -/
def ofNat (n : Nat) : Binary64 := ofQuotient false n 1

/-- The number nearest to an integer. -/
def ofInt (i : Int) : Binary64 := ofQuotient (decide (i < 0)) i.natAbs 1

/-- The number of opposite sign. -/
def negate (x : Binary64) : Binary64 := ⟨x.bits ^^^ 0x8000000000000000⟩

/-- Product of two finite numbers that are not negative. -/
def times (x y : Binary64) : Binary64 :=
  let (up, down) := powerOfTwo (x.exponent + y.exponent)
  ofQuotient false (x.significand * y.significand * up) down

/-- Quotient of two finite numbers that are not negative, the second not zero. -/
def dividedBy (x y : Binary64) : Binary64 :=
  let (up, down) := powerOfTwo (x.exponent - y.exponent)
  ofQuotient false (x.significand * up) (y.significand * down)

/-! ## Decimal input -/

/-- The number nearest to `10^n`, for `n ≤ 308`. -/
def powerOfTen (n : Nat) : Binary64 := ofNat (Nat.pow 10 n)

/-- Largest power of ten that is a binary64 number. -/
def maxPowerOfTen : Nat := 308

/-- `x · 10^e` in binary64 steps: one division by `10^308` for every 308 that `e` lies below -308,
then one product or quotient with the rest. `none` when the result is too large. -/
def scale (x : Binary64) (e : Int) : Option Binary64 :=
  if e < -(maxPowerOfTen : Int) then
    if x.isZero then some x
    else scale (x.dividedBy (powerOfTen maxPowerOfTen)) (e + maxPowerOfTen)
  else if e < 0 then some (x.dividedBy (powerOfTen (-e).toNat))
  else if e ≤ maxPowerOfTen then
    let y := x.times (powerOfTen e.toNat)
    if y.isFinite then some y else none
  else if x.isZero then some x
  else none
termination_by (-e).toNat
decreasing_by
  simp only [maxPowerOfTen] at *
  omega

/-- The value read from a decimal significand and exponent; `none` when it is too large. -/
def ofDecimal? (negative : Bool) (significand : Nat) (e : Int) : Option Binary64 :=
  ((ofNat significand).scale e).map fun x => if negative then x.negate else x

/-- The number nearest to `significand · 10^e`, infinite when too large. -/
def ofDecimalNearest (negative : Bool) (significand : Nat) (e : Int) : Binary64 :=
  ofQuotient negative (significand * Nat.pow 10 e.toNat) (Nat.pow 10 (-e).toNat)

/-! ## Binary32 -/

/-- The binary64 number equal to a binary32 number given by its bits. A NaN stays a NaN. -/
def ofBinary32Bits (bits : Nat) : Binary64 :=
  let negative := decide (Nat.pow 2 31 ≤ bits)
  let field : Nat := bits / Nat.pow 2 23 % Nat.pow 2 8
  let fraction : Nat := bits % Nat.pow 2 23
  if field = 255 then
    let nan := if fraction = 0 then 0 else Nat.pow 2 51
    ⟨UInt64.ofNat (2047 * Nat.pow 2 52 + nan + if negative then Nat.pow 2 63 else 0)⟩
  else
    let m := if field = 0 then fraction else Nat.pow 2 23 + fraction
    let (up, down) := powerOfTwo (if field = 0 then -149 else (field : Int) - 150)
    ofQuotient negative (m * up) down

/-! ## Hexadecimal text of the bits -/

/-- The digit characters of base sixteen, lower case. -/
def hexDigits (width n : Nat) : List Char :=
  let digits := Nat.toDigits 16 n
  List.replicate (width - digits.length) '0' ++ digits

/-- The sixteen hexadecimal digits of the bits. -/
def toHex (x : Binary64) : String := String.ofList (hexDigits 16 x.bits.toNat)

end Binary64

/-- A binary64 number that is neither infinite nor NaN. -/
abbrev FiniteBinary64 := { x : Binary64 // x.isFinite = true }

end GuardedQuery
