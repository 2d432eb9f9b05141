import Mathlib.Tactic.NormNum
import GuardedQuery.Number.Binary64

/-!
# Integers within range

The nearest number to an integer of 64 bits is finite (`Binary64.isFinite_ofInt`): its exponent is
nowhere near the largest one.
-/

namespace GuardedQuery

/-- Rounding does not leave a range that ends in a natural number. -/
theorem roundHalfEven_le {num den bound : Nat} (hden : 0 < den) (h : num ≤ bound * den) :
    roundHalfEven num den ≤ bound := by
  have hle := two_mul_roundHalfEven_le num den hden
  by_contra hlt
  have hnext : (bound + 1) * den ≤ roundHalfEven num den * den :=
    Nat.mul_le_mul_right den (by omega)
  rw [Nat.add_one_mul] at hnext
  omega

namespace Binary64

/-- Below the largest exponents nothing is encoded as infinity, a carry of the significand included. -/
theorem isFinite_encode {negative : Bool} {m : Nat} {q : Int} (hm : m ≤ 2 ^ 53) (hq : q ≤ 970) :
    (encode negative m q).isFinite = true := by
  have hfield : (q + 1075).toNat ≤ 2045 := by omega
  have hscaled : (q + 1075).toNat * 2 ^ 52 ≤ 2045 * 2 ^ 52 := Nat.mul_le_mul_right _ hfield
  simp only [isFinite, exponentField, encode, Nat.pow_eq, bne_iff_ne, ne_eq, UInt64.toNat_ofNat']
  split <;> split <;> omega

/-- From 2 ^ 63 on, numbers of 64 bits are rounded to multiples of 2 ^ 11. -/
theorem ofInt_eq_encode {i : Int} (hlow : 2 ^ 63 ≤ i) (hhigh : i < 2 ^ 64) :
    ofInt i = encode false (roundHalfEven i.toNat (2 ^ 11)) 11 := by
  obtain ⟨n, rfl⟩ := Int.eq_ofNat_of_zero_le (show 0 ≤ i by omega)
  have hlog : n.log2 = 63 := (Nat.log2_eq_iff (by omega)).2 ⟨by omega, by omega⟩
  have hguess : max ((63 : ℕ) - ((1 : ℕ).log2 : Int) - 53) (-1074) = 10 := by decide
  have hten : powerOfTwo 10 = (2 ^ 10, 1) := rfl
  have heleven : powerOfTwo (10 + 1) = (2 ^ 11, 1) := rfl
  have hfits : ¬n < Nat.pow 2 53 * 2 ^ 10 := by
    rw [Nat.pow_eq]
    omega
  rw [ofInt, Int.natAbs_natCast, ofQuotient, if_neg (by omega), hlog]
  simp only [hguess, hten, Nat.mul_one, Nat.one_mul, hfits, decide_false, Bool.false_eq_true,
    if_false, heleven, Int.toNat_natCast]
  rfl

theorem roundHalfEven_ofInt_le {i : Int} (hhigh : i < 2 ^ 64) :
    roundHalfEven i.toNat (2 ^ 11) ≤ 2 ^ 53 :=
  roundHalfEven_le (by norm_num) (by omega)

theorem isFinite_ofInt {i : Int} (hlow : 2 ^ 63 ≤ i) (hhigh : i < 2 ^ 64) :
    (ofInt i).isFinite = true := by
  rw [ofInt_eq_encode hlow hhigh]
  exact isFinite_encode (roundHalfEven_ofInt_le hhigh) (by norm_num)

end Binary64

end GuardedQuery
