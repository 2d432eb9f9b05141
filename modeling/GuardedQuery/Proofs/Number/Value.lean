import Mathlib.Algebra.Order.Ring.Rat
import Mathlib.Tactic.FieldSimp
import Mathlib.Tactic.Ring
import GuardedQuery.Proofs.Number.Range

/-!
# Values of floating point numbers

`Binary64.value` is the rational number that a finite number stands for. An integer of 64 bits that is
too large for a signed one is rounded to a multiple of 2048, so it keeps its value exactly if it is
such a multiple (`Binary64.value_ofInt_eq_iff`).
-/

namespace GuardedQuery

/-- Exact quotients are not rounded. -/
theorem roundHalfEven_mul_eq_iff {num den : Nat} (h : 0 < den) :
    roundHalfEven num den * den = num ↔ den ∣ num := by
  constructor
  · exact Dvd.intro_left _
  · rintro ⟨k, rfl⟩
    have hrounded : roundHalfEven (den * k) den = k := by
      simp only [roundHalfEven, Nat.mul_mod_right, Nat.mul_div_cancel_left k h, Nat.mul_zero, if_pos h]
    rw [hrounded, Nat.mul_comm]

namespace Binary64

/-- The rational number that a finite number stands for. -/
def value (x : Binary64) : ℚ := (if x.isNegative then -1 else 1) * x.significand * 2 ^ x.exponent

/-- The value of a normal number of positive sign, from its exponent field and its fraction. -/
theorem value_of_bits {x : Binary64} {field fraction : Nat}
    (h : x.bits.toNat = field * 2 ^ 52 + fraction) (hfraction : fraction < 2 ^ 52) (hpos : field ≠ 0)
    (hfield : field < 2 ^ 11) : x.value = (2 ^ 52 + fraction : Nat) * 2 ^ ((field : Int) - 1075) := by
  have hsign : x.isNegative = false := by
    simp only [isNegative, h, Nat.pow_eq, decide_eq_false_iff_not]
    omega
  have hexponentField : x.exponentField = field := by
    simp only [exponentField, h, Nat.pow_eq]
    omega
  have hfraction : x.fraction = fraction := by
    simp only [Binary64.fraction, h, Nat.pow_eq]
    omega
  have hsignificand : x.significand = 2 ^ 52 + fraction := by
    rw [significand, hexponentField, if_neg hpos, hfraction, Nat.pow_eq]
  have hexponent : x.exponent = (field : Int) - 1075 := by
    rw [exponent, hexponentField, if_neg hpos]
  rw [value, hsign, hsignificand, hexponent, if_neg Bool.false_ne_true, one_mul]

/-- The significand may be `2 ^ 53`, which is carried into the exponent. -/
theorem value_encode {m : Nat} {q : Int} (hlow : 2 ^ 52 ≤ m) (hhigh : m ≤ 2 ^ 53) (hq : -1074 ≤ q)
    (hq' : q ≤ 970) : (encode false m q).value = m * 2 ^ q := by
  obtain ⟨field, rfl⟩ : ∃ field : Nat, q = field - 1075 := ⟨(q + 1075).toNat, by omega⟩
  have hbits : (encode false m (field - 1075)).bits.toNat = field * 2 ^ 52 + (m - 2 ^ 52) := by
    simp only [encode, Nat.pow_eq, if_neg (Nat.not_lt.2 hlow), Int.sub_add_cancel, Int.toNat_natCast,
      Bool.false_eq_true, if_false, UInt64.toNat_ofNat']
    omega
  rcases Nat.lt_or_eq_of_le hhigh with hm | rfl
  · rw [value_of_bits hbits (by omega) (by omega) (by omega), Nat.add_sub_cancel' hlow]
  · have hcarry : (encode false (2 ^ 53) (field - 1075)).bits.toNat = (field + 1) * 2 ^ 52 + 0 :=
      hbits.trans (by omega)
    have hnext : ((field + 1 : Nat) : Int) - 1075 = field - 1075 + 1 := by omega
    rw [value_of_bits hcarry (by norm_num) (by omega) (by omega), hnext, zpow_add_one₀ (by norm_num)]
    push_cast
    ring

theorem value_ofInt {i : Int} (hlow : 2 ^ 63 ≤ i) (hhigh : i < 2 ^ 64) :
    (ofInt i).value = (roundHalfEven i.toNat (2 ^ 11) * 2 ^ 11 : Nat) := by
  have hleast := le_two_mul_roundHalfEven i.toNat (2 ^ 11) (by norm_num)
  rw [ofInt_eq_encode hlow hhigh,
    value_encode (by omega) (roundHalfEven_ofInt_le hhigh) (by norm_num) (by norm_num)]
  push_cast
  rfl

/-- **A large integer keeps its value** exactly if it is a multiple of 2048. -/
theorem value_ofInt_eq_iff {i : Int} (hlow : 2 ^ 63 ≤ i) (hhigh : i < 2 ^ 64) :
    (ofInt i).value = i ↔ 2048 ∣ i := by
  obtain ⟨n, rfl⟩ := Int.eq_ofNat_of_zero_le (show 0 ≤ i by omega)
  rw [value_ofInt hlow hhigh, Int.toNat_natCast, Int.cast_natCast, Nat.cast_inj,
    roundHalfEven_mul_eq_iff (by norm_num)]
  exact Int.natCast_dvd_natCast.symm

end Binary64

end GuardedQuery
