import Mathlib.Algebra.Order.Field.Power
import Mathlib.Algebra.Order.Ring.Rat
import Mathlib.Tactic.FieldSimp
import Mathlib.Tactic.Linarith
import Mathlib.Tactic.Positivity
import Mathlib.Tactic.Ring
import GuardedQuery.Number.Shortest

/-!
# Shortest decimals tell numbers apart

The magnitude of a number is its bits without the sign. `Magnitude.Rounds n q`: the rational `q` lies
in the interval that rounds to the magnitude `n`. These intervals touch, and where two of them touch
only one is closed, so no `q` rounds to two magnitudes (`Magnitude.rounds_unique`).
`Binary64.rounds_shortest`: 17 digits are enough for the search for a shortest decimal, and what it
finds rounds to the number. So finite numbers of different magnitude have different decimals
(`Binary64.magnitude_inj`).
-/

namespace GuardedQuery

/-- The rational number that a decimal stands for. -/
def Decimal.value (d : Decimal) : ℚ := d.coefficient * 10 ^ d.exponent

theorem Decimal.value_trimZeros (fuel : Nat) (d : Decimal) : (trimZeros fuel d).value = d.value := by
  induction fuel generalizing d with
  | zero => rfl
  | succ fuel ih =>
    rw [trimZeros]
    split
    · rename_i h
      have hten : (d.coefficient : ℚ) = (d.coefficient / 10 : Nat) * 10 := by
        have := Nat.div_add_mod' d.coefficient 10
        rw [h.1, Nat.add_zero] at this
        exact_mod_cast this.symm
      rw [ih, value, value, hten, zpow_add_one₀ (by norm_num)]
      push_cast
      ring
    · rfl

/-! ## Magnitudes -/

namespace Magnitude

def significand (n : Nat) : Nat := if n / 2 ^ 52 = 0 then n % 2 ^ 52 else 2 ^ 52 + n % 2 ^ 52

def exponent (n : Nat) : Int := if n / 2 ^ 52 = 0 then -1074 else (n / 2 ^ 52 : Nat) - 1075

/-- The quarters of a step from a magnitude down to the middle between it and the one below. -/
def gap (n : Nat) : Nat := if n % 2 ^ 52 = 0 ∧ 1 < n / 2 ^ 52 then 1 else 2

/-- Where the interval of a magnitude begins. -/
def low (n : Nat) : ℚ := (4 * significand n - gap n) * 2 ^ (exponent n - 2)

/-- Where the interval of a magnitude ends. -/
def high (n : Nat) : ℚ := (4 * significand n + 2) * 2 ^ (exponent n - 2)

/-- The rational number rounds to the magnitude. -/
def Rounds (n : Nat) (q : ℚ) : Prop :=
  if significand n % 2 = 0 then low n ≤ q ∧ q ≤ high n else low n < q ∧ q < high n

theorem significand_mod_two (n : Nat) : significand n % 2 = n % 2 := by
  unfold significand
  split <;> omega

theorem significand_pos {n : Nat} (h : n ≠ 0) : 0 < significand n := by
  unfold significand
  split <;> omega

theorem gap_le_two (n : Nat) : gap n ≤ 2 := by
  unfold gap
  split <;> omega

theorem low_pos {n : Nat} (h : n ≠ 0) : 0 < low n := by
  have hgap : (gap n : ℚ) ≤ 2 := by exact_mod_cast gap_le_two n
  have hsignificand : (1 : ℚ) ≤ significand n := by exact_mod_cast significand_pos h
  exact mul_pos (by linarith) (by positivity)

theorem low_lt_high (n : Nat) : low n < high n := by
  have hgap : (0 : ℚ) < gap n := by
    unfold gap
    split <;> norm_num
  have hpow : (0 : ℚ) < 2 ^ (exponent n - 2) := by positivity
  exact mul_lt_mul_of_pos_right (by linarith) hpow

/-- The interval of a magnitude ends where the next one begins. -/
theorem high_eq_low_succ (n : Nat) : high n = low (n + 1) := by
  by_cases hcarry : n % 2 ^ 52 = 2 ^ 52 - 1 ∧ n / 2 ^ 52 ≠ 0
  · -- The next magnitude is a power of two, from which on the steps are twice as long.
    obtain ⟨hlast, hfield⟩ := hcarry
    have hnext : (n + 1) / 2 ^ 52 = n / 2 ^ 52 + 1 := by omega
    have hexponent : exponent (n + 1) - 2 = exponent n - 2 + 1 := by
      unfold exponent
      rw [if_neg hfield, if_neg (by omega), hnext]
      omega
    have hsignificand : significand n = 2 ^ 53 - 1 := by
      unfold significand
      rw [if_neg hfield, hlast]
      norm_num
    have hsignificand' : significand (n + 1) = 2 ^ 52 := by
      unfold significand
      rw [if_neg (by omega)]
      omega
    have hgap : gap (n + 1) = 1 := if_pos (by omega)
    rw [high, low, hexponent, zpow_add_one₀ (by norm_num), hsignificand, hsignificand', hgap]
    push_cast
    ring
  · have hexponent : exponent (n + 1) = exponent n := by
      unfold exponent
      split <;> split <;> omega
    have hsignificand : significand (n + 1) = significand n + 1 := by
      unfold significand
      split <;> split <;> omega
    have hgap : gap (n + 1) = 2 := if_neg (by omega)
    rw [high, low, hexponent, hsignificand, hgap]
    push_cast
    ring

theorem high_le_low {m n : Nat} (h : m < n) : high m ≤ low n := by
  induction n, h using Nat.le_induction with
  | base => exact (high_eq_low_succ m).le
  | succ n _ ih => exact ih.trans ((low_lt_high n).le.trans (high_eq_low_succ n).le)

theorem Rounds.bounds {n : Nat} {q : ℚ} (h : Rounds n q) : low n ≤ q ∧ q ≤ high n := by
  unfold Rounds at h
  split at h
  · exact h
  · exact ⟨h.1.le, h.2.le⟩

theorem Rounds.not_lt {m n : Nat} {q : ℚ} (hm : Rounds m q) (hn : Rounds n q) : ¬m < n := by
  intro hlt
  have hend : q = high m := le_antisymm hm.bounds.2 ((high_le_low hlt).trans hn.bounds.1)
  have hbegin : q = low n := le_antisymm (hend.le.trans (high_le_low hlt)) hn.bounds.1
  -- The two intervals touch, so the magnitudes are neighbours.
  have hnext : n = m + 1 := by
    by_contra hne
    have hgap : m + 1 < n := by omega
    have := high_le_low hgap
    have := low_lt_high (m + 1)
    rw [← high_eq_low_succ, ← hend] at this
    linarith
  unfold Rounds at hm hn
  rw [significand_mod_two] at hm hn
  split at hm
  · split at hn
    · omega
    · linarith [hn.1]
  · linarith [hm.2]

/-- **No rational number rounds to two magnitudes.** -/
theorem rounds_unique {m n : Nat} {q : ℚ} (hm : Rounds m q) (hn : Rounds n q) : m = n := by
  have := hm.not_lt hn
  have := hn.not_lt hm
  omega

end Magnitude

/-! ## Numbers as magnitudes -/

namespace Binary64

/-- The bits without the sign. -/
def magnitude (x : Binary64) : Nat := x.bits.toNat % 2 ^ 63

theorem exponentField_eq (x : Binary64) : x.exponentField = x.magnitude / 2 ^ 52 := by
  simp only [exponentField, magnitude, Nat.pow_eq]
  omega

theorem fraction_eq (x : Binary64) : x.fraction = x.magnitude % 2 ^ 52 := by
  simp only [fraction, magnitude, Nat.pow_eq]
  omega

theorem significand_eq (x : Binary64) : x.significand = Magnitude.significand x.magnitude := by
  simp only [significand, Magnitude.significand, exponentField_eq, fraction_eq, Nat.pow_eq]

theorem exponent_eq (x : Binary64) : x.exponent = Magnitude.exponent x.magnitude := by
  simp only [exponent, Magnitude.exponent, exponentField_eq]

theorem isZero_iff {x : Binary64} : x.isZero = true ↔ x.magnitude = 0 := by
  simp only [isZero, exponentField_eq, fraction_eq, Bool.and_eq_true, beq_iff_eq]
  omega

/-- A number is its sign and its magnitude. -/
theorem ext_magnitude {x y : Binary64} (hsign : x.isNegative = y.isNegative)
    (h : x.magnitude = y.magnitude) : x = y := by
  have hx := x.bits.toNat_lt
  have hy := y.bits.toNat_lt
  have hbits : x.bits.toNat = y.bits.toNat := by
    simp only [isNegative, magnitude, Nat.pow_eq, decide_eq_decide] at hsign h
    omega
  obtain ⟨bits⟩ := x
  obtain ⟨bits'⟩ := y
  exact congrArg mk (UInt64.toNat_inj.1 hbits)

/-! ## Intervals -/

theorem powerOfTwo_pos (q : Int) : 0 < (powerOfTwo q).1 ∧ 0 < (powerOfTwo q).2 :=
  ⟨Nat.pow_pos (by decide), Nat.pow_pos (by decide)⟩

theorem pow_toNat_div {b : ℚ} (hb : b ≠ 0) (q : Int) : b ^ q.toNat / b ^ (-q).toNat = b ^ q := by
  rw [div_eq_iff (pow_ne_zero _ hb), ← zpow_natCast b q.toNat, ← zpow_natCast b (-q).toNat,
    ← zpow_add₀ hb]
  congr 1
  omega

theorem powerOfTwo_div (q : Int) : ((powerOfTwo q).1 : ℚ) / (powerOfTwo q).2 = 2 ^ q := by
  simp only [powerOfTwo, Nat.pow_eq, Nat.cast_pow, Nat.cast_ofNat]
  exact pow_toNat_div (by norm_num) q

namespace Interval

/-- The rational number lies in the interval. -/
def Contains (i : Interval) (q : ℚ) : Prop :=
  if i.closed then (i.low : ℚ) / i.denominator ≤ q ∧ q ≤ (i.high : ℚ) / i.denominator
  else (i.low : ℚ) / i.denominator < q ∧ q < (i.high : ℚ) / i.denominator

theorem denominator_inUnits_pos {i : Interval} (hi : 0 < i.denominator) (e : Int) :
    0 < (i.inUnits e).denominator :=
  Nat.mul_pos hi (Nat.pow_pos (by decide))

/-- A number over the denominator, measured in units. -/
theorem div_inUnits (i : Interval) (e : Int) (n : Nat) :
    ((n * Nat.pow 10 (-e).toNat : Nat) : ℚ) / ((i.inUnits e).denominator : Nat) =
      n / i.denominator / 10 ^ e := by
  have hpow : (10 : ℚ) ^ (-e).toNat / 10 ^ e.toNat = 10 ^ (-e) := by
    have := pow_toNat_div (b := 10) (by norm_num) (-e)
    rwa [neg_neg] at this
  simp only [inUnits, Nat.pow_eq, Nat.cast_mul, Nat.cast_pow, Nat.cast_ofNat]
  rw [mul_div_mul_comm, hpow, zpow_neg, div_eq_mul_inv (n / i.denominator : ℚ)]

/-- A whole number of units lies in the interval. -/
theorem contains_of_holds {i : Interval} (hi : 0 < i.denominator) {e : Int} {c : Nat}
    (h : (i.inUnits e).holds c = true) : i.Contains (c * 10 ^ e) := by
  have hden : (0 : ℚ) < (i.inUnits e).denominator := by exact_mod_cast denominator_inUnits_pos hi e
  have hunit : (0 : ℚ) < 10 ^ e := by positivity
  have hlow := div_inUnits i e i.low
  have hhigh := div_inUnits i e i.high
  have hle : ∀ {n : Nat} {q : ℚ}, (n : ℚ) / (i.inUnits e).denominator = q / 10 ^ e →
      (n ≤ c * (i.inUnits e).denominator ↔ q ≤ c * 10 ^ e) := by
    intro n q hq
    rw [← div_le_iff₀ hunit, ← hq, div_le_iff₀ hden]
    exact_mod_cast Iff.rfl
  have hge : ∀ {n : Nat} {q : ℚ}, (n : ℚ) / (i.inUnits e).denominator = q / 10 ^ e →
      (c * (i.inUnits e).denominator ≤ n ↔ c * 10 ^ e ≤ q) := by
    intro n q hq
    rw [← le_div_iff₀ hunit, ← hq, le_div_iff₀ hden]
    exact_mod_cast Iff.rfl
  have hlow' := hle hlow
  have hlow'' := hge hlow
  have hhigh' := hge hhigh
  have hhigh'' := hle hhigh
  unfold holds at h
  unfold Contains
  dsimp only at h
  have hclosed : (i.inUnits e).closed = i.closed := rfl
  rw [hclosed] at h
  split at h
  · rename_i hc
    rw [if_pos hc]
    obtain ⟨h1, h2⟩ := of_decide_eq_true h
    exact ⟨hlow'.1 h1, hhigh'.1 h2⟩
  · rename_i hc
    rw [if_neg hc]
    obtain ⟨h1, h2⟩ := of_decide_eq_true h
    exact ⟨not_le.1 fun hle => Nat.not_le.2 h1 (hlow''.2 hle),
      not_le.1 fun hle => Nat.not_le.2 h2 (hhigh''.2 hle)⟩

/-! ## The search -/

theorem neighbour?_holds {tie : Tie} {i : Interval} {c : Nat} (h : i.neighbour? tie = some c) :
    i.holds c = true := by
  unfold neighbour? at h
  dsimp only at h
  split at h
  · cases h
  · cases h
    assumption
  · cases h
    assumption
  · split at h
    · cases h
      assumption
    · split at h
      · cases h
        assumption
      · cases tie with
        | up =>
          cases h
          assumption
        | even =>
          cases h
          split <;> assumption

theorem holds_of_lt {i : Interval} {c : Nat} (hlow : i.low < c * i.denominator)
    (hhigh : c * i.denominator < i.high) : i.holds c = true := by
  unfold holds
  split
  · exact decide_eq_true ⟨hlow.le, hhigh.le⟩
  · exact decide_eq_true ⟨hlow, hhigh⟩

/-- Both ends are at least the `2 ^ 54`th part of the value away from it. -/
structure Wide (i : Interval) : Prop where
  low : 2 ^ 54 * i.low + i.value ≤ 2 ^ 54 * i.value
  high : 2 ^ 54 * i.value + i.value ≤ 2 ^ 54 * i.high

theorem Wide.inUnits {i : Interval} (h : i.Wide) (e : Int) : (i.inUnits e).Wide := by
  have hscale : ∀ {a b : Nat}, 2 ^ 54 * a + i.value ≤ 2 ^ 54 * b → ∀ up,
      2 ^ 54 * (a * up) + i.value * up ≤ 2 ^ 54 * (b * up) := by
    intro a b hab up
    have := Nat.mul_le_mul_right up hab
    linarith
  exact ⟨hscale h.low _, hscale h.high _⟩

/-- A wide interval holds a neighbour of the value if the value is more than `2 ^ 53` units. -/
theorem Wide.neighbour?_isSome {i : Interval} (h : i.Wide) (tie : Tie) (hpos : 0 < i.denominator)
    (hunits : 2 ^ 53 * i.denominator < i.value) : (i.neighbour? tie).isSome := by
  obtain ⟨hlow, hhigh⟩ := h
  have hsplit := Nat.div_add_mod' i.value i.denominator
  have hrest := Nat.mod_lt i.value hpos
  have hnext : (i.value / i.denominator + 1) * i.denominator =
      i.value / i.denominator * i.denominator + i.denominator := Nat.add_one_mul _ _
  have hhit : i.holds (i.value / i.denominator) = true ∨
      i.holds (i.value / i.denominator + 1) = true := by
    by_cases hhalf : 2 * (i.value % i.denominator) ≤ i.denominator
    · exact .inl (holds_of_lt (by omega) (by omega))
    · exact .inr (holds_of_lt (by omega) (by omega))
  unfold neighbour?
  dsimp only
  split
  · simp_all
  · rfl
  · rfl
  · split
    · rfl
    · split
      · rfl
      · cases tie <;> rfl

theorem firstHit_holds {tie : Tie} {i : Interval} {places : Int} {fuel digits : Nat} {d : Decimal}
    (h : firstHit tie i places fuel digits = some d) :
    (i.inUnits d.exponent).holds d.coefficient = true := by
  induction fuel generalizing digits with
  | zero => cases h
  | succ fuel ih =>
    rw [firstHit] at h
    split at h
    · rename_i c hc
      cases h
      exact neighbour?_holds hc
    · exact ih h

/-- The search succeeds if there is a hit among the grids that it tries. -/
theorem firstHit_isSome {tie : Tie} {i : Interval} {places : Int} {fuel digits n : Nat}
    (hfrom : digits ≤ n) (hto : n < digits + fuel)
    (h : ((i.inUnits (places - n)).neighbour? tie).isSome) :
    (firstHit tie i places fuel digits).isSome := by
  induction fuel generalizing digits with
  | zero => omega
  | succ fuel ih =>
    rw [firstHit]
    split
    · rfl
    · rename_i hnone
      have hne : digits ≠ n := by
        rintro rfl
        rw [hnone] at h
        cases h
      exact ih (by omega) (by omega)

end Interval

/-- The number of places before the point does not overstate the quotient. -/
theorem pow_decimalPlaces_le {num den : Nat} (hnum : 0 < num) (hden : 0 < den) :
    (10 : ℚ) ^ (decimalPlaces num den - 1) ≤ num / den := by
  have hden' : (0 : ℚ) < den := by exact_mod_cast hden
  have hnum' : (0 : ℚ) < num := by exact_mod_cast hnum
  unfold decimalPlaces
  split
  · rename_i hle
    generalize hlength : (Nat.toDigits 10 (num / den)).length = k
    have hpow : 10 ^ (k - 1) ≤ num / den := by
      by_cases hk : k - 1 = 0
      · rw [hk, Nat.pow_zero]
        exact Nat.div_pos hle hden
      · by_contra hlt
        have := (Nat.length_toDigits_le_iff (by decide) (by omega)).2 (Nat.not_le.1 hlt)
        omega
    have hk : 0 < k := by
      rw [← hlength]
      exact List.length_pos_iff.2 Nat.toDigits_ne_nil
    have hexponent : (k : Int) - 1 = ((k - 1 : Nat) : Int) := by omega
    rw [hexponent, zpow_natCast, le_div_iff₀ hden']
    have := Nat.mul_le_of_le_div _ _ _ hpow
    exact_mod_cast this
  · rename_i hlt
    generalize hlength : (Nat.toDigits 10 (den / num)).length = k
    have hk : 0 < k := by
      rw [← hlength]
      exact List.length_pos_iff.2 Nat.toDigits_ne_nil
    have hpow : den < 10 ^ k * num := by
      rw [← Nat.div_lt_iff_lt_mul hnum, ← Nat.length_toDigits_le_iff (by decide) hk, hlength]
    have hexponent : 1 - (k : Int) - 1 = -(k : Int) := by omega
    rw [hexponent, zpow_neg, zpow_natCast, le_div_iff₀ hden', inv_mul_le_iff₀ (by positivity)]
    exact_mod_cast hpow.le

/-! ## What the search finds -/

variable {x : Binary64}

theorem interval_eq (x : Binary64) : x.interval =
    let m := Magnitude.significand x.magnitude
    let p := powerOfTwo (Magnitude.exponent x.magnitude - 2)
    { low := (4 * m - Magnitude.gap x.magnitude) * p.1
      value := 4 * m * p.1
      high := (4 * m + 2) * p.1
      denominator := p.2
      closed := m % 2 = 0 } := by
  simp only [interval, significand_eq, exponent_eq, fraction_eq, exponentField_eq, Magnitude.gap,
    decide_eq_true_eq]

theorem denominator_interval_pos (x : Binary64) : 0 < x.interval.denominator := by
  rw [interval_eq]
  exact (powerOfTwo_pos _).2

theorem value_interval_pos (h : x.magnitude ≠ 0) : 0 < x.interval.value := by
  rw [interval_eq]
  exact Nat.mul_pos (Nat.mul_pos (by decide) (Magnitude.significand_pos h)) (powerOfTwo_pos _).1

theorem interval_wide (x : Binary64) : x.interval.Wide := by
  rw [interval_eq]
  dsimp only
  generalize (powerOfTwo (Magnitude.exponent x.magnitude - 2)).1 = up
  have hm : Magnitude.significand x.magnitude < 2 ^ 53 := by
    unfold Magnitude.significand
    split <;> omega
  -- A step down is shorter at a power of two only.
  have hgap : 4 * Magnitude.significand x.magnitude ≤ 2 ^ 54 * Magnitude.gap x.magnitude := by
    unfold Magnitude.gap
    split
    · unfold Magnitude.significand
      split <;> omega
    · omega
  generalize Magnitude.significand x.magnitude = m at hm hgap ⊢
  generalize Magnitude.gap x.magnitude = g at hgap ⊢
  have hlow : 2 ^ 54 * (4 * m - g) + 4 * m ≤ 2 ^ 54 * (4 * m) := by omega
  have hhigh : 2 ^ 54 * (4 * m) + 4 * m ≤ 2 ^ 54 * (4 * m + 2) := by omega
  constructor
  · calc 2 ^ 54 * ((4 * m - g) * up) + 4 * m * up = (2 ^ 54 * (4 * m - g) + 4 * m) * up := by ring
      _ ≤ 2 ^ 54 * (4 * m) * up := Nat.mul_le_mul_right up hlow
      _ = 2 ^ 54 * (4 * m * up) := by ring
  · calc 2 ^ 54 * (4 * m * up) + 4 * m * up = (2 ^ 54 * (4 * m) + 4 * m) * up := by ring
      _ ≤ 2 ^ 54 * (4 * m + 2) * up := Nat.mul_le_mul_right up hhigh
      _ = 2 ^ 54 * ((4 * m + 2) * up) := by ring

theorem rounds_of_contains {q : ℚ} (h : x.magnitude ≠ 0) (hq : x.interval.Contains q) :
    Magnitude.Rounds x.magnitude q := by
  have hgap : Magnitude.gap x.magnitude ≤ 4 * Magnitude.significand x.magnitude := by
    have := Magnitude.significand_pos h
    have := Magnitude.gap_le_two x.magnitude
    omega
  have hlow : (x.interval.low : ℚ) / x.interval.denominator = Magnitude.low x.magnitude := by
    rw [interval_eq, Magnitude.low, ← powerOfTwo_div]
    push_cast [Nat.cast_sub hgap]
    ring
  have hhigh : (x.interval.high : ℚ) / x.interval.denominator = Magnitude.high x.magnitude := by
    rw [interval_eq, Magnitude.high, ← powerOfTwo_div]
    push_cast
    ring
  have hclosed : x.interval.closed = decide (Magnitude.significand x.magnitude % 2 = 0) := by
    rw [interval_eq]
  unfold Interval.Contains at hq
  rw [hlow, hhigh, hclosed] at hq
  unfold Magnitude.Rounds
  simpa using hq

/-- Seventeen digits are enough. -/
theorem firstHit_interval_isSome (tie : Tie) (h : x.magnitude ≠ 0) :
    (firstHit tie x.interval (decimalPlaces x.interval.value x.interval.denominator) 17 1).isSome := by
  have hden := denominator_interval_pos x
  have hplaces := pow_decimalPlaces_le (value_interval_pos h) hden
  have hwide := interval_wide x
  generalize x.interval = i at hden hplaces hwide ⊢
  generalize decimalPlaces i.value i.denominator = places at hplaces ⊢
  refine Interval.firstHit_isSome (n := 17) (by decide) (by decide) ?_
  have hden' := Interval.denominator_inUnits_pos hden (places - (17 : Nat))
  refine (hwide.inUnits _).neighbour?_isSome tie hden' ?_
  -- The first digit of the value stands sixteen places before the unit, and `2 ^ 53 < 10 ^ 16`.
  have hexponent : places - 1 = (places - (17 : Nat)) + 16 := by omega
  have hunits : (2 : ℚ) ^ 53 < ((i.inUnits (places - (17 : Nat))).value : Nat) /
      (i.inUnits (places - (17 : Nat))).denominator := by
    calc (2 : ℚ) ^ 53 < 10 ^ (16 : Int) := by norm_num
      _ = 10 ^ (places - 1) / 10 ^ (places - (17 : Nat)) := by
        rw [hexponent, zpow_add₀ (by norm_num), mul_div_cancel_left₀ _ (by positivity)]
      _ ≤ i.value / i.denominator / 10 ^ (places - (17 : Nat)) := by gcongr
      _ = _ := (Interval.div_inUnits i _ i.value).symm
  rw [lt_div_iff₀ (by exact_mod_cast hden')] at hunits
  exact_mod_cast hunits

/-- **The shortest decimal of a number rounds to it.** -/
theorem rounds_shortest (tie : Tie) (h : x.magnitude ≠ 0) :
    Magnitude.Rounds x.magnitude (x.shortest tie).value := by
  have hzero : x.isZero = false := by
    rw [Bool.eq_false_iff, ne_eq, isZero_iff]
    exact h
  obtain ⟨d, hd⟩ := Option.isSome_iff_exists.1 (firstHit_interval_isSome tie h)
  unfold shortest
  rw [hzero, if_neg (by decide)]
  dsimp only
  rw [hd]
  dsimp only
  rw [Decimal.value_trimZeros]
  exact rounds_of_contains h
    (Interval.contains_of_holds (denominator_interval_pos x) (Interval.firstHit_holds hd))

theorem shortest_zero (tie : Tie) (h : x.magnitude = 0) : (x.shortest tie).value = 0 := by
  unfold shortest
  rw [isZero_iff.2 h, if_pos rfl, Decimal.value]
  simp

/-- **Numbers with one shortest decimal have one magnitude.** -/
theorem magnitude_inj {y : Binary64} (tie : Tie)
    (h : (x.shortest tie).value = (y.shortest tie).value) : x.magnitude = y.magnitude := by
  have hpos : ∀ {z : Binary64}, z.magnitude ≠ 0 → 0 < (z.shortest tie).value := fun hz =>
    (Magnitude.low_pos hz).trans_le (rounds_shortest tie hz).bounds.1
  by_cases hx : x.magnitude = 0
  · by_cases hy : y.magnitude = 0
    · rw [hx, hy]
    · have := hpos hy
      rw [← h, shortest_zero tie hx] at this
      exact absurd this (lt_irrefl 0)
  · by_cases hy : y.magnitude = 0
    · have := hpos hx
      rw [h, shortest_zero tie hy] at this
      exact absurd this (lt_irrefl 0)
    · exact Magnitude.rounds_unique (rounds_shortest tie hx) (h ▸ rounds_shortest tie hy)

end Binary64

end GuardedQuery
