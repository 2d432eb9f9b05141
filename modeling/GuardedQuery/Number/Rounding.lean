/-!
# Rounding

Quotients are rounded to the nearest natural number, and a half to the even neighbour. The result is
never further away than a half (`two_mul_roundHalfEven_le`, `le_two_mul_roundHalfEven`).
-/

namespace GuardedQuery

/-- `num / den` rounded to the nearest natural number, a half to the even neighbour. -/
def roundHalfEven (num den : Nat) : Nat :=
  let floor := num / den
  let twice := 2 * (num % den)
  if twice < den then floor
  else if den < twice then floor + 1
  else if floor % 2 = 0 then floor else floor + 1

/-- A rounded quotient is at most a half too large. -/
theorem two_mul_roundHalfEven_le (num den : Nat) (h : 0 < den) :
    2 * (roundHalfEven num den * den) ≤ 2 * num + den := by
  have split := Nat.div_add_mod' num den
  have rest := Nat.mod_lt num h
  have next : (num / den + 1) * den = num / den * den + den := Nat.add_one_mul ..
  simp only [roundHalfEven]
  repeat' split
  all_goals omega

/-- A rounded quotient is at most a half too small. -/
theorem le_two_mul_roundHalfEven (num den : Nat) (h : 0 < den) :
    2 * num ≤ 2 * (roundHalfEven num den * den) + den := by
  have split := Nat.div_add_mod' num den
  have rest := Nat.mod_lt num h
  have next : (num / den + 1) * den = num / den * den + den := Nat.add_one_mul ..
  simp only [roundHalfEven]
  repeat' split
  all_goals omega

end GuardedQuery
