/-!
# Rounding a quotient

## Main definitions

* `roundHalfEven`: the natural number nearest to a quotient; a tie goes to the even neighbour

## Main results

* `two_mul_den_mul_roundHalfEven_le`, `le_two_mul_den_mul_roundHalfEven`: the result is at most half
  a unit away
-/

namespace DeskCalculator.Number

/-- The natural number nearest to `num / den`; of two equally near ones the even one. -/
def roundHalfEven (num den : Nat) : Nat :=
  let q := num / den
  let r := num % den
  if 2 * r < den then q
  else if den < 2 * r then q + 1
  else q + q % 2

/-- The result exceeds the quotient by at most one half. -/
theorem two_mul_den_mul_roundHalfEven_le (num : Nat) {den : Nat} (h : 0 < den) :
    2 * (den * roundHalfEven num den) ≤ 2 * num + den := by
  have hd := Nat.div_add_mod num den
  have hm := Nat.mod_lt num h
  simp only [roundHalfEven]
  split
  · omega
  · split
    · rw [Nat.mul_add]; omega
    · rw [Nat.mul_add]
      have : den * (num / den % 2) ≤ den := by
        rcases Nat.mod_two_eq_zero_or_one (num / den) with h0 | h0 <;> simp [h0]
      omega

/-- The result falls short of the quotient by at most one half. -/
theorem le_two_mul_den_mul_roundHalfEven (num : Nat) {den : Nat} (h : 0 < den) :
    2 * num ≤ 2 * (den * roundHalfEven num den) + den := by
  have hd := Nat.div_add_mod num den
  have hm := Nat.mod_lt num h
  simp only [roundHalfEven]
  split
  · omega
  · split
    · rw [Nat.mul_add]; omega
    · rw [Nat.mul_add]; omega

end DeskCalculator.Number
