/-!
# Powers of two and of ten

## Main definitions

* `twoTo`: a power of two, the size of a binary place
* `tenTo`: a power of ten, the size of a decimal place
-/

namespace DeskCalculator.Number

/-- The power of two with exponent `n`. -/
def twoTo (n : Nat) : Nat := Nat.pow 2 n

/-- The power of ten with exponent `n`. -/
def tenTo (n : Nat) : Nat := Nat.pow 10 n

theorem twoTo_zero : twoTo 0 = 1 := rfl

theorem twoTo_succ (n : Nat) : twoTo (n + 1) = twoTo n * 2 := rfl

theorem tenTo_zero : tenTo 0 = 1 := rfl

theorem tenTo_succ (n : Nat) : tenTo (n + 1) = tenTo n * 10 := rfl

theorem twoTo_add (m n : Nat) : twoTo (m + n) = twoTo m * twoTo n := Nat.pow_add 2 m n

theorem twoTo_mono {m n : Nat} (h : m ≤ n) : twoTo m ≤ twoTo n :=
  Nat.pow_le_pow_right (by decide) h

theorem twoTo_pos (n : Nat) : 0 < twoTo n := Nat.pow_pos (by decide)

theorem tenTo_pos (n : Nat) : 0 < tenTo n := Nat.pow_pos (by decide)

end DeskCalculator.Number
