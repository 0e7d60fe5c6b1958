/-
Natural numbers. Powers are the powers of the core library, in which its bounds on machine
words are written, also where algebra brings powers of its own. `sumOf` adds a number up
over a list.

Division follows the rules that payouts use. A quotient is rounded to the nearest whole number
with exact halves going down, or cut to the whole number below. Products are held in 128 bits
and stay at the greatest such number when they would pass it; a zero divisor gives zero.
-/

namespace SuperblockGovernance

@[default_instance 10001]
instance (priority := 10001) corePower {α : Type} [NatPow α] : Pow α Nat := instPowNat

/-- The sum of a number of each element. -/
def sumOf {α : Type} (number : α → Nat) (list : List α) : Nat :=
  list.foldr (fun element rest => number element + rest) 0

section

variable {α : Type} (number : α → Nat)

@[simp] theorem sumOf_nil : sumOf number [] = 0 := rfl

@[simp] theorem sumOf_cons (element : α) (rest : List α) :
    sumOf number (element :: rest) = number element + sumOf number rest := rfl

end

/-! ### Rounded division -/

namespace Rounding

/-- The greatest number held in 128 bits. -/
def maxWord128 : Nat :=
  2 ^ 128 - 1

/-- The product, at most the greatest number held in 128 bits. -/
def saturatingMul (first second : Nat) : Nat :=
  min (first * second) maxWord128

/-- The quotient rounded to the nearest whole number, exact halves down. -/
def divHalfDown (dividend divisor : Nat) : Nat :=
  if divisor = 0 then 0
  else
    let remainder := dividend % divisor
    if divisor - remainder < remainder then dividend / divisor + 1 else dividend / divisor

/-- The whole part of `first * second / divisor`, the product saturating. -/
def mulDivFloor (first second divisor : Nat) : Nat :=
  if divisor = 0 then 0 else saturatingMul first second / divisor

theorem saturatingMul_le (first second : Nat) : saturatingMul first second ≤ first * second :=
  Nat.min_le_left _ _

theorem mulDivFloor_mul_le (first second divisor : Nat) :
    mulDivFloor first second divisor * divisor ≤ first * second := by
  rw [mulDivFloor]
  split
  · rw [Nat.zero_mul]
    exact Nat.zero_le _
  · exact Nat.le_trans (Nat.div_mul_le_self _ _) (saturatingMul_le first second)

theorem saturatingMul_of_le {first second : Nat} (fits : first * second ≤ maxWord128) :
    saturatingMul first second = first * second :=
  Nat.min_eq_left fits

theorem saturatingMul_mono {fewer more : Nat} (less : fewer ≤ more) (factor : Nat) :
    saturatingMul fewer factor ≤ saturatingMul more factor := by
  have products := Nat.mul_le_mul_right factor less
  rw [saturatingMul, saturatingMul]
  omega

theorem mulDivFloor_of_le {first second : Nat} (fits : first * second ≤ maxWord128)
    (divisor : Nat) : mulDivFloor first second divisor = first * second / divisor := by
  rw [mulDivFloor, saturatingMul_of_le fits]
  split
  · rename_i zero
    rw [zero, Nat.div_zero]
  · rfl

/-- Rounding to the nearest adds at most half. -/
theorem twice_divHalfDown_mul_le (dividend divisor : Nat) :
    2 * (divHalfDown dividend divisor * divisor) ≤ 2 * dividend + divisor := by
  rw [divHalfDown]
  split
  · omega
  · have parts := Nat.div_add_mod dividend divisor
    rw [Nat.mul_comm] at parts
    dsimp only
    split
    · rw [Nat.add_mul, Nat.one_mul]
      omega
    · omega

/-- Rounding to the nearest takes away at most half and adds less than half. -/
theorem divHalfDown_near {divisor : Nat} (positive : 0 < divisor) (dividend : Nat) :
    2 * dividend ≤ 2 * (divHalfDown dividend divisor * divisor) + divisor ∧
      2 * (divHalfDown dividend divisor * divisor) < 2 * dividend + divisor := by
  have parts := Nat.div_add_mod dividend divisor
  have rest := Nat.mod_lt dividend positive
  rw [Nat.mul_comm] at parts
  rw [divHalfDown, if_neg (Nat.ne_of_gt positive)]
  dsimp only
  split
  · rw [Nat.add_mul, Nat.one_mul]
    omega
  · omega

theorem divHalfDown_mono {smaller larger : Nat} (below : smaller ≤ larger) (divisor : Nat) :
    divHalfDown smaller divisor ≤ divHalfDown larger divisor := by
  rcases Nat.eq_zero_or_pos divisor with zero | positive
  · rw [divHalfDown, if_pos zero]
    exact Nat.zero_le _
  · refine Nat.le_of_lt_succ (Nat.lt_of_mul_lt_mul_right (a := divisor) ?_)
    have taken := (divHalfDown_near positive smaller).2
    have added := (divHalfDown_near positive larger).1
    rw [Nat.succ_mul]
    omega

end Rounding

end SuperblockGovernance
