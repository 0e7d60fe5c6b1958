/-
What decimal numerals mean. Every digit counts a tenth of the one before it, and the last digit
before the point counts one. A text of digits, with more digits after a point or without a point,
denotes the sum. No more digits after the point than there are places make it a whole number of
units of the last place, which is the number that reading comes to.
-/

import Mathlib.Algebra.Order.Field.Rat
import Mathlib.Tactic.LinearCombination
import Mathlib.Tactic.NormNum
import SuperblockGovernance.Proofs.DecimalNumerals

namespace SuperblockGovernance.Decimal

/-! ### Exact values -/

/-- The number that a digit stands for. -/
def digitValue (digit : Char) : Nat :=
  digit.toNat - '0'.toNat

/-- The sum of digits of which the first counts the given weight. -/
def valueFrom (weight : ℚ) : List Char → ℚ
  | [] => 0
  | digit :: rest => digitValue digit * weight + valueFrom (weight / 10) rest

/-- The number that a numeral with these digits before and after the point stands for. -/
def exactValue (whole fraction : List Char) : ℚ :=
  valueFrom (10 ^ (whole.length - 1) : Nat) (whole ++ fraction)

/-- The text is a numeral for the number: one or more digits and nothing else, or a point after
them and between `least` and `most` more digits. -/
inductive Denotes (least most : Nat) : List Char → ℚ → Prop
  | whole {digits : List Char} (numeral : IsNumeral digits) :
      Denotes least most digits (exactValue digits [])
  | pointed {whole fraction : List Char} (numeral : IsNumeral whole)
      (digits : fraction.all Char.isDigit = true) (enough : least ≤ fraction.length)
      (short : fraction.length ≤ most) :
      Denotes least most (whole ++ '.' :: fraction) (exactValue whole fraction)

/-! ### Exact values in units -/

theorem value_cons (digit : Char) (rest : List Char) :
    value (digit :: rest) = digitValue digit * 10 ^ rest.length + value rest := by
  have single : value [digit] = digitValue digit := by
    rw [value, Nat.ofDigitChars_cons, Nat.ofDigitChars_nil, Nat.mul_zero, Nat.zero_add, digitValue]
  rw [← single]
  exact value_append [digit] rest

theorem digitValue_lt {digit : Char} (isDigit : digit.isDigit = true) : digitValue digit < 10 := by
  obtain ⟨least, greatest⟩ := Char.isDigit_iff_toNat.mp isDigit
  rw [digitValue]
  change digit.toNat ≤ 57 at greatest
  change digit.toNat - 48 < 10
  omega

theorem valueFrom_mul (weight : ℚ) (digits : List Char) :
    valueFrom weight digits * (10 ^ digits.length : Nat) = value digits * (10 * weight) := by
  induction digits generalizing weight with
  | nil => simp [valueFrom, value]
  | cons digit rest inductionHypothesis =>
    have tail := inductionHypothesis (weight / 10)
    rw [mul_div_cancel₀ weight (by norm_num)] at tail
    rw [valueFrom, value_cons, List.length_cons, Nat.pow_succ, Nat.cast_add, Nat.cast_mul,
      Nat.cast_mul, Nat.cast_ofNat]
    linear_combination 10 * tail

/-- As a number of units of its own last place, a numeral is the number without the point. -/
theorem exactValue_mul_length {whole : List Char} (numeral : IsNumeral whole)
    (fraction : List Char) :
    exactValue whole fraction * (10 ^ fraction.length : Nat) = value (whole ++ fraction) := by
  have positive : ((10 ^ whole.length : Nat) : ℚ) ≠ 0 :=
    Nat.cast_ne_zero.mpr (Nat.pow_pos (by decide)).ne'
  have first : ((10 ^ whole.length : Nat) : ℚ) = 10 * (10 ^ (whole.length - 1) : Nat) := by
    obtain ⟨rest, same⟩ := Nat.exists_eq_succ_of_ne_zero (List.length_pos_iff.mpr numeral.1).ne'
    rw [same, Nat.pow_succ, Nat.cast_mul, Nat.cast_ofNat, mul_comm]
    rfl
  have total := valueFrom_mul (10 ^ (whole.length - 1) : Nat) (whole ++ fraction)
  rw [← first, List.length_append, Nat.pow_add, Nat.cast_mul] at total
  refine mul_right_cancel₀ positive ?_
  rw [exactValue]
  linear_combination total

example : exactValue ['1', '2'] ['0', '5'] = 241 / 20 := by
  decide +kernel

/-- A numeral with no more digits after the point than there are places is a whole number of units
of the last place. -/
theorem exactValue_mul {places : Nat} {whole fraction : List Char} (numeral : IsNumeral whole)
    (short : fraction.length ≤ places) :
    exactValue whole fraction * (10 ^ places : Nat) = units places whole fraction := by
  have scale : 10 ^ places = 10 ^ fraction.length * 10 ^ (places - fraction.length) := by
    rw [← Nat.pow_add, Nat.add_sub_cancel' short]
  rw [units_eq short, scale, Nat.cast_mul, ← mul_assoc, exactValue_mul_length numeral,
    Nat.cast_mul]

/-! ### Texts that denote numbers -/

/-- What a text without a point denotes. -/
theorem exists_denotes_iff_of_whole {least most places number : Nat} {text whole : List Char}
    (cut : cutAtPoint text = (whole, none)) :
    (∃ value, Denotes least most text value ∧ value * (10 ^ places : Nat) = number) ↔
      IsNumeral whole ∧ units places whole [] = number := by
  constructor
  · rintro ⟨value, denotes, same⟩
    cases denotes with
    | whole numeral =>
      rw [cutAtPoint_of_isNumeral numeral] at cut
      cases cut
      rw [exactValue_mul numeral (Nat.zero_le _)] at same
      exact ⟨numeral, Nat.cast_inj.mp same⟩
    | pointed numeral digits enough short =>
      rw [cutAtPoint_append numeral] at cut
      cases cut
  · rintro ⟨numeral, rfl⟩
    rw [eq_of_cutAtPoint cut]
    exact ⟨_, .whole numeral, exactValue_mul numeral (Nat.zero_le _)⟩

/-- What a text with a point denotes. -/
theorem exists_denotes_iff_of_pointed {least most places number : Nat}
    {text whole fraction : List Char} (fits : most ≤ places)
    (cut : cutAtPoint text = (whole, some fraction)) :
    (∃ value, Denotes least most text value ∧ value * (10 ^ places : Nat) = number) ↔
      (IsNumeral whole ∧ fraction.all Char.isDigit = true ∧ least ≤ fraction.length ∧
        fraction.length ≤ most) ∧ units places whole fraction = number := by
  constructor
  · rintro ⟨value, denotes, same⟩
    cases denotes with
    | whole numeral =>
      rw [cutAtPoint_of_isNumeral numeral] at cut
      cases cut
    | pointed numeral digits enough short =>
      rw [cutAtPoint_append numeral] at cut
      cases cut
      rw [exactValue_mul numeral (short.trans fits)] at same
      exact ⟨⟨numeral, digits, enough, short⟩, Nat.cast_inj.mp same⟩
  · rintro ⟨⟨numeral, digits, enough, short⟩, rfl⟩
    rw [eq_append_of_cutAtPoint cut]
    exact ⟨_, .pointed numeral digits enough short, exactValue_mul numeral (short.trans fits)⟩

end SuperblockGovernance.Decimal
