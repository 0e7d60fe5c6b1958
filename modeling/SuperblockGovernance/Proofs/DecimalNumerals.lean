/-
Decimal numerals. A number reads back from its digits, also with zeros before them, with a sign, or
with a point at a fixed place. A text is cut at its first point into the two parts that stand around
the point, and digits alone are not cut. Nothing stands in a numeral but digits, a sign and a point.
-/

import Mathlib.Data.List.TakeWhile
import SuperblockGovernance.Text.Decimal

namespace SuperblockGovernance.Decimal

/-! ### Digits -/

theorem isNumeral_digits (number : Nat) : IsNumeral (digits number) :=
  ⟨Nat.toDigits_ne_nil, List.all_eq_true.mpr fun _ member =>
    Nat.isDigit_of_mem_toDigits (by decide) (by decide) member⟩

theorem notMem_digits {character : Char} (notDigit : character.isDigit = false) (number : Nat) :
    character ∉ digits number := by
  intro member
  rw [List.all_eq_true.mp (isNumeral_digits number).2 character member] at notDigit
  cases notDigit

theorem isNumeral_padLeft (width number : Nat) : IsNumeral (padLeft width (digits number)) := by
  obtain ⟨filled, all⟩ := isNumeral_digits number
  refine ⟨fun nothing => filled (List.append_eq_nil_iff.mp nothing).2, ?_⟩
  rw [padLeft, List.all_append, all, Bool.and_true, List.all_replicate]
  simp

theorem value_padLeft (width number : Nat) : value (padLeft width (digits number)) = number := by
  rw [value, padLeft, Nat.ofDigitChars_append, Nat.ofDigitChars_replicate_zero, Nat.mul_zero]
  exact value_digits number

/-- A remainder fills its width exactly. -/
theorem length_padLeft {width : Nat} (filled : 0 < width) (number : Nat) :
    (padLeft width (digits (number % 10 ^ width))).length = width := by
  have remainder : number % 10 ^ width < 10 ^ width := Nat.mod_lt number (Nat.pow_pos (by decide))
  have short : (digits (number % 10 ^ width)).length ≤ width :=
    (Nat.length_toDigits_le_iff (by decide) filled).mpr remainder
  rw [padLeft, List.length_append, List.length_replicate]
  omega

theorem value_nil : value [] = 0 := rfl

theorem value_append (before after : List Char) :
    value (before ++ after) = value before * 10 ^ after.length + value after := by
  rw [value, Nat.ofDigitChars_append, Nat.ofDigitChars_eq_ofDigitChars_zero, Nat.mul_comm]
  rfl

/-! ### Signs -/

theorem natural?_digits (number : Nat) : natural? (digits number) = some number := by
  rw [natural?, if_pos (isNumeral_digits number), value_digits]

theorem unsigned?_digits (number : Nat) : unsigned? (digits number) = some number := by
  unfold unsigned?
  split
  · rename_i signed
    exact absurd (signed ▸ List.mem_cons_self) (notMem_digits (by decide) number)
  · exact natural?_digits number

theorem word32?_digits (number : UInt32) : word32? (digits number.toNat) = some number := by
  rw [word32?, unsigned?_digits, Option.bind_eq_bind, Option.bind_some, if_pos number.toNat_lt,
    UInt32.ofNat_toNat]

theorem signed?_signedText (number : Int) : signed? (signedText number).toList = some number := by
  cases number with
  | ofNat magnitude =>
    rw [signedText, String.toList_ofList]
    unfold signed?
    split
    · rename_i signed
      exact absurd (signed ▸ List.mem_cons_self) (notMem_digits (by decide) magnitude)
    · rw [unsigned?_digits]
      rfl
  | negSucc predecessor =>
    rw [signedText, String.toList_ofList, signed?, natural?_digits]
    rfl

theorem small?_signedText (number : Int8) :
    small? (signedText number.toInt).toList = some number := by
  rw [small?, signed?_signedText, Option.bind_eq_bind, Option.bind_some,
    if_pos ⟨number.le_toInt, Int.le_of_lt_add_one number.toInt_lt⟩, Int8.ofInt_toInt]

theorem bracket_notMem_signedText (number : Int) : '<' ∉ (signedText number).toList := by
  cases number with
  | ofNat magnitude =>
    rw [signedText, String.toList_ofList]
    exact notMem_digits (by decide) magnitude
  | negSucc predecessor =>
    rw [signedText, String.toList_ofList, List.mem_cons, not_or]
    exact ⟨by decide, notMem_digits (by decide) _⟩

/-! ### Points -/

theorem IsNumeral.ne_point {whole : List Char} (numeral : IsNumeral whole) :
    ∀ character ∈ whole, decide (character ≠ '.') = true := by
  intro character member
  have digit := List.all_eq_true.mp numeral.2 character member
  refine decide_eq_true fun same => ?_
  rw [same] at digit
  cases digit

theorem cutAtPoint_append {whole fraction : List Char} (numeral : IsNumeral whole) :
    cutAtPoint (whole ++ '.' :: fraction) = (whole, some fraction) := by
  have before := numeral.ne_point
  rw [cutAtPoint, List.dropWhile_append_of_pos before, List.takeWhile_append_of_pos before]
  simp

theorem cutAtPoint_of_isNumeral {whole : List Char} (numeral : IsNumeral whole) :
    cutAtPoint whole = (whole, none) := by
  rw [cutAtPoint, List.dropWhile_eq_nil_iff.mpr numeral.ne_point]

theorem eq_of_cutAtPoint {text whole : List Char} (cut : cutAtPoint text = (whole, none)) :
    text = whole := by
  unfold cutAtPoint at cut
  split at cut
  · exact congrArg Prod.fst cut
  · cases cut

theorem eq_append_of_cutAtPoint {text whole fraction : List Char}
    (cut : cutAtPoint text = (whole, some fraction)) : text = whole ++ '.' :: fraction := by
  unfold cutAtPoint at cut
  split at cut
  · cases cut
  · rename_i character rest found
    cases cut
    have point : character = '.' := by
      have stop := List.head?_dropWhile_not (· ≠ '.') text
      rw [found] at stop
      simpa using stop
    subst point
    rw [← found]
    exact List.takeWhile_append_dropWhile.symm

/-- A number with a point holds nothing but digits and the point. -/
theorem notMem_pointed {character : Char} (notDigit : character.isDigit = false)
    (notPoint : character ≠ '.') (places number : Nat) : character ∉ pointed places number := by
  rw [pointed, List.mem_append, List.mem_cons, not_or, not_or]
  refine ⟨notMem_digits notDigit _, notPoint, fun member => ?_⟩
  rw [List.all_eq_true.mp (isNumeral_padLeft places _).2 _ member] at notDigit
  cases notDigit

theorem units_eq {places : Nat} {fraction : List Char} (short : fraction.length ≤ places)
    (whole : List Char) :
    units places whole fraction = value (whole ++ fraction) * 10 ^ (places - fraction.length) := by
  rw [units, value_append, Nat.add_mul, Nat.mul_assoc, ← Nat.pow_add, Nat.add_sub_cancel' short]

/-- What is written with a point counts as many units of a later place as there are in it. -/
theorem units_pointed {width places : Nat} (filled : 0 < width) (short : width ≤ places)
    (number : Nat) :
    units places (digits (number / 10 ^ width)) (padLeft width (digits (number % 10 ^ width))) =
      number * 10 ^ (places - width) := by
  have length := length_padLeft filled number
  rw [units_eq (Nat.le_trans (Nat.le_of_eq length) short), value_append, length, value_digits,
    value_padLeft, Nat.div_add_mod']

end SuperblockGovernance.Decimal
