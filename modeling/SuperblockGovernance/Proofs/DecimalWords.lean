/-
Reading numerals step by step in words of a fixed width. A step gives nothing where a word does not
hold its result. The digits after the point are added up one after the other, each with the power of
ten that it counts: they come to less than one before the point, so if a word holds the units of
one, no digit leaves the words. What is left to check are the digits before the point, their units
and the sum.
-/

import SuperblockGovernance.Proofs.DecimalValues

namespace SuperblockGovernance.Decimal

variable {width : Nat}

/-! ### Words -/

/-- The word for a number, if there is one. -/
def word? (width number : Nat) : Option (BitVec width) :=
  if number < 2 ^ width then some (BitVec.ofNat width number) else none

theorem word?_eq_some_iff {number : Nat} {word : BitVec width} :
    word? width number = some word ↔ word.toNat = number := by
  rw [word?]
  constructor
  · intro held
    split at held
    · rename_i fits
      cases held
      rw [BitVec.toNat_ofNat, Nat.mod_eq_of_lt fits]
    · cases held
  · rintro rfl
    rw [if_pos word.isLt, BitVec.ofNat_toNat, BitVec.setWidth_eq]

theorem exists_word? {number : Nat} (fits : number < 2 ^ width) :
    ∃ word, word? width number = some word ∧ word.toNat = number :=
  ⟨_, if_pos fits, (BitVec.toNat_ofNat number width).trans (Nat.mod_eq_of_lt fits)⟩

theorem word?_eq_none_iff {number : Nat} : word? width number = none ↔ 2 ^ width ≤ number := by
  rw [word?, ite_eq_right_iff, ← Nat.not_lt]
  simp

/-- A sum is held by a word if its first part is and the sum is. -/
theorem word?_bind_add (first second : Nat) :
    ((word? width first).bind fun word => word? width (word.toNat + second)) =
      word? width (first + second) := by
  cases held : word? width first with
  | none =>
    have beyond := word?_eq_none_iff.mp held
    exact (word?_eq_none_iff.mpr (Nat.le_add_right_of_le beyond)).symm
  | some word => rw [Option.bind_some, word?_eq_some_iff.mp held]

/-! ### Digits after the point -/

/-- Adds a digit that counts a power of ten to a sum, all of them in words. -/
def addDigit? (exponent : Nat) (sum : BitVec width) (digit : Char) : Option (BitVec width) := do
  let weight ← word? width (10 ^ exponent)
  let share ← word? width (digitValue digit * weight.toNat)
  word? width (sum.toNat + share.toNat)

/-- Adds digits one after the other, the first of them at the highest of the places that are left;
nothing if a step leaves the words or no place is left. -/
def addDigits? : Nat → BitVec width → List Char → Option (BitVec width)
  | _, sum, [] => some sum
  | 0, _, _ :: _ => none
  | left + 1, sum, digit :: rest =>
    (addDigit? left sum digit).bind fun next => addDigits? left next rest

/-- A digit adds less than the place before it counts. So a sum that leaves room for one at that
place leaves room for one at the place of the digit. -/
theorem addDigit?_of_room {limit exponent : Nat} {sum : BitVec width} {digit : Char}
    (held : limit < 2 ^ width) (isDigit : digit.isDigit = true)
    (room : sum.toNat + 10 ^ (exponent + 1) ≤ limit) :
    ∃ next, addDigit? exponent sum digit = some next ∧
      next.toNat = sum.toNat + digitValue digit * 10 ^ exponent ∧
      next.toNat + 10 ^ exponent ≤ limit := by
  rw [Nat.pow_succ] at room
  have small : digitValue digit * 10 ^ exponent ≤ 9 * 10 ^ exponent :=
    Nat.mul_le_mul_right _ (Nat.le_of_lt_succ (digitValue_lt isDigit))
  obtain ⟨weight, weightHeld, weightIs⟩ := exists_word? (show 10 ^ exponent < 2 ^ width by omega)
  obtain ⟨share, shareHeld, shareIs⟩ :=
    exists_word? (show digitValue digit * 10 ^ exponent < 2 ^ width by omega)
  obtain ⟨next, nextHeld, nextIs⟩ :=
    exists_word? (show sum.toNat + share.toNat < 2 ^ width by omega)
  refine ⟨next, ?_, by rw [nextIs, shareIs], by omega⟩
  simp only [addDigit?, weightHeld, weightIs, shareHeld, nextHeld, Option.bind_eq_bind,
    Option.bind_some]

theorem addDigits?_of_room {limit left : Nat} {sum : BitVec width} {digits : List Char}
    (held : limit < 2 ^ width) (all : digits.all Char.isDigit = true)
    (short : digits.length ≤ left) (room : sum.toNat + 10 ^ left ≤ limit) :
    ∃ total, addDigits? left sum digits = some total ∧
      total.toNat = sum.toNat + value digits * 10 ^ (left - digits.length) := by
  -- the invariant is the room for one more at the last place that was filled
  induction digits generalizing left sum with
  | nil => exact ⟨sum, by rw [addDigits?], by rw [value_nil, Nat.zero_mul, Nat.add_zero]⟩
  | cons digit rest inductionHypothesis =>
    cases left with
    | zero => cases short
    | succ left =>
      obtain ⟨isDigit, others⟩ := Bool.and_eq_true_iff.mp (List.all_cons.symm.trans all)
      have within : rest.length ≤ left := Nat.le_of_succ_le_succ short
      obtain ⟨next, added, nextIs, remaining⟩ := addDigit?_of_room held isDigit room
      obtain ⟨total, run, totalIs⟩ := inductionHypothesis others within remaining
      refine ⟨total, by rw [addDigits?, added, Option.bind_some, run], ?_⟩
      rw [totalIs, nextIs, value_cons, List.length_cons, Nat.add_sub_add_right, Nat.add_mul,
        Nat.mul_assoc, ← Nat.pow_add, Nat.add_sub_cancel' within, Nat.add_assoc]

/-! ### Units -/

/-- The units of the last place in a numeral with these digits before and after the point, with
`some none` for a numeral that is refused. The digits before the point, their units and the sum are
checked; nothing at all comes of a numeral if another step leaves the words. -/
def unitsInWords? (width places : Nat) (whole fraction : List Char) :
    Option (Option (BitVec width)) :=
  match word? width (value whole) with
  | none => some none
  | some count => do
    let rest ← addDigits? places (BitVec.ofNat width 0) fraction
    let scale ← word? width (10 ^ places)
    some ((word? width (count.toNat * scale.toNat)).bind fun units =>
      word? width (units.toNat + rest.toNat))

theorem unitsInWords?_eq {places : Nat} {whole fraction : List Char}
    (held : 10 ^ places < 2 ^ width) (all : fraction.all Char.isDigit = true)
    (short : fraction.length ≤ places) :
    unitsInWords? width places whole fraction =
      some (word? width (units places whole fraction)) := by
  have room : (BitVec.ofNat width 0).toNat + 10 ^ places ≤ 10 ^ places := by
    rw [BitVec.toNat_zero, Nat.zero_add]
  obtain ⟨rest, added, restIs⟩ := addDigits?_of_room held all short room
  obtain ⟨scale, scaleHeld, scaleIs⟩ := exists_word? held
  have sum : units places whole fraction = value whole * scale.toNat + rest.toNat := by
    rw [restIs, scaleIs, BitVec.toNat_zero, Nat.zero_add, units]
  rw [unitsInWords?, sum]
  cases read : word? width (value whole) with
  | none =>
    -- there are no fewer units than whole ones, so the units leave the words as well
    have beyond : 2 ^ width ≤ value whole * scale.toNat :=
      Nat.le_trans (word?_eq_none_iff.mp read)
        (Nat.le_mul_of_pos_right _ (scaleIs ▸ Nat.pow_pos (by decide)))
    exact congrArg some (word?_eq_none_iff.mpr (Nat.le_add_right_of_le beyond)).symm
  | some count =>
    rw [← word?_eq_some_iff.mp read, ← word?_bind_add]
    simp only [added, scaleHeld, Option.bind_eq_bind, Option.bind_some]

end SuperblockGovernance.Decimal
