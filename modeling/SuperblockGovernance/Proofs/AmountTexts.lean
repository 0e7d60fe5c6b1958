/-
Amount texts. A text reads as an amount exactly when it is a numeral for it in coins, with one to
eight digits after the point if there is a point, and 64 bits hold the amount. What is written for
an amount reads as the nearest whole number of cents, halves up; just below the greatest amount
that number no longer fits, and the text cannot be read. So the canonical texts are those that are
written for amounts of whole cents. Taken one after the other in words of 64 bits, the steps of
writing and reading come to the same.
-/

import SuperblockGovernance.Proofs.DecimalWords
import SuperblockGovernance.Proofs.PayoutTexts

namespace SuperblockGovernance.Amount

/-! ### What a text reads as -/

theorem unitsOfText?_eq_some_iff {text : List Char} {number : Nat} :
    unitsOfText? text = some number ↔
      ∃ value, Decimal.Denotes 1 decimals text value ∧ value * (10 ^ decimals : Nat) = number := by
  rw [unitsOfText?]
  cases cut : Decimal.cutAtPoint text with
  | mk whole fraction? =>
    cases fraction? with
    | none =>
      rw [Decimal.exists_denotes_iff_of_whole cut]
      simp
    | some fraction =>
      rw [Decimal.exists_denotes_iff_of_pointed (Nat.le_refl _) cut, Nat.one_le_iff_ne_zero, Ne,
        List.length_eq_zero_iff]
      simp [Decimal.IsNumeral, and_assoc, and_left_comm]

theorem ofText?_eq_some_iff {text : String} {amount : Amount} :
    ofText? text = some amount ↔
      ∃ value, Decimal.Denotes 1 decimals text.toList value ∧ value * coin = amount.toNat := by
  rw [show coin = 10 ^ decimals from rfl, ← unitsOfText?_eq_some_iff, ofText?,
    Option.bind_eq_bind, Option.bind_eq_some_iff]
  constructor
  · rintro ⟨units, read, held⟩
    split at held
    · rename_i fits
      cases held
      rw [UInt64.toNat_ofNat_of_lt' fits]
      exact read
    · cases held
  · intro read
    exact ⟨_, read, by rw [if_pos amount.toNat_lt, UInt64.ofNat_toNat]⟩

/-! ### The nearest cents -/

/-- The amount in whole cents that is nearest to an amount; of two that are as near, the greater
one. -/
structure RoundsTo (amount : Amount) (multiple : Nat) : Prop where
  whole : cent ∣ multiple
  nearest : ∀ other, cent ∣ other →
    ((amount.toNat : Int) - multiple).natAbs ≤ ((amount.toNat : Int) - other).natAbs
  upward : ∀ other, cent ∣ other →
    ((amount.toNat : Int) - multiple).natAbs = ((amount.toNat : Int) - other).natAbs →
      other ≤ multiple

theorem roundsTo_rounded (amount : Amount) : amount.RoundsTo amount.rounded := by
  have low : 2 * amount.rounded ≤ 2 * amount.toNat + cent := amount.rounded_near.1
  have high : 2 * amount.toNat < 2 * amount.rounded + cent := by
    simp only [rounded, nearestCents, cent]
    omega
  refine ⟨Nat.dvd_mul_left _ _, ?_, ?_⟩
  · rintro other ⟨cents, rfl⟩
    simp only [rounded, cent] at *
    omega
  · rintro other ⟨cents, rfl⟩ same
    simp only [rounded, cent] at *
    omega

theorem roundsTo_iff {amount : Amount} {multiple : Nat} :
    amount.RoundsTo multiple ↔ multiple = amount.rounded := by
  constructor
  · intro rounds
    have other := amount.roundsTo_rounded
    have same := Nat.le_antisymm (rounds.nearest _ other.whole) (other.nearest _ rounds.whole)
    exact Nat.le_antisymm (other.upward _ rounds.whole same.symm)
      (rounds.upward _ other.whole same)
  · rintro rfl
    exact amount.roundsTo_rounded

/-! ### Step by step in words of 64 bits -/

/-- The text of whole coins and cents. -/
def pointedText (whole cents : Nat) : String :=
  String.ofList (Decimal.digits whole ++ '.' :: Decimal.padLeft 2 (Decimal.digits cents))

/-- The text of an amount, by its whole coins and the cents nearest to the rest, where a hundred
cents make one coin more. -/
def textInWords? (amount : Amount) : Option String := do
  let raised ← Decimal.word? 64 (amount.toNat % coin + cent / 2)
  if raised.toNat / cent = 100 then
    let whole ← Decimal.word? 64 (amount.toNat / coin + 1)
    some (pointedText whole.toNat 0)
  else some (pointedText (amount.toNat / coin) (raised.toNat / cent))

/-- What a text reads as, with `some none` for a text that is refused. Nothing at all comes of a
text if a step that is not checked leaves the words. -/
def ofTextInWords? (text : String) : Option (Option Amount) :=
  let (whole, fraction?) := Decimal.cutAtPoint text.toList
  let fraction := fraction?.getD []
  if Decimal.IsNumeral whole ∧
      (fraction?.isSome = true → fraction ≠ [] ∧ fraction.length ≤ decimals) ∧
      fraction.all Char.isDigit = true then
    (Decimal.unitsInWords? 64 decimals whole fraction).map fun units =>
      units.map UInt64.ofBitVec
  else some none

theorem text_eq_pointedText {amount : Amount} {whole cents : Nat}
    (same : amount.nearestCents = whole * 100 + cents) (few : cents < 100) :
    amount.text = pointedText whole cents := by
  have coins : (whole * 100 + cents) / 10 ^ 2 = whole := by omega
  have rest : (whole * 100 + cents) % 10 ^ 2 = cents := by omega
  rw [text, same, Decimal.pointed, coins, rest, pointedText]

theorem textInWords?_eq (amount : Amount) : textInWords? amount = some amount.text := by
  have bound := amount.toNat_lt
  have fits : amount.toNat % coin + cent / 2 < 2 ^ 64 := by
    simp only [coin, cent]
    omega
  obtain ⟨raised, held, raisedIs⟩ := Decimal.exists_word? fits
  have parts : amount.nearestCents = amount.toNat / coin * 100 + raised.toNat / cent := by
    simp only [nearestCents, raisedIs, coin, cent]
    omega
  have most : raised.toNat / cent ≤ 100 := by
    simp only [raisedIs, coin, cent]
    omega
  rw [textInWords?, held, Option.bind_eq_bind, Option.bind_some]
  split
  · rename_i carried
    have next : amount.toNat / coin + 1 < 2 ^ 64 := by
      simp only [coin]
      omega
    obtain ⟨whole, wholeHeld, wholeIs⟩ := Decimal.exists_word? next
    have written : amount.text = pointedText (amount.toNat / coin + 1) 0 :=
      text_eq_pointedText (by omega) (by decide)
    rw [wholeHeld, Option.bind_some, wholeIs, written]
  · rename_i uncarried
    rw [text_eq_pointedText parts (by omega)]

theorem ofText?_eq (text : String) :
    ofText? text =
      (unitsOfText? text.toList).bind fun units =>
        (Decimal.word? 64 units).map UInt64.ofBitVec := by
  rw [ofText?, Option.bind_eq_bind]
  congr 1
  funext units
  rw [Decimal.word?]
  split <;> rfl

theorem ofTextInWords?_eq (text : String) : ofTextInWords? text = some (ofText? text) := by
  have held : 10 ^ decimals < 2 ^ 64 := by decide
  rw [ofTextInWords?, ofText?_eq, unitsOfText?]
  cases Decimal.cutAtPoint text.toList with
  | mk whole fraction? =>
    cases fraction? with
    | none =>
      simp only [Option.getD_none]
      by_cases numeral : Decimal.IsNumeral whole
      · rw [if_pos ⟨numeral, fun pointed => absurd pointed Bool.false_ne_true, rfl⟩, if_pos numeral,
          Decimal.unitsInWords?_eq held rfl (Nat.zero_le _), Option.map_some, Option.bind_some]
      · rw [if_neg fun accepted => numeral accepted.1, if_neg numeral, Option.bind_none]
    | some fraction =>
      simp only [Option.getD_some]
      by_cases accepted : Decimal.IsNumeral whole ∧ Decimal.IsNumeral fraction ∧
          fraction.length ≤ decimals
      · obtain ⟨numeral, ⟨filled, all⟩, short⟩ := accepted
        rw [if_pos ⟨numeral, fun _ => ⟨filled, short⟩, all⟩,
          if_pos ⟨numeral, ⟨filled, all⟩, short⟩, Decimal.unitsInWords?_eq held all short,
          Option.map_some, Option.bind_some]
      · rw [if_neg accepted, if_neg fun given =>
          accepted ⟨given.1, ⟨(given.2.1 rfl).1, given.2.2⟩, (given.2.1 rfl).2⟩, Option.bind_none]

/-! ### Texts and amounts -/

theorem isCanonical_eq_true_iff {text : String} :
    isCanonical text = true ↔ ∃ amount : Amount, cent ∣ amount.toNat ∧ text = amount.text := by
  rw [isCanonical_iff]
  constructor
  · rintro ⟨amount, _, whole, written⟩
    exact ⟨amount, Nat.dvd_of_mod_eq_zero whole, written.symm⟩
  · rintro ⟨amount, whole, rfl⟩
    have same := rounded_of_whole (Nat.mod_eq_zero_of_dvd whole)
    refine ⟨amount, ?_, Nat.mod_eq_zero_of_dvd whole, rfl⟩
    rw [ofText?_text_of_lt (same ▸ amount.toNat_lt), same, UInt64.ofNat_toNat]

/-- A text reads as an amount exactly when it is a numeral for that many coins with one to eight
digits after the point if it has a point. What is written for an amount reads as the nearest amount
in whole cents, halves up, or not at all when 64 bits do not hold that. A text is canonical exactly
when it is written for an amount in whole cents. Step by step in words of 64 bits, writing and
reading come to the same. -/
theorem amount_texts_are_exact :
    (∀ text amount, ofText? text = some amount ↔
      ∃ value, Decimal.Denotes 1 8 text.toList value ∧ value * coin = amount.toNat) ∧
    (∀ amount : Amount, ∃ nearest,
      (∀ multiple, amount.RoundsTo multiple ↔ multiple = nearest) ∧
      (ofText? amount.text).map UInt64.toNat = if nearest < 2 ^ 64 then some nearest else none) ∧
    (∀ text, isCanonical text = true ↔
      ∃ amount : Amount, cent ∣ amount.toNat ∧ text = amount.text) ∧
    (∀ amount : Amount, textInWords? amount = some amount.text) ∧
    ∀ text, ofTextInWords? text = some (ofText? text) := by
  refine ⟨fun text amount => ofText?_eq_some_iff, fun amount => ?_,
    fun text => isCanonical_eq_true_iff, textInWords?_eq, ofTextInWords?_eq⟩
  refine ⟨amount.rounded, fun multiple => roundsTo_iff, ?_⟩
  rw [ofText?_text, ← rounded]
  split
  · rename_i fits
    rw [Option.map_some, UInt64.toNat_ofNat_of_lt' fits]
  · rfl

/-- The greatest amount is nearest to a number of cents that 64 bits do not hold. -/
example : ofText? (text 18446744073709551615) = none := by
  decide +kernel

end SuperblockGovernance.Amount
