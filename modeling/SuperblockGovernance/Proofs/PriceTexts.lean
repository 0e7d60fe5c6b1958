/-
Price texts. With one to 38 places, every price reads back from what is written for it, and a text
reads as a price exactly when it is a numeral for it with no more digits after the point than there
are places. Numbers of any size stand for the steps in between. Taken one after the other in words
of 128 bits, the steps come to the same: a text is refused where a word does not hold the digits
before the point, their units or the sum, and no other step leaves the words.
-/

import SuperblockGovernance.Proofs.DecimalWords
import SuperblockGovernance.Proofs.QuoteTexts

namespace SuperblockGovernance

namespace FixedPoint

variable {places : Nat}

/-! ### What a text reads as -/

theorem unitsOfText?_eq_some_iff {text : List Char} {number : Nat} :
    unitsOfText? places text = some number ↔
      ∃ value, Decimal.Denotes 0 places text value ∧ value * (10 ^ places : Nat) = number := by
  rw [unitsOfText?]
  cases cut : Decimal.cutAtPoint text with
  | mk whole fraction? =>
    cases fraction? with
    | none =>
      rw [Decimal.exists_denotes_iff_of_whole cut]
      simp
    | some fraction =>
      rw [Decimal.exists_denotes_iff_of_pointed (Nat.le_refl _) cut]
      simp

theorem ofText?_eq (text : String) :
    ofText? places text = (unitsOfText? places text.toList).bind (Decimal.word? 128) :=
  rfl

theorem ofText?_eq_some_iff {text : String} {price : Price} :
    ofText? places text = some price ↔
      ∃ value, Decimal.Denotes 0 places text.toList value ∧
        value * (10 ^ places : Nat) = price.toNat := by
  rw [← unitsOfText?_eq_some_iff, ofText?_eq, Option.bind_eq_some_iff]
  constructor
  · rintro ⟨units, read, held⟩
    rw [Decimal.word?_eq_some_iff.mp held]
    exact read
  · intro read
    exact ⟨_, read, Decimal.word?_eq_some_iff.mpr rfl⟩

theorem ten_pow_lt (fits : places ≤ 38) : 10 ^ places < 2 ^ 128 :=
  Nat.lt_of_le_of_lt (Nat.pow_le_pow_right (by decide) fits) (by decide)

/-! ### Step by step in words of 128 bits -/

/-- The text of a price, divided by a power of ten in a word. -/
def textInWords? (places : Nat) (price : Price) : Option String := do
  let scale ← Decimal.word? 128 (10 ^ places)
  some (String.ofList (Decimal.digits (price / scale).toNat ++
    '.' :: Decimal.padLeft places (Decimal.digits (price % scale).toNat)))

/-- What a text reads as, with `some none` for a text that is refused. Nothing at all comes of a
text if a step that is not checked leaves the words. -/
def ofTextInWords? (places : Nat) (text : String) : Option (Option Price) :=
  let (whole, fraction?) := Decimal.cutAtPoint text.toList
  let fraction := fraction?.getD []
  if Decimal.IsNumeral whole ∧ fraction.all Char.isDigit = true ∧ fraction.length ≤ places then
    Decimal.unitsInWords? 128 places whole fraction
  else some none

theorem textInWords?_eq (fits : places ≤ 38) (price : Price) :
    textInWords? places price = some (text places price.toNat) := by
  obtain ⟨scale, held, scaleIs⟩ := Decimal.exists_word? (ten_pow_lt fits)
  rw [textInWords?, held, Option.bind_eq_bind, Option.bind_some, BitVec.toNat_udiv,
    BitVec.toNat_umod, scaleIs]
  rfl

/-- The next power of ten does not go into a word. -/
example : textInWords? 39 0#128 = none := by
  decide

theorem ofTextInWords?_eq (fits : places ≤ 38) (text : String) :
    ofTextInWords? places text = some (ofText? places text) := by
  rw [ofTextInWords?, ofText?_eq, unitsOfText?]
  cases Decimal.cutAtPoint text.toList with
  | mk whole fraction? =>
    simp only
    generalize fraction?.getD [] = fraction
    split
    · rename_i accepted
      obtain ⟨_, all, short⟩ := accepted
      rw [Decimal.unitsInWords?_eq (ten_pow_lt fits) all short, Option.bind_some]
    · rfl

end FixedPoint

/-! ### Texts and prices -/

/-- With one to 38 places, what is written for a price reads as that price, and a text reads as a
price exactly when it is a numeral for that many units of the last place with at most as many digits
after the point. Step by step in words of 128 bits both come to the same, so no step leaves the
words but those that are checked. Market data reads back as itself. -/
theorem price_texts_are_exact {places : Nat} (filled : 1 ≤ places) (fits : places ≤ 38) :
    (∀ price : Price,
      Quote.readFixed places (FixedPoint.text places price.toNat) = .ok price) ∧
    (∀ text price, Quote.readFixed places text = .ok price ↔
      ∃ value, Decimal.Denotes 0 places text.toList value ∧
        value * (10 ^ places : Nat) = price.toNat) ∧
    (∀ price, FixedPoint.textInWords? places price = some (FixedPoint.text places price.toNat)) ∧
    (∀ text, FixedPoint.ofTextInWords? places text = some (FixedPoint.ofText? places text)) ∧
    ∀ quote : Quote, Quote.ofText quote.toText = .ok quote := by
  refine ⟨fun price => ?_, fun text price => ?_, FixedPoint.textInWords?_eq fits,
    FixedPoint.ofTextInWords?_eq fits, Quote.ofText_toText⟩
  · rw [Quote.readFixed_text filled price.isLt, BitVec.ofNat_toNat, BitVec.setWidth_eq]
  · rw [← FixedPoint.ofText?_eq_some_iff, Quote.readFixed]
    cases FixedPoint.ofText? places text <;> simp

theorem greatest_price_text_is_exact :
    1 ≤ 38 ∧ 38 ≤ 38 ∧
      Quote.readFixed 38 "3.40282366920938463463374607431768211455" = .ok (BitVec.allOnes 128) ∧
      FixedPoint.ofTextInWords? 38 "3.40282366920938463463374607431768211456" = some none := by
  obtain ⟨reads, -, -, steps, -⟩ := price_texts_are_exact (show 1 ≤ 38 by decide) (Nat.le_refl 38)
  refine ⟨by decide, Nat.le_refl 38, ?_, ?_⟩
  · have written : FixedPoint.text 38 (BitVec.allOnes 128).toNat =
      "3.40282366920938463463374607431768211455" := by decide +kernel
    rw [← written]
    exact reads _
  · rw [steps]
    decide +kernel

end SuperblockGovernance
