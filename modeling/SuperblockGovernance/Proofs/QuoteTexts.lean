/-
Market data texts. A price reads back from its numeral with a point at a fixed place, and no
numeral holds a bracket. So the four sections of market data can be read in one way only: as the
market data they were written for.
-/

import SuperblockGovernance.Contract.Quote
import SuperblockGovernance.Proofs.PayoutTexts
import SuperblockGovernance.Proofs.SectionTexts

namespace SuperblockGovernance

/-! ### Prices -/

namespace FixedPoint

theorem unitsOfText?_pointed {places : Nat} (positive : 0 < places) (number : Nat) :
    unitsOfText? places (Decimal.pointed places number) = some number := by
  have length := Decimal.length_padLeft positive number
  rw [unitsOfText?, Decimal.pointed, Decimal.cutAtPoint_append (Decimal.isNumeral_digits _)]
  refine (if_pos ⟨Decimal.isNumeral_digits _, (Decimal.isNumeral_padLeft _ _).2,
    Nat.le_of_eq length⟩).trans ?_
  rw [Option.getD_some, Decimal.units_pointed positive (Nat.le_refl places), Nat.sub_self,
    Nat.pow_zero, Nat.mul_one]

/-- A price that 128 bits can hold reads back as itself. -/
theorem ofText?_text {places : Nat} (positive : 0 < places) {number : Nat}
    (fits : number < 2 ^ 128) : ofText? places (text places number) =
      some (BitVec.ofNat 128 number) := by
  rw [ofText?, text, String.toList_ofList, unitsOfText?_pointed positive, Option.bind_eq_bind,
    Option.bind_some, if_pos fits]

end FixedPoint

/-! ### Market data -/

namespace Quote

variable (quote : Quote)

/-- The sections of market data. -/
def sections : List (String × String) :=
  [("QTPHASE", quote.phaseText), ("BBPPRICE", quote.bbpPriceText), ("PRICE", quote.priceText),
    ("BTCPRICE", quote.btcPriceText)]

/-- The tags of market data, in the order in which they are written. -/
def tags : List String := ["QTPHASE", "BBPPRICE", "PRICE", "BTCPRICE"]

theorem toText_eq : quote.toText = Section.written quote.sections := by
  simp [toText, sections, Section.written, String.append_assoc]

/-- The sections of market data when a numeral stands for the phase. -/
def sectionsAs (numeral : String) : List (String × String) :=
  [("QTPHASE", numeral), ("BBPPRICE", quote.bbpPriceText), ("PRICE", quote.priceText),
    ("BTCPRICE", quote.btcPriceText)]

theorem isPlain_sectionsAs {numeral : String} (plain : '<' ∉ numeral.toList) :
    Section.IsPlain (quote.sectionsAs numeral) where
  tags := by
    show ∀ tag ∈ tags, Section.IsTag tag
    decide
  bodies body member := by
    have pointed : ∀ places number, '<' ∉ (FixedPoint.text places number).toList := by
      intro places number
      rw [FixedPoint.text, String.toList_ofList]
      exact Decimal.notMem_pointed (by decide) (by decide) places number
    change body ∈ [_, _, _, _] at member
    simp only [List.mem_cons, List.not_mem_nil, or_false] at member
    rcases member with rfl | rfl | rfl | rfl
    · exact plain
    · exact pointed _ _
    · exact pointed _ _
    · exact pointed _ _

theorem isPlain_sections : Section.IsPlain quote.sections :=
  quote.isPlain_sectionsAs (Decimal.bracket_notMem_signedText _)

theorem free_toText {tag : String} (isTag : Section.IsTag tag) (absent : tag ∉ tags) :
    Section.Free tag quote.toText.toList := by
  rw [toText_eq]
  exact quote.isPlain_sections.free isTag absent

/-- Every section is found under its own tag, though one tag is the end of others. -/
theorem body?_toText {tag : String} (isTag : Section.IsTag tag) :
    Section.body? tag quote.toText = quote.sections.lookup tag := by
  rw [toText_eq, quote.isPlain_sections.body?_eq_lookup isTag]

theorem readFixed_text {places : Nat} (positive : 0 < places) {number : Nat}
    (fits : number < 2 ^ 128) :
    readFixed places (FixedPoint.text places number) = .ok (BitVec.ofNat 128 number) := by
  rw [readFixed, FixedPoint.ofText?_text positive fits]

/-- Market data is read from its sections, whatever numeral means the phase. -/
theorem ofText_sectionsAs {numeral : String} (plain : '<' ∉ numeral.toList)
    (means : Decimal.small? numeral.toList = some quote.phase) :
    ofText (Section.written (quote.sectionsAs numeral)) = .ok quote := by
  have field : ∀ {tag body : String}, Section.IsTag tag →
      (quote.sectionsAs numeral).lookup tag = some body →
        Quote.field tag (Section.written (quote.sectionsAs numeral)) = .ok body := by
    intro tag body isTag held
    rw [Quote.field, (quote.isPlain_sectionsAs plain).body?_eq_lookup isTag, held]
  have cents : quote.btcPriceCents.toNat < 2 ^ 128 :=
    Nat.lt_trans quote.btcPriceCents.toNat_lt (by decide)
  have phase : readPhase numeral "bad QTPHASE" = .ok quote.phase := by
    rw [readPhase, means]
  refine bind_eq_ok_iff.mpr ⟨_, field (by decide) rfl, ?_⟩
  refine bind_eq_ok_iff.mpr ⟨_, phase, ?_⟩
  refine bind_eq_ok_iff.mpr ⟨_, field (by decide) rfl, ?_⟩
  refine bind_eq_ok_iff.mpr ⟨_, readFixed_text (by decide) cents, ?_⟩
  refine bind_eq_ok_iff.mpr ⟨_, field (by decide) rfl, ?_⟩
  refine bind_eq_ok_iff.mpr ⟨_, readFixed_text (by decide) quote.bbpPrice.isLt, ?_⟩
  refine bind_eq_ok_iff.mpr ⟨_, field (by decide) rfl, ?_⟩
  refine bind_eq_ok_iff.mpr ⟨_, readFixed_text (by decide) quote.price.isLt, ?_⟩
  have wide : (BitVec.ofNat 128 quote.btcPriceCents.toNat).toNat = quote.btcPriceCents.toNat :=
    Nat.mod_eq_of_lt cents
  rw [wide, if_pos quote.btcPriceCents.toNat_lt, UInt64.ofNat_toNat, BitVec.ofNat_toNat,
    BitVec.ofNat_toNat, BitVec.setWidth_eq, BitVec.setWidth_eq]
  rfl

/-- Market data reads back as itself. -/
theorem ofText_toText : ofText quote.toText = .ok quote := by
  rw [toText_eq]
  exact quote.ofText_sectionsAs (Decimal.bracket_notMem_signedText _)
    (Decimal.small?_signedText quote.phase)

end Quote

end SuperblockGovernance
