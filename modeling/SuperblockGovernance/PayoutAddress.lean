/-
Payout addresses as they stand in a contract. Only the characters are checked here:
letters and digits, which keeps the separators of contract text out of an address.
Addresses are ordered as texts, and that order fixes the order of every payout list.
-/

import SuperblockGovernance.Octets

namespace SuperblockGovernance

/-- The most characters in a payout address. -/
def PayoutAddress.maxLength : Nat := 128

/-- One to 128 letters and digits. -/
def PayoutAddress.IsText (text : String) : Prop :=
  text ≠ "" ∧ text.utf8ByteSize ≤ PayoutAddress.maxLength ∧ text.toList.all Char.isAlphanum = true

instance (text : String) : Decidable (PayoutAddress.IsText text) :=
  inferInstanceAs (Decidable (_ ∧ _ ∧ _))

/-- Where a payout goes. -/
structure PayoutAddress where
  text : String
  isText : PayoutAddress.IsText text
  deriving DecidableEq

namespace PayoutAddress

/-- The address with this text, if it is the text of one. -/
def ofText? (text : String) : Option PayoutAddress :=
  if isText : IsText text then some ⟨text, isText⟩ else none

instance : Ord PayoutAddress :=
  ⟨compareOn text⟩

instance : Std.TransOrd PayoutAddress :=
  inferInstanceAs (Std.TransCmp (compareOn text))

instance : Std.LawfulEqOrd PayoutAddress where
  compare_self {value} := @Std.ReflCmp.compare_self _ (compareOn text) _ value
  eq_of_compare {first second} same := by
    obtain ⟨firstText, firstIs⟩ := first
    obtain ⟨secondText, secondIs⟩ := second
    have equal : firstText = secondText :=
      @Std.LawfulEqCmp.eq_of_compare _ compare _ _ _ same
    subst equal
    rfl

theorem ofText?_text (address : PayoutAddress) : ofText? address.text = some address := by
  rw [ofText?, dif_pos address.isText]

end PayoutAddress

end SuperblockGovernance
