/-
The fingerprint that identifies a contract across the network: the MD5 digest of its
address text, amount text and phase text written one after the other, in the low half
of a hash. A contract without any of the three has the zero fingerprint.
-/

import SuperblockGovernance.Digest.Md5
import SuperblockGovernance.Hash256
import SuperblockGovernance.Amount
import SuperblockGovernance.PayoutAddress
import SuperblockGovernance.Text.Search

namespace SuperblockGovernance

/-- The hash that stands for a contract. -/
structure Fingerprint where
  hash : Hash256
  deriving DecidableEq, Inhabited

namespace Fingerprint

instance : Ord Fingerprint :=
  ⟨compareOn hash⟩

instance : Std.TransOrd Fingerprint :=
  inferInstanceAs (Std.TransCmp (compareOn hash))

instance : Std.LawfulEqOrd Fingerprint where
  compare_self {value} := @Std.ReflCmp.compare_self _ (compareOn hash) _ value
  eq_of_compare {first second} same := by
    cases first
    cases second
    exact congrArg mk (@Std.LawfulEqCmp.eq_of_compare _ compare _ _ _ same)

/-- The fingerprint of a contract without payouts and phase. -/
def zero : Fingerprint :=
  ⟨0⟩

/-- The digits of the hash, without a mark before them. -/
def toHex (fingerprint : Fingerprint) : String :=
  fingerprint.hash.toHex

/-- The fingerprint of three texts as they were received. -/
def ofTexts (addresses amounts phase : String) : Fingerprint :=
  if addresses.isEmpty && amounts.isEmpty && phase.isEmpty then zero
  else
    let message := Octets.ofText addresses ++ Octets.ofText amounts ++ Octets.ofText phase
    ⟨Hash256.ofOctets (Md5.digest message)⟩

end Fingerprint

/-! ### The texts that are hashed -/

/-- Addresses as a contract lists them. -/
def addressesText (addresses : List PayoutAddress) : String :=
  Text.joined "|" (addresses.map PayoutAddress.text)

/-- Amounts as a contract lists them. -/
def amountsText (amounts : List Amount) : String :=
  Text.joined "|" (amounts.map Amount.text)

/-- The phase as a contract carries it; nothing without one. -/
def phaseText (phase : Option Int8) : String :=
  (phase.map fun value => Decimal.signedText value.toInt).getD ""

/-- The fingerprint of payouts and a phase in their canonical texts. -/
def Fingerprint.ofPayouts (addresses : List PayoutAddress) (amounts : List Amount)
    (phase : Option Int8) : Fingerprint :=
  .ofTexts (addressesText addresses) (amountsText amounts) (phaseText phase)

end SuperblockGovernance
