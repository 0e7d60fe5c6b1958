/-
What a fingerprint says about the texts it is made from. It digests the address text, the
amount text and the phase text written one after the other, so it depends on that one text
alone. On texts that MD5 tells apart, fingerprints are equal only when these texts are; where
the three parts meet is not told.
-/

import Mathlib.Data.Set.Defs
import SuperblockGovernance.Contract
import SuperblockGovernance.Trigger.Object

namespace SuperblockGovernance

/-! ### Digests as hashes -/

theorem Md5.length_digest (message : Octets) : (Md5.digest message).length = 16 := by
  simp [digest, Octets.length_littleEndian]

/-- Octet strings of one length, of at most thirty-two octets, have different hashes. -/
theorem Hash256.ofOctets_inj {first second : Octets} (alike : first.length = second.length)
    (short : first.length ≤ 32) (same : ofOctets first = ofOctets second) : first = second := by
  have bound : ∀ octets : Octets, octets.length ≤ 32 → Octets.ofBigEndian octets < 2 ^ 256 := by
    intro octets within
    have below := Octets.ofLittleEndian_lt octets.reverse
    rw [List.length_reverse] at below
    exact Nat.lt_of_lt_of_le below (Nat.pow_le_pow_right (by decide) within)
  have numbers := congrArg BitVec.toNat same
  rw [ofOctets, ofOctets, BitVec.toNat_ofNat, BitVec.toNat_ofNat,
    Nat.mod_eq_of_lt (bound first short),
    Nat.mod_eq_of_lt (bound second (alike ▸ short))] at numbers
  have reversed : first.reverse = second.reverse := by
    rw [← Octets.littleEndian_ofLittleEndian first.reverse,
      ← Octets.littleEndian_ofLittleEndian second.reverse, List.length_reverse, List.length_reverse,
      alike]
    exact congrArg _ numbers
  exact List.reverse_inj.mp reversed

/-! ### The hashed text -/

/-- On these texts MD5 is as good as a name: it tells them apart, and none of them has the digest
of zeros that stands for no text at all. -/
structure Md5.Names (texts : Set String) : Prop where
  distinct : ∀ first ∈ texts, ∀ second ∈ texts,
    Md5.digest (Octets.ofText first) = Md5.digest (Octets.ofText second) → first = second
  nonzero : ∀ text ∈ texts, Md5.digest (Octets.ofText text) ≠ List.replicate 16 0

/-- One text alone is told apart. -/
theorem Md5.Names.of_forall_eq {texts : Set String} {text : String}
    (alone : ∀ other ∈ texts, other = text)
    (nonzero : Md5.digest (Octets.ofText text) ≠ List.replicate 16 0) : Md5.Names texts where
  distinct first one second other _ := (alone first one).trans (alone second other).symm
  nonzero other member := alone other member ▸ nonzero

/-- The text that the fingerprint of an object is made from. -/
def TriggerObject.hashedText (object : TriggerObject) : String :=
  object.addresses ++ object.amounts ++ object.phase

/-- The text that the fingerprint of a contract is made from. -/
def Contract.hashedText (contract : Contract) : String :=
  contract.allocation.addressesText ++ contract.allocation.amountsText ++
    contract.allocation.phaseText

namespace Fingerprint

/-- The fingerprint of the texts written one after the other. -/
theorem ofTexts_eq (addresses amounts phase : String) :
    ofTexts addresses amounts phase =
      if addresses ++ amounts ++ phase = "" then zero
      else ⟨Hash256.ofOctets (Md5.digest (Octets.ofText (addresses ++ amounts ++ phase)))⟩ := by
  rw [ofTexts, Octets.ofText_append, Octets.ofText_append]
  simp only [Bool.and_eq_true, String.isEmpty_iff, String.append_eq_empty_iff]

/-- On texts that MD5 names, fingerprints are equal only when the texts are. -/
theorem text_eq_of_eq {texts : Set String} (names : Md5.Names texts)
    {addresses amounts phase otherAddresses otherAmounts otherPhase : String}
    (one : addresses ++ amounts ++ phase ∈ texts)
    (other : otherAddresses ++ otherAmounts ++ otherPhase ∈ texts)
    (same : ofTexts addresses amounts phase = ofTexts otherAddresses otherAmounts otherPhase) :
    addresses ++ amounts ++ phase = otherAddresses ++ otherAmounts ++ otherPhase := by
  have zeros : ∀ text ∈ texts, zero ≠ ⟨Hash256.ofOctets (Md5.digest (Octets.ofText text))⟩ := by
    intro text member equal
    refine names.nonzero text member (Hash256.ofOctets_inj ?_ ?_ ?_)
    · rw [Md5.length_digest, List.length_replicate]
    · rw [Md5.length_digest]
      decide
    · exact (congrArg hash equal).symm
  rw [ofTexts_eq, ofTexts_eq] at same
  split at same
  · rename_i empty
    split at same
    · rename_i otherEmpty
      rw [empty, otherEmpty]
    · exact absurd same (zeros _ other)
  · split at same
    · exact absurd same.symm (zeros _ one)
    · refine names.distinct _ one _ other (Hash256.ofOctets_inj ?_ ?_ (congrArg hash same))
      · rw [Md5.length_digest, Md5.length_digest]
      · rw [Md5.length_digest]
        decide

end Fingerprint

end SuperblockGovernance
