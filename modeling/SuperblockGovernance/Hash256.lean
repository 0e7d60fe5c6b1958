/-
Hashes of 256 bits, and the names that are such hashes: governance objects,
sanctuaries, blocks and transactions. Hashes are ordered as numbers, which is the
order of their octets read from the left, so the order of names breaks ties alike
on every node.
-/

import SuperblockGovernance.Octets.Hexadecimal

namespace SuperblockGovernance

/-- A hash, as the number whose big-endian octets it is. -/
abbrev Hash256 := BitVec 256

namespace Hash256

/-- The octets of a hash, the highest first. -/
def toOctets (hash : Hash256) : Octets :=
  Octets.bigEndian 32 hash.toNat

/-- The hash with these low octets. -/
def ofOctets (octets : Octets) : Hash256 :=
  BitVec.ofNat 256 (Octets.ofBigEndian octets)

/-- Sixty-four small hexadecimal digits. -/
def toHex (hash : Hash256) : String :=
  Hexadecimal.encode (toOctets hash)

/-- The digits after the mark `0x`. -/
def toMarkedHex (hash : Hash256) : String :=
  "0x" ++ toHex hash

/-- The number in the last eight octets. -/
def lowWord (hash : Hash256) : Nat :=
  hash.toNat % 2 ^ 64

theorem ofOctets_toOctets (hash : Hash256) : ofOctets (toOctets hash) = hash := by
  have bound : hash.toNat % 256 ^ 32 = hash.toNat := Nat.mod_eq_of_lt hash.isLt
  rw [ofOctets, toOctets, Octets.ofBigEndian_bigEndian, bound]
  exact BitVec.ofNat_toNat _ hash |>.trans (BitVec.setWidth_eq hash)

theorem toOctets_ofOctets {octets : Octets} (size : octets.length = 32) :
    toOctets (ofOctets octets) = octets := by
  have bound : Octets.ofBigEndian octets < 2 ^ 256 := by
    have general := Octets.ofLittleEndian_lt octets.reverse
    rw [List.length_reverse, size] at general
    exact general
  rw [toOctets, ofOctets, BitVec.toNat_ofNat, Nat.mod_eq_of_lt bound, Octets.bigEndian,
    Octets.ofBigEndian]
  have whole := Octets.littleEndian_ofLittleEndian octets.reverse
  rw [List.length_reverse, size] at whole
  rw [whole, List.reverse_reverse]

end Hash256

/-- The name of a governance object, given out by the relay. -/
abbrev ObjectId := Hash256

/-- The registration of a sanctuary. -/
structure Identity where
  hash : Hash256
  deriving DecidableEq, Inhabited

namespace Identity

instance : Ord Identity :=
  ⟨compareOn hash⟩

instance : Std.TransOrd Identity :=
  inferInstanceAs (Std.TransCmp (compareOn hash))

instance : Std.LawfulEqOrd Identity where
  compare_self {value} := @Std.ReflCmp.compare_self _ (compareOn hash) _ value
  eq_of_compare {first second} same := by
    cases first
    cases second
    exact congrArg mk (@Std.LawfulEqCmp.eq_of_compare _ compare _ _ _ same)

/-- The digits of the hash with their mark. -/
def text (identity : Identity) : String :=
  identity.hash.toMarkedHex

end Identity

end SuperblockGovernance
