/-
The privilege to create the trigger for a height. A draw seeded by the chain grants it
to a share of the sanctuaries, so that all nodes agree on the holders. When half a cycle
has passed without any object for the height, everyone holds it.
-/

import SuperblockGovernance.Digest.Blake3
import SuperblockGovernance.Hash256
import SuperblockGovernance.Amount

namespace SuperblockGovernance

/-- What decides over the privilege for a height. -/
structure PrivilegeTerms where
  target : Height
  /-- The hash of the block at which the allocation is assessed. -/
  seed : Hash256
  blocksUntilTarget : Height
  cycleLength : Height
  objectsExist : Bool
  sharePercent : UInt64
  alwaysPrivileged : Bool
  deriving DecidableEq

namespace CreationPrivilege

/-- Keeps the draw apart from other uses of the digest. -/
def domain : Octets :=
  Octets.ofText "gsc-privilege"

/-- The draw of a sanctuary: 64 bits of a digest over the target, the seed and its name. -/
def draw (target : Height) (seed : Hash256) (identity : Identity) : Nat :=
  let message := domain ++ Octets.littleEndian 4 target.toNat ++ seed.toOctets ++
    identity.hash.toOctets
  Octets.ofLittleEndian ((Blake3.digest message).take 8)

/-- The draw falls into the share, which is rounded down to whole hundredths of the range. -/
def isDrawn (target : Height) (seed : Hash256) (identity : Identity) (sharePercent : UInt64) :
    Bool :=
  100 ≤ sharePercent || draw target seed identity < (2 ^ 64 - 1) / 100 * sharePercent.toNat

end CreationPrivilege

/-- The sanctuary may create the trigger. -/
def PrivilegeTerms.grants (terms : PrivilegeTerms) (identity : Identity) : Bool :=
  terms.alwaysPrivileged ||
    (!terms.objectsExist && terms.blocksUntilTarget ≤ terms.cycleLength / 2) ||
    CreationPrivilege.isDrawn terms.target terms.seed identity terms.sharePercent

end SuperblockGovernance
