/-
The heights that carry superblocks: a start, and then every whole number of cycles
after it. For a tip the cadence names the last superblock at or below it and the next
one above it, and a floor height stands in for one that does not exist. Heights are
32-bit numbers, so there may be no next superblock.
-/

import SuperblockGovernance.Config

namespace SuperblockGovernance

/-- Where superblocks stand. -/
structure Cadence where
  startHeight : Height
  cycleLength : Height
  floorHeight : Height
  deriving DecidableEq

/-- The cadence of a network. -/
def Config.cadence (config : Config) : Cadence :=
  ⟨config.startHeight, config.cycleLength, config.floorHeight⟩

namespace Cadence

/-- The height is some whole number of cycles after the start. -/
def IsSuperblock (cadence : Cadence) (height : Height) : Prop :=
  0 < cadence.cycleLength ∧ cadence.startHeight ≤ height ∧
    (height - cadence.startHeight) % cadence.cycleLength = 0

instance (cadence : Cadence) (height : Height) : Decidable (cadence.IsSuperblock height) :=
  inferInstanceAs (Decidable (_ ∧ _ ∧ _))

/-- The number of whole cycles from the start up to a height. -/
def cyclesTo (cadence : Cadence) (height : Height) : Nat :=
  (height.toNat - cadence.startHeight.toNat) / cadence.cycleLength.toNat

/-- The height that many cycles after the start. -/
def heightAt (cadence : Cadence) (cycles : Nat) : Nat :=
  cadence.startHeight.toNat + cycles * cadence.cycleLength.toNat

/-- The greatest superblock height at or below the tip that is not below the floor. -/
def last? (cadence : Cadence) (tip : Height) : Option Height :=
  let found := cadence.heightAt (cadence.cyclesTo tip)
  if cadence.startHeight ≤ tip ∧ cadence.floorHeight.toNat ≤ found then some (UInt32.ofNat found)
  else none

/-- The least superblock height above the tip that 32 bits can hold. -/
def next? (cadence : Cadence) (tip : Height) : Option Height :=
  let found :=
    if tip < cadence.startHeight then cadence.startHeight.toNat
    else cadence.heightAt (cadence.cyclesTo tip + 1)
  if found < 2 ^ 32 then some (UInt32.ofNat found) else none

/-- The superblock heights around a tip, the floor standing in for one that is missing. -/
def around (cadence : Cadence) (tip : Height) : Height × Height :=
  if cadence.cycleLength = 0 then (cadence.floorHeight, cadence.floorHeight)
  else
    ((cadence.last? tip).getD cadence.floorHeight, (cadence.next? tip).getD cadence.floorHeight)

/-- The superblock before a height. The allocation for a height is assessed on the chain as of
this one, so all nodes between two superblocks see the same records. -/
def previous (cadence : Cadence) (height : Height) : Height :=
  if height = 0 then cadence.floorHeight else (cadence.around (height - 1)).1

end Cadence

end SuperblockGovernance
