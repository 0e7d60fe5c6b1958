/-
The superblocks around a tip. A superblock height is the start and some whole number of cycles,
so the last superblock and the next one are found by one division. They are what a search finds
that looks at one height after the other: down from the tip to the start or the floor, and up
from what was found to the greatest height. Both searches come to an end, the lower one at
height zero at the latest. Tips with no superblock between them have the same two neighbours.
-/

import Mathlib.Order.Bounds.Basic
import SuperblockGovernance.Cadence

namespace SuperblockGovernance.Cadence

variable {cadence : Cadence} {tip height later : Height}

/-! ### Whole numbers of cycles -/

theorem isSuperblock_iff :
    cadence.IsSuperblock height ↔
      0 < cadence.cycleLength.toNat ∧ ∃ cycles, height.toNat = cadence.heightAt cycles := by
  rw [IsSuperblock, UInt32.lt_iff_toNat_lt, UInt32.toNat_zero]
  refine and_congr_right fun _ => ?_
  constructor
  · rintro ⟨started, whole⟩
    have below := UInt32.le_iff_toNat_le.mp started
    rw [← UInt32.toNat_inj, UInt32.toNat_mod, UInt32.toNat_sub_of_le _ _ started,
      UInt32.toNat_zero] at whole
    obtain ⟨cycles, apart⟩ := Nat.dvd_of_mod_eq_zero whole
    refine ⟨cycles, ?_⟩
    rw [heightAt, Nat.mul_comm, ← apart]
    omega
  · rintro ⟨cycles, same⟩
    rw [heightAt] at same
    have started : cadence.startHeight ≤ height := by
      rw [UInt32.le_iff_toNat_le]
      omega
    refine ⟨started, ?_⟩
    rw [← UInt32.toNat_inj, UInt32.toNat_mod, UInt32.toNat_sub_of_le _ _ started,
      UInt32.toNat_zero, same, Nat.add_sub_cancel_left]
    exact Nat.mul_mod_left _ _

theorem heightAt_cyclesTo_le (started : cadence.startHeight ≤ tip) :
    cadence.heightAt (cadence.cyclesTo tip) ≤ tip.toNat := by
  have below := UInt32.le_iff_toNat_le.mp started
  have floored := Nat.div_mul_le_self (tip.toNat - cadence.startHeight.toNat)
    cadence.cycleLength.toNat
  rw [heightAt, cyclesTo]
  omega

/-- A superblock is at or below a tip if it takes no more cycles than there are up to the tip. -/
theorem heightAt_le_iff (recurs : 0 < cadence.cycleLength.toNat)
    (started : cadence.startHeight ≤ tip) {cycles : Nat} :
    cadence.heightAt cycles ≤ tip.toNat ↔ cycles ≤ cadence.cyclesTo tip := by
  have below := UInt32.le_iff_toNat_le.mp started
  rw [cyclesTo, Nat.le_div_iff_mul_le recurs, heightAt]
  omega

theorem heightAt_mono {fewer more : Nat} (less : fewer ≤ more) :
    cadence.heightAt fewer ≤ cadence.heightAt more :=
  Nat.add_le_add_left (Nat.mul_le_mul_right _ less) _

/-! ### Neighbours of a tip -/

/-- The least height at which the last superblock may stand. -/
def lowest (cadence : Cadence) : Height :=
  max cadence.startHeight cadence.floorHeight

/-- The superblock heights from the lowest one up to a tip. -/
def behind (cadence : Cadence) (tip : Height) : Set Height :=
  {height | cadence.IsSuperblock height ∧ cadence.lowest ≤ height ∧ height ≤ tip}

/-- The superblock heights above a tip. -/
def ahead (cadence : Cadence) (tip : Height) : Set Height :=
  {height | cadence.IsSuperblock height ∧ tip < height}

/-- The one of some heights that stands out in some way, or none if there are no heights. -/
def IsFound (outstanding : Set Height → Height → Prop) (heights : Set Height) :
    Option Height → Prop
  | some height => outstanding heights height
  | none => heights = ∅

theorem IsFound.unique {outstanding : Set Height → Height → Prop} {heights : Set Height}
    {one other : Option Height} (found : IsFound outstanding heights one)
    (otherFound : IsFound outstanding heights other)
    (inside : ∀ height, outstanding heights height → height ∈ heights)
    (only : ∀ height rival, outstanding heights height → outstanding heights rival →
      height = rival) : one = other := by
  cases one with
  | none =>
    cases other with
    | none => rfl
    | some height => exact absurd (inside height otherFound) (found ▸ Set.notMem_empty height)
  | some height =>
    cases other with
    | none => exact absurd (inside height found) (otherFound ▸ Set.notMem_empty height)
    | some rival => exact congrArg some (only height rival found otherFound)

/-- The greatest of some heights, or none if there are none. -/
def IsLast (heights : Set Height) (height : Option Height) : Prop :=
  IsFound IsGreatest heights height

/-- The least of some heights, or none if there are none. -/
def IsFirst (heights : Set Height) (height : Option Height) : Prop :=
  IsFound IsLeast heights height

theorem IsLast.unique {heights : Set Height} {one other : Option Height}
    (last : IsLast heights one) (otherLast : IsLast heights other) : one = other :=
  IsFound.unique last otherLast (fun _ greatest => greatest.1) fun _ _ greatest rival =>
    UInt32.le_antisymm (rival.2 greatest.1) (greatest.2 rival.1)

theorem IsFirst.unique {heights : Set Height} {one other : Option Height}
    (first : IsFirst heights one) (otherFirst : IsFirst heights other) : one = other :=
  IsFound.unique first otherFirst (fun _ least => least.1) fun _ _ least rival =>
    UInt32.le_antisymm (least.2 rival.1) (rival.2 least.1)

theorem lowest_le_iff :
    cadence.lowest ≤ height ↔ cadence.startHeight ≤ height ∧ cadence.floorHeight ≤ height := by
  have larger : cadence.lowest = if cadence.startHeight ≤ cadence.floorHeight then
      cadence.floorHeight else cadence.startHeight := rfl
  rw [larger]
  split
  · rename_i below
    exact ⟨fun high => ⟨UInt32.le_trans below high, high⟩, And.right⟩
  · rename_i above
    have floored := UInt32.le_of_lt (UInt32.not_le.mp above)
    exact ⟨fun high => ⟨high, UInt32.le_trans floored high⟩, And.left⟩

theorem isLast_last? (recurs : 0 < cadence.cycleLength.toNat) (tip : Height) :
    IsLast (cadence.behind tip) (cadence.last? tip) := by
  have started : ∀ height ∈ cadence.behind tip, cadence.startHeight ≤ tip := fun height member =>
    UInt32.le_trans member.1.2.1 member.2.2
  have near : ∀ height ∈ cadence.behind tip,
      height.toNat ≤ cadence.heightAt (cadence.cyclesTo tip) := by
    intro height member
    obtain ⟨_, cycles, same⟩ := isSuperblock_iff.mp member.1
    have low := UInt32.le_iff_toNat_le.mp member.2.2
    rw [same] at low ⊢
    exact heightAt_mono ((heightAt_le_iff recurs (started height member)).mp low)
  rw [last?]
  split
  · rename_i stands
    have reached := heightAt_cyclesTo_le stands.1
    have written := UInt32.toNat_ofNat_of_lt' (Nat.lt_of_le_of_lt reached tip.toNat_lt)
    have superblock : cadence.IsSuperblock
        (UInt32.ofNat (cadence.heightAt (cadence.cyclesTo tip))) :=
      isSuperblock_iff.mpr ⟨recurs, _, written⟩
    refine ⟨⟨superblock, lowest_le_iff.mpr ⟨superblock.2.1, ?_⟩, ?_⟩, fun height member => ?_⟩
    · rw [UInt32.le_iff_toNat_le, written]
      exact stands.2
    · rw [UInt32.le_iff_toNat_le, written]
      exact reached
    · rw [UInt32.le_iff_toNat_le, written]
      exact near height member
  · rename_i missing
    refine Set.eq_empty_of_forall_notMem fun height member => missing ⟨started height member, ?_⟩
    have floored := UInt32.le_iff_toNat_le.mp (lowest_le_iff.mp member.2.1).2
    exact Nat.le_trans floored (near height member)

theorem isFirst_next? (recurs : 0 < cadence.cycleLength.toNat) (tip : Height) :
    IsFirst (cadence.ahead tip) (cadence.next? tip) := by
  have written : ∃ cycles, tip.toNat < cadence.heightAt cycles ∧
      (if tip < cadence.startHeight then cadence.startHeight.toNat
        else cadence.heightAt (cadence.cyclesTo tip + 1)) = cadence.heightAt cycles ∧
      ∀ height ∈ cadence.ahead tip, cadence.heightAt cycles ≤ height.toNat := by
    by_cases early : tip < cadence.startHeight
    · have start : cadence.startHeight.toNat = cadence.heightAt 0 := by
        rw [heightAt, Nat.zero_mul, Nat.add_zero]
      refine ⟨0, start ▸ UInt32.lt_iff_toNat_lt.mp early, (if_pos early).trans start, ?_⟩
      exact fun height member => start ▸ UInt32.le_iff_toNat_le.mp member.1.2.1
    · have started := UInt32.not_lt.mp early
      refine ⟨cadence.cyclesTo tip + 1, ?_, if_neg early, fun height member => ?_⟩
      · exact Nat.lt_of_not_le fun low =>
          absurd ((heightAt_le_iff recurs started).mp low) (Nat.not_succ_le_self _)
      · obtain ⟨_, cycles, same⟩ := isSuperblock_iff.mp member.1
        have above := UInt32.lt_iff_toNat_lt.mp member.2
        rw [same] at above ⊢
        refine heightAt_mono (Nat.lt_of_not_le fun few => ?_)
        exact Nat.not_le.mpr above ((heightAt_le_iff recurs started).mpr few)
  obtain ⟨cycles, above, found, least⟩ := written
  rw [next?, found]
  split
  · rename_i small
    have number := UInt32.toNat_ofNat_of_lt' small
    refine ⟨⟨isSuperblock_iff.mpr ⟨recurs, cycles, number⟩, ?_⟩, fun height member => ?_⟩
    · rw [UInt32.lt_iff_toNat_lt, number]
      exact above
    · rw [UInt32.le_iff_toNat_le, number]
      exact least height member
  · rename_i large
    refine Set.eq_empty_of_forall_notMem fun height member => large ?_
    exact Nat.lt_of_le_of_lt (least height member) height.toNat_lt

/-- The two heights around a tip, by what stands there. -/
theorem exists_around (cadence : Cadence) (tip : Height) :
    ∃ last next, IsLast (cadence.behind tip) last ∧ IsFirst (cadence.ahead tip) next ∧
      cadence.around tip =
        (last.getD cadence.floorHeight, next.getD cadence.floorHeight) := by
  by_cases never : cadence.cycleLength = 0
  · have stopped : ∀ height, ¬cadence.IsSuperblock height := fun height superblock => by
      have recurs := superblock.1
      rw [never] at recurs
      exact UInt32.lt_irrefl 0 recurs
    refine ⟨none, none, ?_, ?_, if_pos never⟩
    · exact Set.eq_empty_of_forall_notMem fun height member => stopped height member.1
    · exact Set.eq_empty_of_forall_notMem fun height member => stopped height member.1
  · have recurs : 0 < cadence.cycleLength.toNat :=
      Nat.pos_of_ne_zero fun zero => never (UInt32.toNat_inj.mp zero)
    exact ⟨_, _, isLast_last? recurs tip, isFirst_next? recurs tip, if_neg never⟩

theorem around_congr (same : cadence.behind later = cadence.behind tip)
    (sameAhead : cadence.ahead later = cadence.ahead tip) :
    cadence.around later = cadence.around tip := by
  obtain ⟨last, next, isLast, isFirst, found⟩ := cadence.exists_around tip
  obtain ⟨lastThere, nextThere, isLastThere, isFirstThere, foundThere⟩ :=
    cadence.exists_around later
  rw [same] at isLastThere
  rw [sameAhead] at isFirstThere
  rw [found, foundThere, isLast.unique isLastThere, isFirst.unique isFirstThere]

/-! ### Tips between two superblocks -/

theorem toNat_pred (positive : height ≠ 0) : (height - 1).toNat = height.toNat - 1 := by
  refine UInt32.toNat_sub_of_le _ _ (UInt32.le_iff_toNat_le.mpr ?_)
  exact Nat.one_le_iff_ne_zero.mpr fun zero => positive (UInt32.toNat_inj.mp zero)

section

variable {next : Height}

/-- There is no superblock between a tip and what is before the next one. -/
theorem le_of_lt_next (first : IsLeast (cadence.ahead tip) next)
    (superblock : cadence.IsSuperblock height) (early : height < next) : height ≤ tip :=
  UInt32.not_lt.mp fun above => UInt32.not_le.mpr early (first.2 ⟨superblock, above⟩)

theorem around_of_lt_next (first : IsLeast (cadence.ahead tip) next) (since : tip ≤ later)
    (early : later < next) : cadence.around later = cadence.around tip := by
  refine around_congr (Set.ext fun height => ?_) (Set.ext fun height => ?_)
  · constructor
    · rintro ⟨superblock, high, low⟩
      exact ⟨superblock, high, le_of_lt_next first superblock (UInt32.lt_of_le_of_lt low early)⟩
    · rintro ⟨superblock, high, low⟩
      exact ⟨superblock, high, UInt32.le_trans low since⟩
  · constructor
    · rintro ⟨superblock, above⟩
      exact ⟨superblock, UInt32.lt_of_le_of_lt since above⟩
    · rintro ⟨superblock, above⟩
      exact ⟨superblock, UInt32.lt_of_lt_of_le early (first.2 ⟨superblock, above⟩)⟩

theorem previous_of_next (first : IsLeast (cadence.ahead tip) next) :
    cadence.previous next = (cadence.around tip).1 := by
  have above := UInt32.lt_iff_toNat_lt.mp first.1.2
  have positive : next ≠ 0 := fun zero => by
    rw [zero, UInt32.toNat_zero] at above
    exact Nat.not_lt_zero _ above
  rw [previous, if_neg positive, around_of_lt_next first]
  · rw [UInt32.le_iff_toNat_le, toNat_pred positive]
    exact Nat.le_pred_of_lt above
  · rw [UInt32.lt_iff_toNat_lt, toNat_pred positive]
    exact Nat.pred_lt_self (Nat.zero_lt_of_lt above)

end

/-! ### Searching height by height -/

/-- What a search comes to at a height: an answer, or the height to look at next. -/
inductive SearchStep
  | answer (found : Option Height)
  | goOn (next : Height)

/-- A search of at most so many steps; it has no outcome if it is not over by then. -/
def SearchStep.run (look : Height → SearchStep) : Nat → SearchStep → Option (Option Height)
  | _, .answer found => some found
  | 0, .goOn _ => none
  | steps + 1, .goOn next => run look steps (look next)

@[simp] theorem SearchStep.run_answer (look : Height → SearchStep) (steps : Nat)
    (found : Option Height) : SearchStep.run look steps (.answer found) = some found := by
  cases steps <;> rfl

/-- Looks for the last superblock, at a height and then below it. -/
def lookDown (cadence : Cadence) (height : Height) : SearchStep :=
  if height < cadence.lowest then .answer none
  else if cadence.IsSuperblock height then .answer (some height)
  else if height = 0 then .answer none
  else .goOn (height - 1)

/-- Goes on above a height, which may be the greatest that 32 bits can hold. -/
def climb (height : Height) : SearchStep :=
  if height.toNat + 1 < 2 ^ 32 then .goOn (height + 1) else .answer none

/-- Looks for the next superblock, at a height and then above it. -/
def lookUp (cadence : Cadence) (height : Height) : SearchStep :=
  if cadence.IsSuperblock height then .answer (some height) else climb height

/-- The superblock heights around a tip as searches of at most so many steps find them, first down
from the tip, then up from what was found there. -/
def searched (cadence : Cadence) (steps : Nat) (tip : Height) : Option (Height × Height) := do
  let last ← SearchStep.run cadence.lookDown steps (.goOn tip)
  let next ← SearchStep.run cadence.lookUp steps (climb (last.getD tip))
  return (last.getD cadence.floorHeight, next.getD cadence.floorHeight)

theorem run_lookDown (cadence : Cadence) {steps : Nat} (enough : tip.toNat < steps) :
    ∃ last, IsLast (cadence.behind tip) last ∧
      SearchStep.run cadence.lookDown steps (.goOn tip) = some last := by
  induction steps generalizing tip with
  | zero => exact absurd enough (Nat.not_lt_zero _)
  | succ steps inductionHypothesis =>
    rw [SearchStep.run, lookDown]
    split
    · rename_i low
      refine ⟨none, Set.eq_empty_of_forall_notMem fun height member => ?_,
        SearchStep.run_answer _ _ _⟩
      exact UInt32.not_le.mpr low (UInt32.le_trans member.2.1 member.2.2)
    rename_i high
    split
    · rename_i superblock
      have member : tip ∈ cadence.behind tip :=
        ⟨superblock, UInt32.not_lt.mp high, UInt32.le_refl tip⟩
      exact ⟨some tip, ⟨member, fun height within => within.2.2⟩, SearchStep.run_answer _ _ _⟩
    rename_i other
    have differs : ∀ height ∈ cadence.behind tip, height ≠ tip := fun height member same =>
      other (same ▸ member.1)
    split
    · rename_i bottom
      refine ⟨none, Set.eq_empty_of_forall_notMem fun height member =>
        differs height member ?_, SearchStep.run_answer _ _ _⟩
      rw [bottom]
      exact UInt32.le_antisymm (bottom ▸ member.2.2) (UInt32.zero_le)
    · rename_i positive
      have before : (tip - 1).toNat = tip.toNat - 1 := toNat_pred positive
      have ground : tip.toNat ≠ 0 := fun zero => positive (UInt32.toNat_inj.mp zero)
      have same : cadence.behind (tip - 1) = cadence.behind tip := by
        refine Set.ext fun height => and_congr_right fun superblock => and_congr_right fun _ => ?_
        have apart : height.toNat ≠ tip.toNat := fun equal =>
          other (UInt32.toNat_inj.mp equal ▸ superblock)
        rw [UInt32.le_iff_toNat_le, UInt32.le_iff_toNat_le, before]
        omega
      rw [← same]
      exact inductionHypothesis (by rw [before]; omega)

theorem run_climb (cadence : Cadence) {steps : Nat} (enough : 2 ^ 32 ≤ steps + tip.toNat) :
    ∃ next, IsFirst (cadence.ahead tip) next ∧
      SearchStep.run cadence.lookUp steps (climb tip) = some next := by
  induction steps generalizing tip with
  | zero => exact absurd tip.toNat_lt (Nat.not_lt.mpr (Nat.zero_add tip.toNat ▸ enough))
  | succ steps inductionHypothesis =>
    rw [climb]
    split
    · rename_i room
      have after : (tip + 1).toNat = tip.toNat + 1 := by
        rw [UInt32.toNat_add, UInt32.toNat_one, Nat.mod_eq_of_lt room]
      have above : tip < tip + 1 := by
        rw [UInt32.lt_iff_toNat_lt, after]
        exact Nat.lt_succ_self _
      have least : ∀ height, tip < height → tip + 1 ≤ height := fun height higher => by
        rw [UInt32.le_iff_toNat_le, after]
        exact UInt32.lt_iff_toNat_lt.mp higher
      rw [SearchStep.run, lookUp]
      split
      · rename_i superblock
        exact ⟨some (tip + 1), ⟨⟨superblock, above⟩, fun height member => least height member.2⟩,
          SearchStep.run_answer _ _ _⟩
      · rename_i other
        have same : cadence.ahead (tip + 1) = cadence.ahead tip := by
          refine Set.ext fun height => and_congr_right fun superblock => ?_
          have apart : height.toNat ≠ tip.toNat + 1 := fun equal =>
            other (UInt32.toNat_inj.mp (equal.trans after.symm) ▸ superblock)
          rw [UInt32.lt_iff_toNat_lt, UInt32.lt_iff_toNat_lt, after]
          omega
        rw [← same]
        exact inductionHypothesis (by rw [after]; omega)
    · rename_i top
      refine ⟨none, Set.eq_empty_of_forall_notMem fun height member => top ?_,
        SearchStep.run_answer _ _ _⟩
      have higher := UInt32.lt_iff_toNat_lt.mp member.2
      exact Nat.lt_of_le_of_lt higher height.toNat_lt

/-- Whether the upward search begins at the tip or at the last superblock makes no difference. -/
theorem ahead_getD {last : Option Height} (found : IsLast (cadence.behind tip) last) :
    cadence.ahead (last.getD tip) = cadence.ahead tip := by
  cases last with
  | none => rfl
  | some last =>
    refine Set.ext fun height => and_congr_right fun superblock => ?_
    constructor
    · intro above
      refine UInt32.not_le.mp fun low => UInt32.not_le.mpr above (found.2 ⟨superblock, ?_, low⟩)
      exact UInt32.le_trans found.1.2.1 (UInt32.le_of_lt above)
    · exact fun above => UInt32.lt_of_le_of_lt found.1.2.2 above

/-- The searches are over when every height can have been looked at, and find what division
finds. -/
theorem searched_eq {steps : Nat} (enough : 2 ^ 32 ≤ steps) :
    cadence.searched steps tip = some (cadence.around tip) := by
  obtain ⟨last, next, isLast, isFirst, found⟩ := cadence.exists_around tip
  obtain ⟨lastFound, isLastFound, down⟩ := cadence.run_lookDown
    (Nat.lt_of_lt_of_le tip.toNat_lt enough)
  obtain ⟨nextFound, isFirstFound, up⟩ := cadence.run_climb
    (Nat.le_trans enough (Nat.le_add_right steps (last.getD tip).toNat))
  rw [ahead_getD isLast] at isFirstFound
  rw [isLastFound.unique isLast] at down
  rw [isFirstFound.unique isFirst] at up
  rw [searched, down, Option.bind_eq_bind, Option.bind_some, up, found]
  rfl

/-! ### The two heights -/

/-- Around a tip stand the greatest superblock height from the lowest one up to the tip, and the
least one above the tip, the floor in the place of one that does not exist. Every tip before the
next superblock has the same two heights, the last one is the superblock previous to the next, and
searching height by height comes to an end and finds both. -/
theorem around_is_nearest (cadence : Cadence) (tip : Height) :
    let last := (cadence.around tip).1
    let next := (cadence.around tip).2
    (IsGreatest (cadence.behind tip) last ∨
      cadence.behind tip = ∅ ∧ last = cadence.floorHeight) ∧
    (IsLeast (cadence.ahead tip) next ∨
      cadence.ahead tip = ∅ ∧ next = cadence.floorHeight) ∧
    ((cadence.ahead tip).Nonempty → cadence.previous next = last ∧
      ∀ later, tip ≤ later → later < next → cadence.around later = (last, next)) ∧
    ∀ steps, 2 ^ 32 ≤ steps → cadence.searched steps tip = some (last, next) := by
  obtain ⟨last?, next?, isLast, isFirst, found⟩ := cadence.exists_around tip
  intro last next
  have lastIs : last = last?.getD cadence.floorHeight := congrArg Prod.fst found
  have nextIs : next = next?.getD cadence.floorHeight := congrArg Prod.snd found
  refine ⟨?_, ?_, fun exist => ?_, fun steps enough => searched_eq enough⟩
  · rw [lastIs]
    cases last? with
    | none => exact Or.inr ⟨isLast, rfl⟩
    | some height => exact Or.inl isLast
  · rw [nextIs]
    cases next? with
    | none => exact Or.inr ⟨isFirst, rfl⟩
    | some height => exact Or.inl isFirst
  · have first : IsLeast (cadence.ahead tip) next := by
      rw [nextIs]
      cases next? with
      | none => exact absurd isFirst exist.ne_empty
      | some height => exact isFirst
    exact ⟨previous_of_next first, fun later since early => around_of_lt_next first since early⟩

end SuperblockGovernance.Cadence

namespace SuperblockGovernance

/-! ### A cadence with a floor -/

namespace FlooredCadence

/-- Superblocks from the height 1000 on, of which those below 1150 are not told. -/
def cadence : Cadence :=
  ⟨1000, 100, 1150⟩

/-- There is a superblock at 1100, but it is below the floor. -/
example : cadence.around 1149 = (1150, 1200) := by decide

/-- The next superblock would be at 4294967300, which 32 bits do not hold. -/
example : cadence.around 4294967250 = (4294967200, 1150) := by decide

end FlooredCadence

/-- From the tip 1250 on, up to the tip before the superblock 1300, the two heights stay. -/
theorem heights_stay_until_next :
    (FlooredCadence.cadence.ahead 1250).Nonempty ∧ (1250 : Height) ≤ 1299 ∧
      (1299 : Height) < (FlooredCadence.cadence.around 1250).2 ∧
      FlooredCadence.cadence.previous (FlooredCadence.cadence.around 1250).2 = 1200 ∧
      FlooredCadence.cadence.around 1299 = (1200, 1300) ∧
      FlooredCadence.cadence.searched (2 ^ 32) 1250 = some (1200, 1300) := by
  have exist : (FlooredCadence.cadence.ahead 1250).Nonempty := ⟨1300, by decide, by decide⟩
  have early : (1299 : Height) < (FlooredCadence.cadence.around 1250).2 := by decide
  obtain ⟨_, _, between, ends⟩ := Cadence.around_is_nearest FlooredCadence.cadence 1250
  obtain ⟨previous, stays⟩ := between exist
  exact ⟨exist, by decide, early, previous, stays 1299 (by decide) early,
    ends (2 ^ 32) (Nat.le_refl _)⟩

end SuperblockGovernance
