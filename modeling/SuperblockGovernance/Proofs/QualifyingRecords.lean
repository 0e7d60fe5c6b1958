/-
The records that an assessment goes by. Points add up, so the awards of an assessment count as
a collection without an order, and each kind of record makes the same awards in any order.
Stakes are sorted by height and transaction, charities by name, and sponsorships are added up
before a charity is looked for, so those of unknown charities are dropped together. Hosts whose
scans return the same qualifying records, in any order and among any others, assess alike.
-/

import Mathlib.Data.List.Nodup
import SuperblockGovernance.Allocation.Assessment
import SuperblockGovernance.Proofs.SortedMaps

namespace SuperblockGovernance

/-! ### Points in any order -/

namespace PointTable

theorem add_of_none {award : Award} (nothing : award.points = 0) (table : PointTable) :
    table.add award = table :=
  if_pos nothing

theorem add_of_some {award : Award} (something : award.points ≠ 0) (table : PointTable) :
    table.add award = table.alter award.payee fun held =>
      (held.getD .empty).alter award.campaign fun before => before.getD 0 + award.points :=
  if_neg something

/-- It does not matter which of two awards is counted first. -/
theorem add_comm (table : PointTable) (first second : Award) :
    (table.add first).add second = (table.add second).add first := by
  by_cases nothing : first.points = 0
  · rw [add_of_none nothing, add_of_none nothing]
  by_cases nothingMore : second.points = 0
  · rw [add_of_none nothingMore, add_of_none nothingMore]
  rw [add_of_some nothing, add_of_some nothing, add_of_some nothingMore, add_of_some nothingMore]
  refine SortedMap.alter_comm table fun _ held => ?_
  rw [Option.getD_some, Option.getD_some]
  refine SortedMap.alter_comm _ fun _ before => ?_
  rw [Option.getD_some, Option.getD_some, Nat.add_right_comm]

theorem ofAwards_of_perm {awards others : List Award} (alike : awards.Perm others) :
    ofAwards awards = ofAwards others :=
  alike.foldl_eq' (fun first _ second _ table => add_comm table first second) _

end PointTable

/-! ### Stakes -/

namespace StakeCommitment

variable {first second stake other : StakeCommitment} {stakes others : List StakeCommitment}
variable {height : Height}

/-- By height, then by transaction. -/
def Before (first second : StakeCommitment) : Prop :=
  first.height < second.height ∨ (first.height = second.height ∧ first.txid < second.txid)

instance (first second : StakeCommitment) : Decidable (first.Before second) :=
  inferInstanceAs (Decidable (_ ∨ _))

/-- The stakes were committed in different transactions. -/
def Distinct (stakes : List StakeCommitment) : Prop :=
  (stakes.map fun stake => (stake.height, stake.txid)).Nodup

instance (stakes : List StakeCommitment) : Decidable (Distinct stakes) :=
  inferInstanceAs (Decidable (List.Nodup _))

/-- The commitments that are active at a height. -/
def active (stakes : List StakeCommitment) (height : Height) : List StakeCommitment :=
  stakes.filter fun stake => stake.isActiveAt height

/-- The stake comes before all others for the same staked address. -/
def IsEarliest (stakes : List StakeCommitment) (stake : StakeCommitment) : Prop :=
  ∀ other ∈ stakes, other.ticker = stake.ticker → other.stakedAddress = stake.stakedAddress →
    other = stake ∨ stake.Before other

instance (stakes : List StakeCommitment) (stake : StakeCommitment) :
    Decidable (stake.IsEarliest stakes) :=
  inferInstanceAs (Decidable (∀ other ∈ stakes, _ → _ → _ ∨ _))

/-- Of the active stakes, the earliest for each staked address. -/
def earliest (stakes : List StakeCommitment) (height : Height) : List StakeCommitment :=
  (active stakes height).filter fun stake => stake.IsEarliest (active stakes height)

theorem Before.asymm (one : first.Before second) : ¬second.Before first := by
  simp only [Before, BitVec.lt_def, UInt32.lt_iff_toNat_lt, ← UInt32.toNat_inj] at *
  omega

theorem precedes_iff :
    precedes first second = true ↔ first.height < second.height ∨
      (first.height = second.height ∧ first.txid ≤ second.txid) := by
  rw [precedes, Bool.or_eq_true, Bool.and_eq_true, beq_iff_eq, decide_eq_true_iff,
    decide_eq_true_iff]

theorem sameAccount_iff :
    first.sameAccount second = true ↔
      first.ticker = second.ticker ∧ first.stakedAddress = second.stakedAddress := by
  rw [sameAccount, Bool.and_eq_true, beq_iff_eq, beq_iff_eq]

/-- Stakes of different transactions are sorted in one way only. -/
theorem before_mergeSort (distinct : Distinct stakes) :
    (stakes.mergeSort precedes).Pairwise Before := by
  have ranked : ∀ first second, precedes first second = true ↔
      first.height.toNat < second.height.toNat ∨
        (first.height.toNat = second.height.toNat ∧ first.txid.toNat ≤ second.txid.toNat) := by
    intro first second
    rw [precedes_iff, UInt32.lt_iff_toNat_lt, ← UInt32.toNat_inj, BitVec.le_def]
  have apart : (stakes.map fun stake => (stake.height.toNat, stake.txid.toNat)).Nodup := by
    refine List.pairwise_map.mpr ((List.pairwise_map.mp distinct).imp fun differ same => differ ?_)
    exact Prod.ext (UInt32.toNat_inj.mp (Prod.mk.inj same).1)
      (BitVec.eq_of_toNat_eq (Prod.mk.inj same).2)
  refine (pairwise_lt_mergeSort_of_ranks ranked apart).imp ?_
  rintro first second (less | ⟨same, less⟩)
  · exact Or.inl (UInt32.lt_iff_toNat_lt.mpr less)
  · exact Or.inr ⟨UInt32.toNat_inj.mp same, BitVec.lt_def.mpr less⟩

theorem eq_of_perm_of_before (alike : stakes.Perm others) (ordered : stakes.Pairwise Before)
    (othersOrdered : others.Pairwise Before) : stakes = others :=
  alike.eq_of_pairwise (fun _ _ _ _ below above => absurd above below.asymm) ordered othersOrdered

theorem firstPerAccount_sublist : (firstPerAccount stakes).Sublist stakes := by
  induction stakes with
  | nil => exact List.Sublist.refl _
  | cons stake rest inductionHypothesis =>
    exact (List.filter_sublist.trans inductionHypothesis).cons_cons stake

/-- Of stakes in order, the first for each staked address is the earliest. -/
theorem mem_firstPerAccount_iff (ordered : stakes.Pairwise Before) :
    stake ∈ firstPerAccount stakes ↔ stake ∈ stakes ∧ stake.IsEarliest stakes := by
  induction stakes with
  | nil => exact iff_of_false List.not_mem_nil fun both => List.not_mem_nil both.1
  | cons head rest inductionHypothesis =>
    obtain ⟨headBefore, restOrdered⟩ := List.pairwise_cons.mp ordered
    rw [firstPerAccount, List.mem_cons, List.mem_filter, inductionHypothesis restOrdered,
      Bool.not_eq_true', Bool.eq_false_iff, ne_eq, sameAccount_iff]
    constructor
    · rintro (rfl | ⟨⟨member, earliest⟩, apart⟩)
      · refine ⟨List.mem_cons_self, fun other within _ _ => ?_⟩
        exact (List.mem_cons.mp within).imp_right (headBefore other)
      · refine ⟨List.mem_cons_of_mem _ member, fun other within ticker address => ?_⟩
        rcases List.mem_cons.mp within with rfl | inside
        · exact absurd ⟨ticker, address⟩ apart
        · exact earliest other inside ticker address
    · rintro ⟨member, earliest⟩
      rcases List.mem_cons.mp member with same | inside
      · exact Or.inl same
      · have below := headBefore stake inside
        refine Or.inr ⟨⟨inside, fun other within => earliest other
          (List.mem_cons_of_mem _ within)⟩, ?_⟩
        rintro ⟨ticker, address⟩
        rcases earliest head List.mem_cons_self ticker address with same | before
        · exact below.asymm (same ▸ below)
        · exact below.asymm before

theorem before_counting (distinct : Distinct (active stakes height)) :
    (counting stakes height).Pairwise Before :=
  (before_mergeSort distinct).sublist firstPerAccount_sublist

theorem mem_earliest_iff :
    stake ∈ earliest stakes height ↔
      stake ∈ active stakes height ∧ stake.IsEarliest (active stakes height) := by
  rw [earliest, List.mem_filter, decide_eq_true_iff]

/-- The stakes that count are the earliest. -/
theorem counting_perm_earliest (distinct : Distinct (active stakes height)) :
    (counting stakes height).Perm (earliest stakes height) := by
  have ordered := before_mergeSort distinct
  have nodup : (earliest stakes height).Nodup := (List.Nodup.of_map _ distinct).filter _
  have counted : (counting stakes height).Nodup :=
    (before_counting distinct).imp fun below same => (same ▸ below).asymm (same ▸ below)
  rw [List.perm_ext_iff_of_nodup counted nodup]
  intro stake
  show stake ∈ firstPerAccount ((active stakes height).mergeSort precedes) ↔ _
  rw [mem_firstPerAccount_iff ordered, mem_earliest_iff, List.mem_mergeSort]
  refine and_congr_right fun _ => ?_
  simp only [IsEarliest, List.mem_mergeSort]

theorem counting_of_perm (distinct : Distinct (active stakes height))
    (alike : (active stakes height).Perm (active others height)) :
    counting stakes height = counting others height := by
  have othersDistinct : Distinct (active others height) := (alike.map _).nodup_iff.mp distinct
  have sorted : (active stakes height).mergeSort precedes =
      (active others height).mergeSort precedes := by
    refine eq_of_perm_of_before ?_ (before_mergeSort distinct) (before_mergeSort othersDistinct)
    exact (List.mergeSort_perm _ _).trans (alike.trans (List.mergeSort_perm _ _).symm)
  exact congrArg firstPerAccount sorted

theorem active_earliest : active (earliest stakes height) height = earliest stakes height := by
  refine List.filter_eq_self.mpr fun stake member => ?_
  exact (List.mem_filter.mp (mem_earliest_iff.mp member).1).2

theorem earliest_earliest : earliest (earliest stakes height) height = earliest stakes height := by
  rw [earliest, active_earliest]
  refine List.filter_eq_self.mpr fun stake member => decide_eq_true fun other within => ?_
  exact (mem_earliest_iff.mp member).2 other (mem_earliest_iff.mp within).1

/-- Stakes that are not the earliest for their address can be left out. -/
theorem counting_earliest (distinct : Distinct (active stakes height)) :
    counting (earliest stakes height) height = counting stakes height := by
  have kept : Distinct (active (earliest stakes height) height) := by
    rw [active_earliest]
    exact distinct.sublist (List.filter_sublist.map _)
  have alike := counting_perm_earliest kept
  rw [earliest_earliest] at alike
  exact eq_of_perm_of_before (alike.trans (counting_perm_earliest distinct).symm)
    (before_counting kept) (before_counting distinct)

end StakeCommitment

namespace AllocationRules

variable {rules : AllocationRules} {snapshot : Height} {first second : ChainRecords}
variable {charities otherCharities : List CharityRecord} {orphans others : List OrphanCommitment}

/-! ### Sponsorships -/

/-- One of the charities has the name. -/
def IsKnown (charities : List CharityRecord) (charity : String) : Prop :=
  ∃ record ∈ charities, record.charity = charity

instance (charities : List CharityRecord) (charity : String) :
    Decidable (IsKnown charities charity) :=
  inferInstanceAs (Decidable (∃ record ∈ charities, _))

/-- The sponsorships through charities that are known. -/
def sponsorships (charities : List CharityRecord) (orphans : List OrphanCommitment) :
    List OrphanCommitment :=
  orphans.filter fun orphan => IsKnown charities orphan.charity

theorem contains_charityPayouts_iff {charity : String} :
    (charityPayouts charities).contains charity = true ↔ IsKnown charities charity := by
  have pairs : charityPayouts charities =
      (charities.map fun record => (record.charity, record.payout)).foldl
        (fun payouts pair => payouts.alter pair.1 fun held => held.getD pair.2) .empty := by
    rw [List.foldl_map]
    rfl
  rw [pairs, SortedMap.contains_foldl_alter _ fun payout held => held.getD payout]
  simp [IsKnown, SortedMap.contains]

/-- Charities with different names have the same payouts in any order. -/
theorem charityPayouts_of_perm (distinct : (charities.map CharityRecord.charity).Nodup)
    (alike : charities.Perm otherCharities) :
    charityPayouts charities = charityPayouts otherCharities := by
  refine alike.foldl_eq' (fun one member other within payouts => ?_) _
  by_cases same : one = other
  · rw [same]
  · exact SortedMap.alter_comm payouts fun named =>
      absurd (List.inj_on_of_nodup_map distinct member within named) same

theorem sponsored_of_perm (alike : orphans.Perm others) : sponsored orphans = sponsored others := by
  refine alike.foldl_eq' (fun one _ other _ cents => ?_) _
  refine SortedMap.alter_comm cents fun _ before => ?_
  rw [Option.getD_some, Option.getD_some, Nat.add_right_comm]

/-- What is sponsored through one charity does not depend on sponsorships through others. -/
theorem get?_sponsored_filter (keep : String → Bool) {charity : String}
    (kept : keep charity = true) :
    (sponsored (orphans.filter fun orphan => keep orphan.charity)).get? charity =
      (sponsored orphans).get? charity := by
  rw [sponsored, sponsored]
  generalize (SortedMap.empty : SortedMap String Nat) = start
  have general : ∀ map other : SortedMap String Nat, map.get? charity = other.get? charity →
      ((orphans.filter fun orphan => keep orphan.charity).foldl (fun cents orphan =>
        cents.alter orphan.charity fun before => before.getD 0 + orphan.monthlyCents.toNat)
          map).get? charity =
      (orphans.foldl (fun cents orphan =>
        cents.alter orphan.charity fun before => before.getD 0 + orphan.monthlyCents.toNat)
          other).get? charity := by
    induction orphans with
    | nil => exact fun _ _ same => same
    | cons orphan rest inductionHypothesis =>
      intro map other same
      rw [List.filter_cons]
      by_cases included : keep orphan.charity = true
      · rw [if_pos included, List.foldl_cons, List.foldl_cons]
        refine inductionHypothesis _ _ ?_
        rw [SortedMap.get?_alter, SortedMap.get?_alter, same]
        split
        · rename_i named
          rw [← named, same]
        · rfl
      · rw [if_neg included, List.foldl_cons]
        refine inductionHypothesis _ _ ?_
        have apart : charity ≠ orphan.charity := fun named => included (named ▸ kept)
        rw [SortedMap.get?_alter, if_neg apart, same]
  exact general start start rfl

/-- The award for what is sponsored through a charity. -/
def awardFor (charities : List CharityRecord) (entry : String × Nat) : Option Award :=
  ((charityPayouts charities).get? entry.1).map fun payout => ⟨payout, .charity, entry.2⟩

theorem charityAwards_eq :
    charityAwards charities orphans =
      (sponsored orphans).entries.filterMap (awardFor charities) := rfl

theorem filterMap_awardFor (cents : SortedMap String Nat) :
    cents.entries.filterMap (awardFor charities) =
      (cents.filter fun charity _ => IsKnown charities charity).entries.filterMap
        (awardFor charities) := by
  rw [SortedMap.filter, List.filterMap_filter]
  refine List.filterMap_congr fun entry _ => ?_
  by_cases known : IsKnown charities entry.1
  · rw [if_pos (decide_eq_true known)]
  · have absent : (charityPayouts charities).get? entry.1 = none := by
      rw [← SortedMap.contains_eq_false_iff, Bool.eq_false_iff]
      exact fun there => known (contains_charityPayouts_iff.mp there)
    rw [if_neg (by simpa using known), awardFor, absent]
    rfl

/-- Sponsorships through unknown charities earn nothing. -/
theorem charityAwards_sponsorships :
    charityAwards charities (sponsorships charities orphans) = charityAwards charities orphans := by
  have alike : ((sponsored (sponsorships charities orphans)).filter
      fun charity _ => IsKnown charities charity) =
        (sponsored orphans).filter fun charity _ => IsKnown charities charity := by
    refine SortedMap.eq_of_get? fun charity => ?_
    rw [SortedMap.get?_filter, SortedMap.get?_filter]
    by_cases known : IsKnown charities charity
    · rw [sponsorships, get?_sponsored_filter (fun charity => IsKnown charities charity)
        (decide_eq_true known)]
    · cases (sponsored (sponsorships charities orphans)).get? charity <;>
        cases (sponsored orphans).get? charity <;> simp [known]
  rw [charityAwards_eq, charityAwards_eq, filterMap_awardFor, alike, ← filterMap_awardFor]

theorem charityAwards_of_perm (distinct : (charities.map CharityRecord.charity).Nodup)
    (alike : charities.Perm otherCharities)
    (sponsored : (sponsorships charities orphans).Perm (sponsorships otherCharities others)) :
    charityAwards charities orphans = charityAwards otherCharities others := by
  have payouts : awardFor charities = awardFor otherCharities := by
    funext entry
    rw [awardFor, awardFor, charityPayouts_of_perm distinct alike]
  calc charityAwards charities orphans
      = charityAwards charities (sponsorships charities orphans) := charityAwards_sponsorships.symm
    _ = charityAwards otherCharities (sponsorships otherCharities others) := by
        rw [charityAwards_eq, charityAwards_eq, sponsored_of_perm sponsored, payouts]
    _ = charityAwards otherCharities others := charityAwards_sponsorships

/-! ### Qualifying records -/

/-- The height is one whose events count as of the snapshot. -/
def inWindow (rules : AllocationRules) (snapshot height : Height) : Bool :=
  rules.windowStart snapshot < height && height ≤ snapshot

/-- The contributions that count as of a snapshot. -/
def contributionsIn (rules : AllocationRules) (records : ChainRecords) (snapshot : Height) :
    List Contribution :=
  (records.contributions (rules.windowStart snapshot) snapshot).filter fun event =>
    rules.inWindow snapshot event.height

/-- The coin-age votes that count as of a snapshot. -/
def coinAgeVotesIn (rules : AllocationRules) (records : ChainRecords) (snapshot : Height) :
    List CoinAgeVote :=
  (records.coinAgeVotes (rules.windowStart snapshot) snapshot).filter fun vote =>
    rules.inWindow snapshot vote.height

/-- The scans return the same qualifying records as of the snapshot, in any order. -/
structure SameQualifying (rules : AllocationRules) (snapshot : Height)
    (first second : ChainRecords) : Prop where
  weights : first.weights snapshot = second.weights snapshot
  stakes : (StakeCommitment.active (first.stakes snapshot) snapshot).Perm
    (StakeCommitment.active (second.stakes snapshot) snapshot)
  contributions : (rules.contributionsIn first snapshot).Perm
    (rules.contributionsIn second snapshot)
  coinAgeVotes : (rules.coinAgeVotesIn first snapshot).Perm (rules.coinAgeVotesIn second snapshot)
  charities : (first.charities snapshot).Perm (second.charities snapshot)
  orphans : (sponsorships (first.charities snapshot) (first.orphans snapshot)).Perm
    (sponsorships (second.charities snapshot) (second.orphans snapshot))

/-- No two active stakes stand in the same place of the chain, and no two charities share a
name. -/
structure Unambiguous (records : ChainRecords) (snapshot : Height) : Prop where
  stakes : StakeCommitment.Distinct (StakeCommitment.active (records.stakes snapshot) snapshot)
  charities : ((records.charities snapshot).map CharityRecord.charity).Nodup

theorem awards_eq (records : ChainRecords) :
    rules.awards records snapshot =
      ((StakeCommitment.counting (records.stakes snapshot) snapshot).map fun stake =>
        ⟨stake.payee, .utxo, stake.points⟩) ++
      ((rules.contributionsIn records snapshot).map fun event =>
        ⟨event.payee, event.campaign, event.points⟩) ++
      ((rules.coinAgeVotesIn records snapshot).map fun vote =>
        ⟨vote.payee, .coinAgeVote, vote.coinAge.toNat⟩) ++
      charityAwards (records.charities snapshot) (records.orphans snapshot) := rfl

/-- The same qualifying records earn the same awards, in some order. -/
theorem awards_perm (same : rules.SameQualifying snapshot first second)
    (unambiguous : Unambiguous first snapshot) :
    (rules.awards first snapshot).Perm (rules.awards second snapshot) := by
  rw [awards_eq, awards_eq, StakeCommitment.counting_of_perm unambiguous.stakes same.stakes,
    charityAwards_of_perm unambiguous.charities same.charities same.orphans]
  exact (((List.Perm.refl _).append (same.contributions.map _)).append
    (same.coinAgeVotes.map _)).append_right _

theorem assess_of_awards (alike : (rules.awards first snapshot).Perm (rules.awards second snapshot))
    (weights : first.weights snapshot = second.weights snapshot) (target : Height)
    (limit : Amount) :
    rules.assess first target snapshot limit = rules.assess second target snapshot limit := by
  unfold assess collectPoints
  rw [PointTable.ofAwards_of_perm alike, weights]

/-- The records with only the earliest of the stakes that are active at the snapshot. -/
def withEarliest (records : ChainRecords) (snapshot : Height) : ChainRecords :=
  { records with
    stakes := fun height => StakeCommitment.earliest (records.stakes height) snapshot }

/-- An assessment is determined by the qualifying records, in whatever order they are returned and
among whatever others. Of the stakes for one staked address only the earliest counts. -/
theorem assess_of_qualifying (same : rules.SameQualifying snapshot first second)
    (unambiguous : Unambiguous first snapshot) (target : Height) (limit : Amount) :
    rules.assess first target snapshot limit = rules.assess second target snapshot limit ∧
      rules.assess (withEarliest first snapshot) target snapshot limit =
        rules.assess first target snapshot limit := by
  have weights : (withEarliest first snapshot).weights snapshot = first.weights snapshot := rfl
  have awards : rules.awards (withEarliest first snapshot) snapshot =
      rules.awards first snapshot := by
    rw [awards_eq first, ← StakeCommitment.counting_earliest unambiguous.stakes]
    rfl
  exact ⟨assess_of_awards (awards_perm same unambiguous) same.weights target limit,
    assess_of_awards (List.Perm.of_eq awards) weights target limit⟩

end AllocationRules

/-! ### Two scans -/

namespace SampleScans

/-- The payee of the earlier stake. -/
def payee : PayoutAddress := ⟨"East", by decide⟩

/-- The payee of the later stake. -/
def otherPayee : PayoutAddress := ⟨"West", by decide⟩

/-- A stake for the one address, until after the snapshot. -/
def stake (height : Height) (txid : Hash256) (payee : PayoutAddress) : StakeCommitment :=
  { height, txid, payee, stakedAddress := "q", ticker := "BTC", valueUsdCents := 100
    coverageBps := 10000, referralBps := 10000, expiresAt := some 250 }

/-- A contribution of a payee at some height. -/
def contribution (height : Height) (payee : PayoutAddress) : Contribution :=
  { height, txid := 1, campaign := "CAMEROON", payee, coinAge := 30, donation := 0 }

/-- A sponsorship through a charity. -/
def orphan (charity : String) : OrphanCommitment :=
  { orphan := "O", charity, monthlyCents := 4000 }

/-- Stakes, contributions and sponsorships all have a weight. -/
def weights : SortedMap Campaign UInt32 :=
  .ofList [("UTXO", 4000), ("CAMEROON", 5000), ("DAC", 1000)]

/-- Two stakes for one address, two contributions and two charities. -/
def first : ChainRecords where
  stakes _ := [stake 160 2 otherPayee, stake 150 9 payee]
  contributions _ _ := [contribution 150 payee, contribution 160 otherPayee]
  coinAgeVotes _ _ := []
  charities _ := [⟨"C", payee⟩, ⟨"D", otherPayee⟩]
  orphans _ := [orphan "C", orphan "D"]
  weights _ := weights

/-- The records of the first scan in another order, among a stake that is not yet active, a
contribution before the window and a sponsorship through a charity that is unknown. -/
def second : ChainRecords where
  stakes _ := [stake 150 9 payee, stake 210 1 otherPayee, stake 160 2 otherPayee]
  contributions _ _ := [contribution 160 otherPayee, contribution 100 payee,
    contribution 150 payee]
  coinAgeVotes _ _ := []
  charities _ := [⟨"D", otherPayee⟩, ⟨"C", payee⟩]
  orphans _ := [orphan "E", orphan "D", orphan "C"]
  weights _ := weights

/-- The rules that a network starts from. -/
def rules : AllocationRules :=
  ({ cycleLength := 100 } : Config).allocationRules

theorem sameQualifying : rules.SameQualifying 200 first second where
  weights := rfl
  stakes := by decide +kernel
  contributions := by decide +kernel
  coinAgeVotes := .refl _
  charities := by decide +kernel
  orphans := by decide +kernel

theorem unambiguous : AllocationRules.Unambiguous first 200 where
  stakes := by decide +kernel
  charities := by decide

/-- The points for stakes that a payee has in an assessment of the records. -/
def stakePoints (records : ChainRecords) (payee : PayoutAddress) : Option Nat :=
  ((rules.assess records 300 200 100000000).entries.get? payee).bind fun entry =>
    entry.points.get? .utxo

end SampleScans

/-- Both scans give one assessment. In it the earlier of the two stakes for one address counts, and
the payee of the later one has no points for stakes. -/
theorem sample_scans_assess_alike :
    SampleScans.rules.SameQualifying 200 SampleScans.first SampleScans.second ∧
      AllocationRules.Unambiguous SampleScans.first 200 ∧
      SampleScans.rules.assess SampleScans.first 300 200 100000000 =
        SampleScans.rules.assess SampleScans.second 300 200 100000000 ∧
      SampleScans.rules.assess
        (AllocationRules.withEarliest SampleScans.first 200) 300 200 100000000 =
          SampleScans.rules.assess SampleScans.first 300 200 100000000 ∧
      SampleScans.stakePoints SampleScans.second SampleScans.payee = some 100 ∧
      SampleScans.stakePoints SampleScans.second SampleScans.otherPayee = none := by
  obtain ⟨alike, earliest⟩ := AllocationRules.assess_of_qualifying SampleScans.sameQualifying
    SampleScans.unambiguous 300 100000000
  refine ⟨SampleScans.sameQualifying, SampleScans.unambiguous, alike, earliest, ?_, ?_⟩
  · rw [SampleScans.stakePoints, ← alike, ← earliest]
    decide +kernel
  · rw [SampleScans.stakePoints, ← alike, ← earliest]
    decide +kernel

end SuperblockGovernance
