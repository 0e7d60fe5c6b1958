/-
The assessment of contributions for one superblock. Points are collected for each payee
and campaign, the prominence of a payee is its weighted share in each campaign, and the
payout is that share of the pool, rounded to a cent. Payouts that are too small are
dropped. All numbers are whole: a prominence counts parts of ten to the twelfth.
-/

import SuperblockGovernance.Allocation
import SuperblockGovernance.ChainRecords
import SuperblockGovernance.Config
import SuperblockGovernance.Naturals

namespace SuperblockGovernance

namespace Prominence

/-- The whole, in which prominences are counted. -/
def scale : Nat := 1000000000000

/-- The whole, in which weights are counted. -/
def basisPoints : Nat := 10000

/-- The prominence that points earn in a campaign of that weight and total. -/
def share (points weight total : Nat) : Nat :=
  if weight = 0 ∨ total = 0 then 0
  else Rounding.mulDivFloor points (weight * scale) (total * basisPoints)

end Prominence

/-- What one payee contributed and earns. -/
structure AssessmentEntry where
  points : SortedMap Campaign Nat := {}
  prominence : Nat := 0
  /-- Zero when the payout is too small to be made. -/
  amount : Amount := 0
  deriving DecidableEq

/-- The outcome of an assessment: what was shared out, what each payee earned of it, and the plan.
-/
structure Assessment where
  target : Height
  snapshot : Height
  budgetLimit : Amount
  pool : Amount
  campaignTotals : SortedMap Campaign Nat
  entries : SortedMap PayoutAddress AssessmentEntry
  allocation : Allocation
  deriving DecidableEq

/-- The rules that an assessment follows. -/
structure AllocationRules where
  /-- The blocks before the snapshot whose events count. -/
  lookback : Height
  marginPermille : UInt64
  minPayment : Amount
  reserve : Amount
  deriving DecidableEq

/-- The rules that a network assesses by. -/
def Config.allocationRules (config : Config) : AllocationRules :=
  ⟨config.cycleLength, config.safetyMarginPermille, config.minPayment, config.allocationReserve⟩

/-! ### Points -/

/-- Points for one payee in one campaign. -/
structure Award where
  payee : PayoutAddress
  campaign : Campaign
  points : Nat
  deriving DecidableEq

/-- The points of each payee in each campaign; a payee is listed only with points. -/
abbrev PointTable := SortedMap PayoutAddress (SortedMap Campaign Nat)

namespace PointTable

/-- The table with the points of one more award. -/
def add (table : PointTable) (award : Award) : PointTable :=
  if award.points = 0 then table
  else
    table.alter award.payee fun held =>
      (held.getD .empty).alter award.campaign fun before => before.getD 0 + award.points

/-- The table of the points of all awards. -/
def ofAwards (awards : List Award) : PointTable :=
  awards.foldl add .empty

/-- The points of all payees in each campaign. -/
def totals (table : PointTable) : SortedMap Campaign Nat :=
  let columns := table.values.flatMap SortedMap.entries
  columns.foldl (fun totals (campaign, points) =>
    totals.alter campaign fun before => before.getD 0 + points) .empty

end PointTable

namespace StakeCommitment

/-- The order in which commitments take precedence. -/
def precedes (first second : StakeCommitment) : Bool :=
  first.height < second.height || (first.height == second.height && first.txid ≤ second.txid)

/-- Both commitments are for one address on the chain of one currency. -/
def sameAccount (first second : StakeCommitment) : Bool :=
  first.ticker == second.ticker && first.stakedAddress == second.stakedAddress

/-- The first commitment for each staked address. -/
def firstPerAccount : List StakeCommitment → List StakeCommitment
  | [] => []
  | stake :: rest => stake :: (firstPerAccount rest).filter fun other => !stake.sameAccount other

/-- The commitments that count at a height: of those active, the earliest for each staked
address. -/
def counting (stakes : List StakeCommitment) (height : Height) : List StakeCommitment :=
  firstPerAccount ((stakes.filter fun stake => stake.isActiveAt height).mergeSort precedes)

end StakeCommitment

namespace AllocationRules

/-- The height after which events count. -/
def windowStart (rules : AllocationRules) (snapshot : Height) : Height :=
  if snapshot < rules.lookback then 0 else snapshot - rules.lookback

/-- The payout of each charity; the first record of a charity counts. -/
def charityPayouts (records : List CharityRecord) : SortedMap String PayoutAddress :=
  records.foldl (fun payouts record =>
    payouts.alter record.charity fun held => held.getD record.payout) .empty

/-- The monthly cents sponsored through each charity. -/
def sponsored (orphans : List OrphanCommitment) : SortedMap String Nat :=
  orphans.foldl (fun cents orphan =>
    cents.alter orphan.charity fun before => before.getD 0 + orphan.monthlyCents.toNat) .empty

/-- The awards for sponsorships; only charities with a payout are paid. -/
def charityAwards (charities : List CharityRecord) (orphans : List OrphanCommitment) :
    List Award :=
  let payouts := charityPayouts charities
  (sponsored orphans).entries.filterMap fun (charity, cents) =>
    (payouts.get? charity).map fun payout => ⟨payout, .charity, cents⟩

/-- The awards as of a snapshot: for stakes, then for contributions and coin-age votes in the
window, then for sponsorships. -/
def awards (rules : AllocationRules) (records : ChainRecords) (snapshot : Height) : List Award :=
  let start := rules.windowStart snapshot
  let inWindow (height : Height) : Bool := start < height && height ≤ snapshot
  let stakes := StakeCommitment.counting (records.stakes snapshot) snapshot
  let contributions := (records.contributions start snapshot).filter fun event =>
    inWindow event.height
  let votes := (records.coinAgeVotes start snapshot).filter fun vote => inWindow vote.height
  (stakes.map fun stake => ⟨stake.payee, .utxo, stake.points⟩) ++
    (contributions.map fun event => ⟨event.payee, event.campaign, event.points⟩) ++
    (votes.map fun vote => ⟨vote.payee, .coinAgeVote, vote.coinAge.toNat⟩) ++
    charityAwards (records.charities snapshot) (records.orphans snapshot)

/-- The points as of a snapshot. -/
def collectPoints (rules : AllocationRules) (records : ChainRecords) (snapshot : Height) :
    PointTable :=
  .ofAwards (rules.awards records snapshot)

/-! ### Payouts -/

/-- The part of the budget that is planned with. -/
def pool (rules : AllocationRules) (budgetLimit : Amount) : Amount :=
  let available := budgetLimit.toNat - rules.reserve.toNat
  UInt64.ofNat (min (available * rules.marginPermille.toNat / 1000) (2 ^ 64 - 1))

/-- The sum of the shares of a payee. -/
def prominence (weights : SortedMap Campaign UInt32) (totals points : SortedMap Campaign Nat) :
    Nat :=
  sumOf (fun (campaign, earned) =>
    let weight := (weights.get? campaign).getD 0
    Prominence.share earned weight.toNat ((totals.get? campaign).getD 0)) points.entries

/-- The share of the pool that a prominence earns, in whole cents. -/
def payout (prominence : Nat) (pool : Amount) : Amount :=
  let cents := Rounding.divHalfDown (Rounding.saturatingMul prominence pool.toNat)
    (Prominence.scale * Amount.cent)
  UInt64.ofNat (min (Rounding.saturatingMul cents Amount.cent) (2 ^ 64 - 1))

/-- The payout of a prominence if it is above the minimum, and zero otherwise. -/
def paid (rules : AllocationRules) (prominence : Nat) (pool : Amount) : Amount :=
  let amount := payout prominence pool
  if rules.minPayment < amount then amount else 0

/-- Assesses the contributions as of a snapshot and plans the payouts for a target. -/
def assess (rules : AllocationRules) (records : ChainRecords) (target snapshot : Height)
    (budgetLimit : Amount) : Assessment :=
  let table := rules.collectPoints records snapshot
  let totals := table.totals
  let weights := records.weights snapshot
  let pool := rules.pool budgetLimit
  let entries := table.mapValues fun _ points =>
    let prominence := prominence weights totals points
    ({ points, prominence, amount := rules.paid prominence pool } : AssessmentEntry)
  let payouts := (entries.filter fun _ entry => entry.amount ≠ 0).mapValues fun _ entry =>
    entry.amount
  { target, snapshot, budgetLimit, pool, campaignTotals := totals, entries
    allocation := { payouts } }

end AllocationRules

end SuperblockGovernance
