/-
The records that a host finds on the chain and that an allocation is assessed on: stake
commitments, contributions, coin-age votes, and the sponsorship of orphans through
charities. Every query is bounded by heights, so a snapshot yields the same records on
every node.
-/

import SuperblockGovernance.Hash256
import SuperblockGovernance.PayoutAddress
import SuperblockGovernance.Amount
import SuperblockGovernance.SortedMap

namespace SuperblockGovernance

/-- What a contribution counts towards. -/
abbrev Campaign := String

namespace Campaign

/-- Standing stake commitments. -/
def utxo : Campaign := "UTXO"

/-- Governance votes backed by coin age. -/
def coinAgeVote : Campaign := "COINAGEVOTE"

/-- Charities that are paid for sponsored orphans. -/
def charity : Campaign := "DAC"

end Campaign

/-- A commitment to hold a balance on some currency's chain. -/
structure StakeCommitment where
  height : Height
  txid : Hash256
  payee : PayoutAddress
  stakedAddress : String
  ticker : String
  valueUsdCents : UInt64
  /-- The share that is backed by coins, in basis points. -/
  coverageBps : UInt32
  /-- The referral multiplier, in basis points. -/
  referralBps : UInt32
  /-- The last height at which the commitment counts. -/
  expiresAt : Option Height
  deriving DecidableEq

namespace StakeCommitment

/-- The commitment was made by this height and has not expired. -/
def isActiveAt (stake : StakeCommitment) (height : Height) : Bool :=
  stake.height ≤ height && stake.expiresAt.all fun last => height ≤ last

/-- The value times coverage times referral. -/
def points (stake : StakeCommitment) : Nat :=
  stake.valueUsdCents.toNat * stake.coverageBps.toNat * stake.referralBps.toNat / 100000000

end StakeCommitment

/-- A burn of coin age or a donation into a campaign. -/
structure Contribution where
  height : Height
  txid : Hash256
  campaign : Campaign
  payee : PayoutAddress
  coinAge : UInt64
  donation : Amount
  deriving DecidableEq

/-- The coin age and the whole coins donated. -/
def Contribution.points (event : Contribution) : Nat :=
  event.coinAge.toNat + event.donation.toNat / Amount.coin

/-- A governance vote, which counts with the coin age of its voter. -/
structure CoinAgeVote where
  height : Height
  txid : Hash256
  payee : PayoutAddress
  coinAge : UInt64
  deriving DecidableEq

/-- A charity and the address that is paid for it. -/
structure CharityRecord where
  charity : String
  payout : PayoutAddress
  deriving DecidableEq

/-- The monthly sponsorship of an orphan through a charity. -/
structure OrphanCommitment where
  orphan : String
  charity : String
  monthlyCents : UInt64
  deriving DecidableEq

/-- The queries that a host answers from the chain. -/
structure ChainRecords where
  /-- Stake commitments up to a height. -/
  stakes : Height → List StakeCommitment
  /-- Contributions above the first height and up to the second. -/
  contributions : Height → Height → List Contribution
  /-- Coin-age votes above the first height and up to the second. -/
  coinAgeVotes : Height → Height → List CoinAgeVote
  charities : Height → List CharityRecord
  orphans : Height → List OrphanCommitment
  /-- Weights of the campaigns in basis points. -/
  weights : Height → SortedMap Campaign UInt32

end SuperblockGovernance
