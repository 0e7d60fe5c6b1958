/-
A host made of recorded values. Blocks exist up to the tip and a block's hash is its
height; sanctuaries are valid up to a bound on their number, and every signature is good
but one. Single heights may have answers of their own.
-/

import SuperblockGovernance.Digest.Blake3
import SuperblockGovernance.Host

namespace SuperblockGovernance

/-- The masternode payee that is there when none is given. -/
def HostFixture.defaultMasternodePayees : List CoinbaseOutput :=
  ((PayoutAddress.ofText? "Masternode").map fun payee =>
    (⟨payee, .coins 4⟩ : CoinbaseOutput)).toList

/-- What is given of a host. -/
structure HostFixture where
  tip : Option ChainTip := none
  now : Timestamp := 1000060
  synced : Bool := true
  weights : SortedMap Campaign UInt32 := {}
  contributions : List Contribution := []
  stakes : List StakeCommitment := []
  coinAgeVotes : List CoinAgeVote := []
  charities : List CharityRecord := []
  orphans : List OrphanCommitment := []
  budgetLimit : Amount := .coins 5000
  blockReward : Amount := .coins 10
  masternodePayees : List CoinbaseOutput := HostFixture.defaultMasternodePayees
  identity : Option Identity := some ⟨1⟩
  identityCount : UInt32 := 50
  /-- Sanctuaries whose number in the last eight octets is below this are valid. -/
  validBelow : UInt64 := 1000
  spotQuote : Option SpotQuote := none
  recordedQuotes : SortedMap Height Quote := {}
  proposals : List Proposal := []
  blockHashes : SortedMap Height Hash256 := {}
  budgets : SortedMap Height Amount := {}
  rewards : SortedMap Height Amount := {}
  identityCounts : SortedMap Height UInt32 := {}
  signerKey : String := "BSigner"
  /-- Record queries return records of every height. -/
  unboundedRecords : Bool := false

namespace HostFixture

/-- The one signature that is not good. -/
def badSignature : Octets :=
  Octets.ofText "bad"

/-- The hash of the block at a height, which is the height as a number. -/
def hashOf (height : Height) : Hash256 :=
  BitVec.ofNat 256 height.toNat

/-- The tip that a height alone stands for. -/
def tipAt (height : Height) : ChainTip :=
  ⟨height, hashOf height, 1000000⟩

/-- The records of a chain, only those in the range that is asked for unless all are returned. -/
def records (fixture : HostFixture) : ChainRecords where
  stakes height := fixture.stakes.filter fun stake =>
    fixture.unboundedRecords || stake.height ≤ height
  contributions start stop := fixture.contributions.filter fun event =>
    fixture.unboundedRecords || (start < event.height && event.height ≤ stop)
  coinAgeVotes start stop := fixture.coinAgeVotes.filter fun vote =>
    fixture.unboundedRecords || (start < vote.height && vote.height ≤ stop)
  charities _ := fixture.charities
  orphans _ := fixture.orphans
  weights _ := fixture.weights

/-- The hash that is set for a height, or else one made of the height up to the tip. -/
def blockHash (fixture : HostFixture) (height : Height) : Option Hash256 :=
  (fixture.blockHashes.get? height).or
    (if fixture.tip.any fun tip => height ≤ tip.height then some (hashOf height) else none)

/-- The host that answers with these values. -/
def host (fixture : HostFixture) : Host where
  tip := fixture.tip
  blockHash := fixture.blockHash
  now := fixture.now
  governanceSynced := fixture.synced
  recordedQuote height := fixture.recordedQuotes.get? height
  records := fixture.records
  budgetLimit height := (fixture.budgets.get? height).getD fixture.budgetLimit
  blockReward height := (fixture.rewards.get? height).getD fixture.blockReward
  masternodePayees _ := fixture.masternodePayees
  localIdentity := fixture.identity
  signerKey := fixture.signerKey
  sign := Blake3.digest
  validIdentityCount height := (fixture.identityCounts.get? height).getD fixture.identityCount
  isValidIdentity identity _ := identity.hash.lowWord < fixture.validBelow.toNat
  verifyVote vote := vote.signature ≠ badSignature
  verifySubmission submission := submission.signature ≠ badSignature
  spotQuote := fixture.spotQuote
  proposalsSince since := fixture.proposals.filter fun proposal => since ≤ proposal.createdAt

end HostFixture

end SuperblockGovernance
