/-
The host of the engine: the node that owns the chain, the subsidy rules, the masternode
rotation, the identities and the price sources. The engine only reads it, and one value
of this type holds all its answers at one moment.
-/

import SuperblockGovernance.ChainRecords
import SuperblockGovernance.Coinbase
import SuperblockGovernance.Contract.Quote
import SuperblockGovernance.SporkSelection
import SuperblockGovernance.Trigger.Object
import SuperblockGovernance.Vote

namespace SuperblockGovernance

/-- The best block. -/
structure ChainTip where
  height : Height
  hash : Hash256
  time : Timestamp
  deriving DecidableEq

/-- What a node asks of the chain that it runs on. -/
structure Host where
  tip : Option ChainTip
  blockHash : Height → Option Hash256
  now : Timestamp
  /-- Objects and votes have finished syncing. -/
  governanceSynced : Bool
  /-- The market data in the superblock mined at a height. -/
  recordedQuote : Height → Option Quote
  records : ChainRecords
  /-- The ceiling for payments at a superblock height. -/
  budgetLimit : Height → Amount
  /-- The ordinary reward, masternode payees included. -/
  blockReward : Height → Amount
  masternodePayees : Height → List CoinbaseOutput
  /-- The sanctuary that this node runs as. -/
  localIdentity : Option Identity
  /-- The key written into spork sections. -/
  signerKey : String
  sign : Octets → Octets
  validIdentityCount : Height → UInt32
  isValidIdentity : Identity → Height → Bool
  verifyVote : Vote → Bool
  verifySubmission : Submission → Bool
  spotQuote : Option SpotQuote
  /-- Proposals created at a time or later. -/
  proposalsSince : Timestamp → List Proposal

namespace Host

/-- The height of the best block, zero without one. -/
def tipHeight (host : Host) : Height :=
  (host.tip.map ChainTip.height).getD 0

/-- The hash of the block at a height, zero for a block that does not exist yet. -/
def seedAt (host : Host) (height : Height) : Hash256 :=
  (host.blockHash height).getD 0

end Host

end SuperblockGovernance
