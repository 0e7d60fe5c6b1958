/-
Selection of sporks. A budget proposal of a spork expense type carries a setting as
`key|value` in its name. A proposal wins when it is neither too old nor too young and
has enough net approval; the settings of the winners go into the next contract that is
built for submission.
-/

import SuperblockGovernance.Config
import SuperblockGovernance.Contract.SporkSection

namespace SuperblockGovernance

/-- A proposal that the network votes on. -/
structure Proposal where
  hash : Hash256
  name : String
  expenseType : String
  createdAt : Timestamp
  yes : UInt32
  no : UInt32
  deriving DecidableEq

/-- A setting that won, with the proposal that carried it. -/
structure WinningSpork where
  proposal : Hash256
  sporkType : String
  key : String
  value : String
  deriving DecidableEq

namespace Proposal

/-- The expense types of proposals that ask for a setting. -/
def expenseTypes : List String :=
  ["SPORK", "XSPORK-ORPHAN", "XSPORK-CHARITY", "XSPORK-EXPENSE"]

/-- The approvals that remain after the rejections. -/
def netYes (proposal : Proposal) : Int :=
  proposal.yes.toNat - proposal.no.toNat

/-- The approval that a share of the valid identities asks for, at least one. The product is held
in 64 bits with a sign. -/
def requiredVotes (identities percent : UInt32) : Int :=
  max 1 (Int64.ofNat identities.toNat * Int64.ofNat percent.toNat / 100).toInt

/-- The last moment at which a proposal is young enough. -/
def windowEnd (proposal : Proposal) (rules : SporkRules) : Nat :=
  min (proposal.createdAt.toNat + rules.windowSecs.toNat) (2 ^ 64 - 1)

/-- The proposal is a passing spork proposal of the right age. -/
def Passes (proposal : Proposal) (now : Timestamp) (identities : UInt32) (rules : SporkRules) :
    Prop :=
  proposal.expenseType ∈ expenseTypes ∧ now.toNat ≤ proposal.windowEnd rules ∧
    rules.minAgeSecs.toNat < now.toNat - proposal.createdAt.toNat ∧
    requiredVotes identities rules.votePercent ≤ proposal.netYes

instance (proposal : Proposal) (now : Timestamp) (identities : UInt32) (rules : SporkRules) :
    Decidable (proposal.Passes now identities rules) :=
  inferInstanceAs (Decidable (_ ∧ _ ∧ _ ∧ _))

/-- The setting in the name of a proposal; both sides of its first bar have to be there. -/
def setting? (proposal : Proposal) : Option WinningSpork := do
  let (key, value) ← Text.cutOnce? '|' proposal.name.toList
  if key = [] ∨ value = [] then none
  else
    some ⟨proposal.hash, proposal.expenseType, String.ofList key, String.ofList value⟩

/-- The order in which winners are listed: by creation, then by hash. -/
def precedes (first second : Proposal) : Bool :=
  first.createdAt < second.createdAt ||
    (first.createdAt == second.createdAt && first.hash ≤ second.hash)

end Proposal

/-- The settings that win among some proposals. -/
def winningSporks (proposals : List Proposal) (now : Timestamp) (identities : UInt32)
    (rules : SporkRules) : List WinningSpork :=
  let passing := proposals.filter fun proposal => proposal.Passes now identities rules
  (passing.mergeSort Proposal.precedes).filterMap Proposal.setting?

/-- The entry of a winner, whose place in the list is its nonce. -/
def WinningSpork.entry (winner : WinningSpork) (place : Nat) : SporkEntry :=
  ⟨winner.sporkType, winner.key, winner.value, UInt32.ofNat place⟩

/-- The section that a signer makes of the winners. -/
def SporkSection.ofWinners (signer : String) (winners : List WinningSpork) : SporkSection :=
  .signed signer (winners.mapIdx fun place winner => winner.entry place)

end SuperblockGovernance
