/-
The configuration of superblock governance, with the values a network starts from.
-/

import SuperblockGovernance.Amount

namespace SuperblockGovernance

/-- When a budget proposal may set a spork. -/
structure SporkRules where
  /-- Proposals older than this are passed over. -/
  windowSecs : UInt64 := 604800
  /-- Proposals have to be older than this. -/
  minAgeSecs : UInt64 := 86400
  /-- The net approval needed, as a share of the valid identities. -/
  votePercent : UInt32 := 10
  deriving DecidableEq

/-- The rules of a network, with the values that a network starts from. -/
structure Config where
  startHeight : Height := 0
  /-- The blocks from one superblock to the next. -/
  cycleLength : Height := 205
  /-- Stands in for a superblock height where there is none. -/
  floorHeight : Height := 0
  quorumPercent : UInt32 := 35
  quorumMinimum : UInt32 := 2
  /-- The share of the budget that an allocation plans with, in thousandths. -/
  safetyMarginPermille : UInt64 := 999
  /-- Payouts up to this amount are dropped. -/
  minPayment : Amount := 25000000
  /-- Held back from the budget before an allocation is planned. -/
  allocationReserve : Amount := 0
  submitRateLimitSecs : UInt64 := 900
  privilegeSharePercent : UInt64 := 25
  /-- Every sanctuary may create contracts. -/
  alwaysPrivileged : Bool := false
  /-- Unforced ticks run at tips that this divides. -/
  tickModulus : Height := 5
  maxNoVotesPerTick : Nat := 3
  maxDeleteVotesPerTick : Nat := 3
  targetSpacingSecs : UInt64 := 420
  /-- A tip older than this means that the chain is not synced. -/
  maxTipAgeSecs : UInt64 := 3600
  /-- The first height whose contract carries a live phase. -/
  phaseActivationHeight : Option Height := none
  sporkRules : SporkRules := {}
  deriving DecidableEq

namespace Config

/-- The blocks that the target spacing gives in a day. -/
def blocksPerDay (config : Config) : Height :=
  UInt32.ofNat (86400 / max config.targetSpacingSecs.toNat 1)

/-- The seconds in a cycle, in 64 bits. -/
def cycleSecs (config : Config) : UInt64 :=
  config.cycleLength.toUInt64 * config.targetSpacingSecs

end Config

end SuperblockGovernance
