/-
Superblocks and their payments as the engine sees them: the contract that is triggered at a
height, the state of a fingerprint there, the check and the filling of a coinbase, and what
a connected block changes in the store.
-/

import SuperblockGovernance.Engine

namespace SuperblockGovernance.Engine

variable {σ : Type}

/-! ### The triggered contract -/

/-- The winner at a height. -/
def winner? (engine : Engine σ) (host : Host) (height : Height) : Option Candidate :=
  Election.winner? (engine.candidatesAt height) (engine.requiredQuorum host height)
    (host.budgetLimit height)

/-- The winner at a superblock height with its payouts. -/
def triggered? (engine : Engine σ) (host : Host) (height : Height) :
    Option (Candidate × Allocation) := do
  if ¬engine.config.cadence.IsSuperblock height then none
  let winner ← engine.winner? host height
  let object ← engine.store.get? winner.id
  let payouts ← object.payouts.toOption
  return (winner, payouts)

/-- A contract is triggered for the height. -/
def isTriggered (engine : Engine σ) (host : Host) (height : Height) : Bool :=
  (engine.triggered? host height).isSome

/-- Where a fingerprint stands at a height. -/
def contractState (engine : Engine σ) (host : Host) (height : Height)
    (fingerprint : Fingerprint) : ContractState :=
  let winner := engine.winner? host height
  let isConfirmed := winner.any fun candidate => engine.store.isConfirmed candidate.id
  .classify fingerprint (engine.candidatesAt height) winner isConfirmed host.tipHeight height

/-! ### Payments -/

/-- What decides over the payments at a height. -/
def paymentTerms (engine : Engine σ) (host : Host) (height : Height) : PaymentTerms where
  height := height
  blockReward := host.blockReward height
  budgetLimit := host.budgetLimit height
  isSuperblock := engine.config.cadence.IsSuperblock height
  governanceSynced := host.governanceSynced
  triggered := (engine.triggered? host height).map Prod.snd
  masternodePayees := host.masternodePayees height

/-- Checks the coinbase of a block. -/
def checkBlock (engine : Engine σ) (host : Host) (height : Height)
    (coinbase : List CoinbaseOutput) : Except PaymentError Unit :=
  (engine.paymentTerms host height).check coinbase

/-- The outputs that a block at a height has to pay. -/
def fillBlock (engine : Engine σ) (host : Host) (height : Height) : List CoinbaseOutput :=
  (engine.paymentTerms host height).fill

/-! ### Connected blocks -/

/-- Marks the winner at a height as mined if the coinbase contains its payouts. -/
def confirmPaid (engine : Engine σ) (host : Host) (height : Height)
    (coinbase : List CoinbaseOutput) : TriggerStore :=
  match engine.triggered? host height with
  | none => engine.store
  | some (winner, payouts) =>
    if (Coinbase.ofAllocation payouts).all fun output => output ∈ coinbase then
      (engine.store.confirm height winner.fingerprint).2
    else engine.store

/-- How many blocks objects are kept after their target: two cycles. -/
def retention (engine : Engine σ) : Nat :=
  min (engine.config.cycleLength.toNat * 2) (2 ^ 32 - 1)

/-- Takes note of a block that was connected: confirms a contract that was paid and forgets old
objects. -/
def connectBlock (engine : Engine σ) (host : Host) (height : Height)
    (coinbase : List CoinbaseOutput) : Engine σ :=
  let store := engine.confirmPaid host height coinbase
  if engine.retention < height.toNat then
    { engine with store := (store.prune (UInt32.ofNat (height.toNat - engine.retention))).2 }
  else { engine with store }

end SuperblockGovernance.Engine
