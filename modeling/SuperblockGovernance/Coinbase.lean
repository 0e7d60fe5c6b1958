/-
Block payments. A coinbase may pay the block reward, and at a superblock height also
the contract that was triggered for it. It has to contain an output for every payout of
that contract and for every masternode payee, no output serving twice. A block template
that pays exactly these is filled from the same terms.
-/

import SuperblockGovernance.Allocation

namespace SuperblockGovernance

/-- An output of the transaction that pays for a block. -/
structure CoinbaseOutput where
  payee : PayoutAddress
  amount : Amount
  deriving DecidableEq

/-- What is known about a height when its payments are checked. -/
structure PaymentTerms where
  height : Height
  /-- The ordinary reward, masternode payees included. -/
  blockReward : Amount
  budgetLimit : Amount
  isSuperblock : Bool
  governanceSynced : Bool
  /-- The payouts of the contract that reached quorum. -/
  triggered : Option Allocation
  masternodePayees : List CoinbaseOutput
  deriving DecidableEq

namespace Coinbase

/-- What all outputs pay together, in base units. -/
def total (outputs : List CoinbaseOutput) : Nat :=
  sumOf (fun output => output.amount.toNat) outputs

/-- The outputs of a payout plan, in the order of the addresses. -/
def ofAllocation (allocation : Allocation) : List CoinbaseOutput :=
  allocation.pairs.map fun (payee, amount) => ⟨payee, amount⟩

/-- The list without its element at a position; the last element takes that place. -/
def swapErase {α : Type} (list : List α) (position : Nat) : List α :=
  match list.getLast? with
  | some last => (list.set position last).dropLast
  | none => []

/-- The outputs without the first one that equals the given output, if there is one. -/
def take? (outputs : List CoinbaseOutput) (output : CoinbaseOutput) :
    Option (List CoinbaseOutput) :=
  (outputs.findIdx? fun candidate => candidate = output).map (swapErase outputs)

/-- Takes required outputs out one by one and stops at the first that is missing. -/
def takeAll (failure : CoinbaseOutput → PaymentError) (outputs : List CoinbaseOutput)
    (required : List CoinbaseOutput) : Except PaymentError (List CoinbaseOutput) :=
  required.foldlM (fun left output =>
    match take? left output with
    | some left => .ok left
    | none => .error (failure output)) outputs

end Coinbase

namespace PaymentTerms

/-- The coinbase pays no more than a limit. -/
def bounded (terms : PaymentTerms) (actual limit : Nat) (bound : ValueBound) :
    Except PaymentError Unit :=
  if limit < actual then .error (.valueTooHigh terms.height actual limit bound) else .ok ()

/-- Checks the value of a coinbase. Without governance data only the outer bound of a superblock
can be checked. -/
def checkValue (terms : PaymentTerms) (outputs : List CoinbaseOutput) :
    Except PaymentError Unit := do
  let actual := Coinbase.total outputs
  let reward := terms.blockReward.toNat
  if !terms.isSuperblock then terms.bounded actual reward .regularReward
  else
    terms.bounded actual (reward + terms.budgetLimit.toNat) .superblockMaximum
    if !terms.governanceSynced then return ()
    match terms.triggered with
    | none => terms.bounded actual reward .rewardWithoutTrigger
    | some allocation =>
      (Allocation.checkTotal allocation.total terms.height terms.budgetLimit).mapError .budget
      terms.bounded actual (reward + allocation.total) .triggeredContract

/-- The payouts that a coinbase has to contain for the contract. -/
def contractPayees (terms : PaymentTerms) : List CoinbaseOutput :=
  if terms.isSuperblock then (terms.triggered.map Coinbase.ofAllocation).getD [] else []

/-- Checks that a coinbase contains the payouts of the contract and the masternode payees. -/
def checkPayees (terms : PaymentTerms) (outputs : List CoinbaseOutput) :
    Except PaymentError Unit := do
  if !terms.governanceSynced then return ()
  let missingSuperblock (output : CoinbaseOutput) : PaymentError :=
    .missingSuperblockPayee terms.height output.payee.text output.amount
  let missingMasternode (output : CoinbaseOutput) : PaymentError :=
    .missingMasternodePayee terms.height output.payee.text output.amount
  let left ← Coinbase.takeAll missingSuperblock outputs terms.contractPayees
  discard (Coinbase.takeAll missingMasternode left terms.masternodePayees)

/-- Checks the value, then the payees. -/
def check (terms : PaymentTerms) (outputs : List CoinbaseOutput) : Except PaymentError Unit := do
  terms.checkValue outputs
  terms.checkPayees outputs

/-- The outputs that a block has to pay: the masternode payees, then the contract if it is within
the budget. -/
def fill (terms : PaymentTerms) : List CoinbaseOutput :=
  let withinBudget := terms.triggered.all fun allocation =>
    allocation.total ≤ terms.budgetLimit.toNat
  terms.masternodePayees ++ if withinBudget then terms.contractPayees else []

end PaymentTerms

end SuperblockGovernance
