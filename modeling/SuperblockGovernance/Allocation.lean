/-
The payout plan of one superblock: an amount for each payout address, in the order of
the addresses, and the phase that the contract carries. An address is paid once.
-/

import SuperblockGovernance.Failure
import SuperblockGovernance.Fingerprint
import SuperblockGovernance.SortedMap

namespace SuperblockGovernance

/-- What is paid to whom, and the phase that goes with it. -/
structure Allocation where
  payouts : SortedMap PayoutAddress Amount := {}
  phase : Option Int8 := none
  deriving DecidableEq

namespace Allocation

/-- The plan that pays nobody. -/
def empty : Allocation := {}

/-- Adds a payout, unless the address already has one. -/
def add (allocation : Allocation) (address : PayoutAddress) (amount : Amount) :
    Except ValidationError Allocation :=
  if allocation.payouts.contains address then .error (.duplicateAddress address.text)
  else .ok { allocation with payouts := allocation.payouts.insert address amount }

/-- The plan with these payouts, refused at the first address that comes again. -/
def ofPairs (pairs : List (PayoutAddress × Amount)) : Except ValidationError Allocation :=
  pairs.foldlM (fun allocation (address, amount) => allocation.add address amount) empty

/-- The same payouts with another phase. -/
def withPhase (allocation : Allocation) (phase : Option Int8) : Allocation :=
  { allocation with phase }

/-- The payouts in the order of their addresses. -/
def pairs (allocation : Allocation) : List (PayoutAddress × Amount) :=
  allocation.payouts.entries

/-- The addresses in their order. -/
def addresses (allocation : Allocation) : List PayoutAddress :=
  allocation.payouts.keys

/-- The amounts in the order of their addresses. -/
def amounts (allocation : Allocation) : List Amount :=
  allocation.payouts.values

/-- What an address is paid. -/
def amountFor? (allocation : Allocation) (address : PayoutAddress) : Option Amount :=
  allocation.payouts.get? address

/-- Nobody is paid. -/
def isEmpty (allocation : Allocation) : Bool :=
  allocation.payouts.isEmpty

/-- The sum of all payouts in base units. -/
def total (allocation : Allocation) : Nat :=
  sumOf UInt64.toNat allocation.amounts

/-- The addresses as a contract lists them. -/
def addressesText (allocation : Allocation) : String :=
  SuperblockGovernance.addressesText allocation.addresses

/-- The amounts as a contract lists them. -/
def amountsText (allocation : Allocation) : String :=
  SuperblockGovernance.amountsText allocation.amounts

/-- The phase as a contract carries it. -/
def phaseText (allocation : Allocation) : String :=
  SuperblockGovernance.phaseText allocation.phase

/-- Listing the addresses is going through the payouts. -/
theorem addressesText_eq (allocation : Allocation) :
    allocation.addressesText =
      Text.joined "|" (allocation.pairs.map fun payout => payout.1.text) := by
  rw [addressesText, SuperblockGovernance.addressesText, addresses, SortedMap.keys, List.map_map]
  rfl

/-- Listing the amounts is going through the payouts. -/
theorem amountsText_eq (allocation : Allocation) :
    allocation.amountsText =
      Text.joined "|" (allocation.pairs.map fun payout => payout.2.text) := by
  rw [amountsText, SuperblockGovernance.amountsText, amounts, SortedMap.values, List.map_map]
  rfl

/-- The fingerprint of the payouts and the phase. -/
def fingerprint (allocation : Allocation) : Fingerprint :=
  .ofPayouts allocation.addresses allocation.amounts allocation.phase

/-- The total is at most the ceiling of the height. -/
def checkTotal (total : Nat) (height : Height) (limit : Amount) : Except BudgetError Unit :=
  if limit.toNat < total then .error ⟨height, total, limit⟩ else .ok ()

/-! ### Payout texts -/

/-- Reads an address of a payout list. -/
def readAddress (text : String) : Except ValidationError PayoutAddress :=
  match PayoutAddress.ofText? text with
  | some address => .ok address
  | none => .error (.scalar (.invalidAddress text))

/-- Reads an amount of a payout list. -/
def readAmount (text : String) : Except ValidationError Amount :=
  match Amount.ofText? text with
  | some amount => .ok amount
  | none => .error (.scalar (.invalidAmount text))

/-- Adds one payout given by its texts. -/
def addText (allocation : Allocation) (address amount : String) :
    Except ValidationError Allocation := do
  let address ← readAddress address
  let amount ← readAmount amount
  allocation.add address amount

/-- Reads a list of addresses and a list of as many amounts. -/
def ofTexts (addresses amounts : String) : Except ValidationError Allocation :=
  let addresses := Text.listed '|' addresses
  let amounts := Text.listed '|' amounts
  if addresses.length ≠ amounts.length then
    .error (.countMismatch addresses.length amounts.length)
  else
    (addresses.zip amounts).foldlM
      (fun allocation (address, amount) => allocation.addText address amount) empty

end Allocation

end SuperblockGovernance
