/-
Superblock contracts and their wire text: sections for the addresses, the amounts, the
proposals and the vote data, and on a contract that is built for submission also the
sporks and the market data. Reading finds the sections by their tags, so their order
is free; `Contract.canonical` takes only the text that writing would produce.
-/

import SuperblockGovernance.Allocation
import SuperblockGovernance.Contract.Quote
import SuperblockGovernance.Contract.SporkSection

namespace SuperblockGovernance

/-- A superblock contract. What is missing has no section. -/
structure Contract where
  allocation : Allocation := {}
  proposals : List String := []
  voteData : List String := []
  sporks : Option SporkSection := none
  quote : Option Quote := none
  deriving DecidableEq

namespace Contract

/-- Attaches market data, whose phase becomes the phase of the allocation. -/
def withQuote (contract : Contract) (quote : Quote) : Contract :=
  { contract with
    allocation := contract.allocation.withPhase (some quote.phase)
    quote := some quote }

/-- Attaches settings. -/
def withSporks (contract : Contract) (sporks : SporkSection) : Contract :=
  { contract with sporks := some sporks }

/-- The sum of all payouts in base units. -/
def total (contract : Contract) : Nat :=
  contract.allocation.total

/-- The fingerprint of the sections that the contract is written with. -/
def fingerprint (contract : Contract) : Fingerprint :=
  .ofTexts contract.allocation.addressesText contract.allocation.amountsText
    contract.allocation.phaseText

/-- The sections of a contract are the texts of its plan, so both have one fingerprint. -/
theorem fingerprint_eq (contract : Contract) :
    contract.fingerprint = contract.allocation.fingerprint := rfl

/-! ### Writing -/

/-- A section that is written only when there is something to put into it. -/
def optionalSection {α : Type} (tag : String) (content : Option α) (body : α → String) : String :=
  (content.map fun value => Section.wrap tag (body value)).getD ""

/-- The wire text. -/
def toText (contract : Contract) : String :=
  Section.wrap "ADDRESSES" contract.allocation.addressesText ++
    Section.wrap "PAYMENTS" contract.allocation.amountsText ++
    Section.wrap "PROPOSALS" (Text.joined "|" contract.proposals) ++
    Section.wrap "VOTEDATA" (Text.joined "|" contract.voteData) ++
    optionalSection "SPORKS" contract.sporks SporkSection.body ++
    optionalSection "QTDATA" contract.quote Quote.toText

/-! ### Reading -/

/-- The body of a section that every contract has. -/
def requiredSection (tag text : String) : Except ValidationError String :=
  match Section.body? tag text with
  | some body => .ok body
  | none => .error (.missingSection tag)

/-- The entries of a section that holds a list; none without the section. -/
def listSection (tag text : String) : List String :=
  Text.listed '|' ((Section.body? tag text).getD "")

/-- Reads the payouts, then the sporks, then the market data. -/
def ofText (text : String) : Except ValidationError Contract := do
  let addresses ← requiredSection "ADDRESSES" text
  let amounts ← requiredSection "PAYMENTS" text
  let allocation ← Allocation.ofTexts addresses amounts
  let sporks ← (Section.body? "SPORKS" text).mapM SporkSection.ofBody
  let quote ← (Section.body? "QTDATA" text).mapM Quote.ofText
  let contract : Contract :=
    { allocation
      proposals := listSection "PROPOSALS" text
      voteData := listSection "VOTEDATA" text
      sporks }
  return match quote with
  | some quote => contract.withQuote quote
  | none => contract

/-- Reads a contract from the very text that writing it produces. -/
def canonical (text : String) : Except ValidationError Contract := do
  let contract ← ofText text
  if contract.toText = text then return contract
  else .error (.nonCanonical "contract text differs from its canonical rendering")

/-- The fingerprint of a contract text as it is written; a missing section counts as empty. -/
def textFingerprint (text : String) : Fingerprint :=
  let phase := (Section.body? "QTDATA" text).bind (Section.body? "QTPHASE")
  .ofTexts ((Section.body? "ADDRESSES" text).getD "") ((Section.body? "PAYMENTS" text).getD "")
    (phase.getD "")

end Contract

end SuperblockGovernance
