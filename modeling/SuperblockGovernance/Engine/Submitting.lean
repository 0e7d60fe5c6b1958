/-
Submission of triggers by this node. Only a sanctuary with synced governance data submits;
the trigger has to be for a superblock height, pay at least one coin and stay within the
budget. The submission is signed and handed to the store, which hands it to the relay.
-/

import SuperblockGovernance.Engine

namespace SuperblockGovernance

/-- The sanctuary that may submit now. -/
def Host.submitter (host : Host) : Except SubmitError Identity :=
  match host.localIdentity with
  | none => .error .notASanctuary
  | some identity => if host.governanceSynced then .ok identity else .error .notSynced

/-- The signed submission of a payload. -/
def Host.signedSubmission (host : Host) (identity : Identity) (payload : TriggerPayload) :
    Submission :=
  let unsigned : Submission :=
    { payloadHex := payload.toHex
      submitter := identity
      creationTime := host.now
      signature := [] }
  { unsigned with signature := host.sign unsigned.signingPayload }

namespace Engine

variable {σ : Type}

/-- The payout total is within the budget of its height. -/
def checkBudget (host : Host) (total : Nat) (height : Height) : Except BudgetError Unit :=
  Allocation.checkTotal total height (host.budgetLimit height)

/-- The trigger of a contract for a height. -/
def prepareTrigger (engine : Engine σ) (host : Host) (height : Height) (contract : Contract) :
    Except SubmitError TriggerPayload := do
  if ¬engine.config.cadence.IsSuperblock height then
    .error (.validation (.notSuperblockHeight height))
  if contract.allocation.isEmpty then .error (.validation .emptyContract)
  (checkBudget host contract.total height).mapError .budget
  TriggerPayload.ofContract contract height host.now (host.budgetLimit height)

/-- Signs a payload and submits it. -/
def submitPayload [Relay σ] (engine : Engine σ) (host : Host) (identity : Identity)
    (payload : TriggerPayload) : Except SubmitError ObjectId × Engine σ :=
  let (result, store, relay) := engine.store.submit engine.relay engine.config.submitRateLimitSecs
    payload (host.signedSubmission identity payload)
  (result, { engine with store, relay })

/-- Submits a contract for a height. -/
def submit [Relay σ] (engine : Engine σ) (host : Host) (height : Height) (contract : Contract) :
    Except SubmitError ObjectId × Engine σ :=
  let prepared : Except SubmitError (Identity × TriggerPayload) := do
    let identity ← host.submitter
    return (identity, ← engine.prepareTrigger host height contract)
  match prepared with
  | .error cause => (.error cause, engine)
  | .ok (identity, payload) => engine.submitPayload host identity payload

/-- Reads a trigger and checks that it may be submitted. -/
def acceptTrigger (engine : Engine σ) (host : Host) (hex : String) :
    Except GovernanceError (Identity × TriggerPayload) := do
  let identity ← host.submitter.mapError .submit
  let payload ← (TriggerPayload.ofHex hex).mapError .validation
  let height := payload.eventHeight
  if ¬engine.config.cadence.IsSuperblock height then
    .error (.validation (.notSuperblockHeight height))
  let payouts ← payload.payouts.mapError .validation
  if payouts.total < Amount.coin then .error (.validation (.belowMinimum payouts.total))
  (checkBudget host payouts.total height).mapError .budget
  return (identity, payload)

/-- Submits a trigger given in hexadecimal. -/
def submitTrigger [Relay σ] (engine : Engine σ) (host : Host) (hex : String) :
    Except GovernanceError ObjectId × Engine σ :=
  match engine.acceptTrigger host hex with
  | .error cause => (.error cause, engine)
  | .ok (identity, payload) =>
    let (result, engine) := engine.submitPayload host identity payload
    (result.mapError .submit, engine)

end Engine

end SuperblockGovernance
