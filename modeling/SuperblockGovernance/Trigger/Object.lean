/-
Trigger objects: a submission as it is handed to the relay, and the object that it
becomes under the name the relay gives it. The section texts are kept as they were
received, so an object has the fingerprint that its submitter computed.
-/

import SuperblockGovernance.Trigger.Payload

namespace SuperblockGovernance

/-- What a node hands to the relay to create an object. -/
structure Submission where
  payloadHex : String
  submitter : Identity
  creationTime : Timestamp
  signature : Octets
  deriving DecidableEq

/-- A proposed contract as it was relayed. -/
structure TriggerObject where
  id : ObjectId
  targetHeight : Height
  creationTime : Timestamp
  submitter : Identity
  addresses : String
  amounts : String
  phase : String
  proposalRefs : List String
  payloadHex : String
  signature : Octets
  deriving DecidableEq

namespace TriggerObject

/-- The entries of a proposal list, empty ones left out. -/
def references (proposalHashes : String) : List String :=
  ((Text.pieces '|' proposalHashes.toList).filter (· ≠ [])).map String.ofList

/-- The object that a submission of a payload becomes. -/
def ofSubmission (id : ObjectId) (submission : Submission) (payload : TriggerPayload) :
    TriggerObject :=
  { id
    targetHeight := payload.eventHeight
    creationTime := submission.creationTime
    submitter := submission.submitter
    addresses := payload.addresses
    amounts := payload.amounts
    phase := payload.phase.getD ""
    proposalRefs := references payload.proposalHashes
    payloadHex := submission.payloadHex
    signature := submission.signature }

/-- The fingerprint of the texts as they were received. -/
def fingerprint (object : TriggerObject) : Fingerprint :=
  .ofTexts object.addresses object.amounts object.phase

/-- Reads the payouts from their texts. -/
def payouts (object : TriggerObject) : Except ValidationError Allocation :=
  Allocation.ofTexts object.addresses object.amounts

/-- The payout total, when the payout texts can be read. -/
def total? (object : TriggerObject) : Option Nat :=
  match object.payouts with
  | .ok allocation => some allocation.total
  | .error _ => none

theorem total?_eq_some_iff {object : TriggerObject} {total : Nat} :
    object.total? = some total ↔ ∃ payouts, object.payouts = .ok payouts ∧
      payouts.total = total := by
  rw [total?]
  cases object.payouts with
  | error cause => simp
  | ok payouts => simp

end TriggerObject

end SuperblockGovernance
