/-
What reaches a node from others: trigger objects and votes, alone or as messages in binary
form. An object needs a superblock height within the horizon and a verified submitter, a
vote needs a known object and a verified voter. The relay may also give up on a message of
this node, which is then forgotten.
-/

import SuperblockGovernance.Engine

namespace SuperblockGovernance.Engine

variable {σ : Type}

/-! ### Objects and votes -/

/-- The farthest superblock whose objects are taken; there is none without a tip. -/
def horizon (engine : Engine σ) (host : Host) : Option Height :=
  (engine.superblockHeights host).map fun (_, next) =>
    UInt32.ofNat (min (next.toNat + engine.config.cycleLength.toNat) (2 ^ 32 - 1))

/-- The height may carry an object that is received. -/
def checkHorizon (engine : Engine σ) (host : Host) (height : Height) :
    Except ValidationError Unit :=
  if ¬engine.config.cadence.IsSuperblock height then .error (.notSuperblockHeight height)
  else
    match engine.horizon host with
    | none => .ok ()
    | some horizon => if horizon < height then .error (.beyondHorizon height horizon) else .ok ()

/-- Reads a submission and checks it as it is received. -/
def acceptSubmission (engine : Engine σ) (host : Host) (submission : Submission) :
    Except GovernanceError TriggerPayload := do
  let payload ← (TriggerPayload.ofHex submission.payloadHex).mapError .validation
  (engine.checkHorizon host payload.eventHeight).mapError .validation
  if host.verifySubmission submission &&
      host.isValidIdentity submission.submitter payload.eventHeight then
    return payload
  else .error (.quorum (.invalidVoter submission.submitter))

/-- Takes in a trigger object; says whether it was new. -/
def receiveObject (engine : Engine σ) (host : Host) (id : ObjectId) (submission : Submission) :
    Except GovernanceError Bool × Engine σ :=
  match engine.acceptSubmission host submission with
  | .error cause => (.error cause, engine)
  | .ok payload =>
    let (isNew, store) := engine.store.insert (.ofSubmission id submission payload)
    (.ok isNew, { engine with store })

/-- Checks a vote as it is received. -/
def acceptVote (engine : Engine σ) (host : Host) (vote : Vote) : Except QuorumError Unit :=
  match engine.store.get? vote.object with
  | none => .error (.unknownObject vote.object)
  | some object =>
    if host.verifyVote vote && host.isValidIdentity vote.voter object.targetHeight then .ok ()
    else .error (.invalidVoter vote.voter)

/-- Takes in a vote; says whether it is now held. -/
def receiveVote (engine : Engine σ) (host : Host) (vote : Vote) :
    Except QuorumError Bool × Engine σ :=
  match engine.acceptVote host vote with
  | .error cause => (.error cause, engine)
  | .ok () =>
    let (held, store) := engine.store.recordVote vote
    (.ok held, { engine with store })

/-! ### Messages -/

/-- Takes in a message. The name of an object has to be that of its content. -/
def receiveMessage (engine : Engine σ) (host : Host) :
    GossipMessage → Except GovernanceError Bool × Engine σ
  | .object id submission =>
    if submission.objectId = id then engine.receiveObject host id submission
    else (.error (.validation (.malformedPayload "object id does not match content")), engine)
  | .vote vote =>
    let (result, engine) := engine.receiveVote host vote
    (result.mapError .quorum, engine)

/-- Takes in the message that some octets start with. -/
def receiveOctets (engine : Engine σ) (host : Host) (octets : Octets) :
    Except GovernanceError Bool × Engine σ :=
  match Wire.message.read octets with
  | none => (.error (.validation (.malformedPayload "governance message")), engine)
  | some (message, _) => engine.receiveMessage host message

/-! ### Messages that were not delivered -/

/-- Forgets a vote, so that it is cast again. -/
def retractVote (engine : Engine σ) (vote : Vote) : Engine σ :=
  { engine with store := (engine.store.retractVote vote).2 }

/-- Forgets an object, so that it can be created again. -/
def retractObject (engine : Engine σ) (id : ObjectId) : Engine σ :=
  { engine with store := (engine.store.retractObject id).2 }

/-- Forgets what a message announced. -/
def retractMessage (engine : Engine σ) : GossipMessage → Engine σ
  | .object id _ => engine.retractObject id
  | .vote vote => engine.retractVote vote

end SuperblockGovernance.Engine
