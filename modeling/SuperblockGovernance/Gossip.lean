/-
What nodes send each other: new trigger objects and votes, in their binary forms. An
object is named by the BLAKE3 digest of its submission. The octets that a signature
covers are the binary form without the signature.
-/

import SuperblockGovernance.Digest.Blake3
import SuperblockGovernance.Trigger.Object
import SuperblockGovernance.Vote
import SuperblockGovernance.Wire.Form

namespace SuperblockGovernance

/-- A message between nodes. -/
inductive GossipMessage
  | object (id : ObjectId) (submission : Submission)
  | vote (vote : Vote)
  deriving DecidableEq

/-! ### Binary forms -/

namespace Wire

/-- A hash in its thirty-two octets. -/
def hash : Form Hash256 where
  write := Hash256.toOctets
  read := fun octets => do
    let (digits, rest) ← takeOctets 32 octets
    return (Hash256.ofOctets digits, rest)

/-- An identity by its hash. -/
def identity : Form Identity :=
  hash.map Identity.mk Identity.hash

/-- A fingerprint by its hash. -/
def fingerprint : Form Fingerprint :=
  hash.map Fingerprint.mk Fingerprint.hash

/-- A signal by its number. -/
def signal : Form VoteSignal :=
  .choice (fun | .funding => 0 | .delete => 1)
    (fun octet => if octet = 0 then some .funding else if octet = 1 then some .delete else none)

/-- An outcome by its number. -/
def outcome : Form VoteOutcome :=
  .choice (fun | .yes => 0 | .no => 1 | .abstain => 2)
    (fun octet =>
      if octet = 0 then some .yes
      else if octet = 1 then some .no
      else if octet = 2 then some .abstain
      else none)

/-- What the signature of a vote covers. -/
def votePayload : Form (Identity × ObjectId × VoteSignal × VoteOutcome × Timestamp) :=
  identity.pair (hash.pair (signal.pair (outcome.pair .word64)))

/-- A vote: what is signed, then the signature. -/
def vote : Form Vote :=
  (votePayload.pair .octets).map
    (fun ((voter, object, signal, outcome, timestamp), signature) =>
      ⟨voter, object, signal, outcome, timestamp, signature⟩)
    (fun vote =>
      ((vote.voter, vote.object, vote.signal, vote.outcome, vote.timestamp), vote.signature))

/-- What the signature of a submission covers. -/
def submissionPayload : Form (String × Identity × Timestamp) :=
  Form.text.pair (identity.pair .word64)

/-- A submission: what is signed, then the signature. -/
def submission : Form Submission :=
  (submissionPayload.pair .octets).map
    (fun ((payloadHex, submitter, creationTime), signature) =>
      ⟨payloadHex, submitter, creationTime, signature⟩)
    (fun submission =>
      ((submission.payloadHex, submission.submitter, submission.creationTime),
        submission.signature))

/-- An object with all that it is held with. -/
def triggerObject : Form TriggerObject :=
  (hash.pair (Form.word32.pair (Form.word64.pair (identity.pair (Form.text.pair
    (Form.text.pair (Form.text.pair ((Form.list .text).pair (Form.text.pair .octets))))))))).map
    (fun (id, targetHeight, creationTime, submitter, addresses, amounts, phase, proposalRefs,
        payloadHex, signature) =>
      ⟨id, targetHeight, creationTime, submitter, addresses, amounts, phase, proposalRefs,
        payloadHex, signature⟩)
    (fun object =>
      (object.id, object.targetHeight, object.creationTime, object.submitter, object.addresses,
        object.amounts, object.phase, object.proposalRefs, object.payloadHex, object.signature))

/-- A coinbase output with the text of its payee, which reading does not check. -/
def output : Form (String × Amount) :=
  Form.text.pair .word64

/-- A message: an octet that tells objects from votes, then the content. -/
def message : Form GossipMessage where
  write := fun
    | .object id content => 0 :: (hash.pair submission).write (id, content)
    | .vote content => 1 :: vote.write content
  read := fun
    | 0 :: rest => do
      let ((id, content), rest) ← (hash.pair submission).read rest
      return (.object id content, rest)
    | 1 :: rest => do
      let (content, rest) ← vote.read rest
      return (.vote content, rest)
    | _ => none

end Wire

/-! ### Names and signatures -/

namespace Submission

/-- The octets that the submitter signs. -/
def signingPayload (submission : Submission) : Octets :=
  Wire.submissionPayload.write
    (submission.payloadHex, submission.submitter, submission.creationTime)

/-- The name of the object that the submission creates. -/
def objectId (submission : Submission) : ObjectId :=
  Hash256.ofOctets (Blake3.digest (Wire.submission.write submission))

end Submission

/-- The octets that the voter signs. -/
def Vote.signingPayload (vote : Vote) : Octets :=
  Wire.votePayload.write (vote.voter, vote.object, vote.signal, vote.outcome, vote.timestamp)

end SuperblockGovernance
