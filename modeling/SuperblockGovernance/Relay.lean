/-
The outbound side of governance. A relay takes new objects, which it names, and votes;
it may refuse either. `DirectRelay` keeps what it was handed and can be made to fail, and
`QueuedRelay` puts messages on a queue until the queue is closed.
-/

import SuperblockGovernance.Gossip
import SuperblockGovernance.Failure

namespace SuperblockGovernance

/-- A relay as a machine: its state, and what it answers to a new object and to a vote. -/
class Relay (σ : Type) where
  submitObject : σ → Submission → Except NetworkError ObjectId × σ
  relayVote : σ → Vote → Except NetworkError Unit × σ

/-! ### A relay that records -/

/-- A relay that keeps what it takes, unless it is failing. -/
structure DirectRelay where
  submissions : List Submission := []
  votes : List Vote := []
  failing : Bool := false
  deriving DecidableEq

namespace DirectRelay

/-- The failure of a relay that is down. -/
def down : NetworkError :=
  .relay "mock relay down"

/-- The name of a submission that comes after `earlier` others. -/
def objectId (earlier : Nat) (submission : Submission) : ObjectId :=
  Hash256.ofOctets
    (Blake3.digest (Octets.littleEndian 8 earlier ++ Wire.submission.write submission))

instance : Relay DirectRelay where
  submitObject relay submission :=
    if relay.failing then (.error down, relay)
    else
      (.ok (objectId relay.submissions.length submission),
        { relay with submissions := relay.submissions ++ [submission] })
  relayVote relay vote :=
    if relay.failing then (.error down, relay)
    else (.ok (), { relay with votes := relay.votes ++ [vote] })

end DirectRelay

/-! ### A relay that queues -/

/-- A relay that puts messages on a queue, unless that is closed. -/
structure QueuedRelay where
  queue : List GossipMessage := []
  closed : Bool := false
  deriving DecidableEq

namespace QueuedRelay

/-- Puts a message at the end of the queue. -/
def send (relay : QueuedRelay) (message : GossipMessage) :
    Except NetworkError Unit × QueuedRelay :=
  if relay.closed then (.error .queueClosed, relay)
  else (.ok (), { relay with queue := relay.queue ++ [message] })

instance : Relay QueuedRelay where
  submitObject relay submission :=
    let (sent, relay) := relay.send (.object submission.objectId submission)
    (sent.map fun _ => submission.objectId, relay)
  relayVote relay vote := relay.send (.vote vote)

end QueuedRelay

end SuperblockGovernance
