/-
A relay queue with its courier on a common timer. Messages are put on the queue, time
passes, and the courier is stopped or left to finish once nobody can put more on the queue.
-/

import SuperblockGovernance.Courier
import SuperblockGovernance.Relay

namespace SuperblockGovernance

/-- The relay of a courier that stopped: nothing is taken any more, and what was left on the queue
is lost. -/
def QueuedRelay.close (_ : QueuedRelay) : QueuedRelay :=
  { queue := [], closed := true }

/-- The relay with what its courier left on the queue. A courier that broke down is not there to
take anything more. -/
def QueuedRelay.leave (relay : QueuedRelay) (courier : Courier) (queue : List GossipMessage) :
    QueuedRelay :=
  if courier.brokeDown then relay.close else { relay with queue }

/-- A queue, its courier and the moment they have come to. -/
structure RelaySession where
  courier : Courier
  relay : QueuedRelay := {}
  now : Nat := 0
  /-- What the courier did, in order. -/
  log : List CourierEvent := []

namespace RelaySession

/-- Lets the courier work up to a limit; the moment stays. -/
def work (session : RelaySession) (limit : Option Nat) : RelaySession × Nat :=
  let (run, queue) := session.courier.work limit session.now session.relay.queue
  ({ session with
      courier := run.courier
      relay := session.relay.leave run.courier queue
      log := session.log ++ run.events }, run.time)

/-- Waits for some time. -/
def wait (session : RelaySession) (span : Duration) : RelaySession :=
  let later := session.courier.timer.ends session.now span
  { (session.work (some later)).1 with now := later }

/-- Waits for whole milliseconds. -/
def pass (session : RelaySession) (milliseconds : UInt64) : RelaySession :=
  session.wait (.ofMilliseconds milliseconds)

/-- Puts an object on the queue. -/
def submitObject (session : RelaySession) (submission : Submission) :
    Except NetworkError ObjectId × RelaySession :=
  let (result, relay) := Relay.submitObject session.relay submission
  (result, { session with relay })

/-- Puts a vote on the queue. -/
def relayVote (session : RelaySession) (vote : Vote) :
    Except NetworkError Unit × RelaySession :=
  let (result, relay) := Relay.relayVote session.relay vote
  (result, { session with relay })

/-- Stops the courier. -/
def stop (session : RelaySession) : RelaySession :=
  if session.courier.stopped then session
  else
    let run := session.courier.stop session.now
    { session with
      courier := run.courier
      relay := session.relay.close
      log := session.log ++ run.events }

/-- Lets the courier deliver all that is on the queue, up to the moment when it is done. -/
def finish (session : RelaySession) : RelaySession :=
  let (session, time) := session.work none
  { session with now := time, relay := session.relay.close }

end RelaySession

end SuperblockGovernance
