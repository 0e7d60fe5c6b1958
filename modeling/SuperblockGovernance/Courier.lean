/-
Delivery of queued messages. A courier sends one message at a time, in the order of the
queue. After a failed attempt it waits, each wait twice as long as the one before up to a
greatest one, and a message whose attempts are used up is dropped. The double is made when
the wait is over, and a courier whose wait has no double breaks down then. Sending itself
takes no time.
-/

import SuperblockGovernance.Duration
import SuperblockGovernance.Gossip

namespace SuperblockGovernance

/-- How often a message is sent and how long the waits between are. -/
structure DeliveryRules where
  ofDurations ::
  initialWait : Duration := .ofSeconds 1
  greatestWait : Duration := .ofSeconds 60
  attempts : Nat := 5
  deriving DecidableEq

namespace DeliveryRules

/-- The rules with waits of whole milliseconds. -/
def mk (initialWait greatestWait : UInt64) (attempts : Nat) : DeliveryRules where
  initialWait := .ofMilliseconds initialWait
  greatestWait := .ofMilliseconds greatestWait
  attempts := attempts

/-- The wait that follows another one, if that has a double. -/
def nextWait? (rules : DeliveryRules) (wait : Duration) : Option Duration :=
  wait.double?.map fun doubled => doubled.shorter rules.greatestWait

end DeliveryRules

/-- A message that waits for its next attempt. -/
structure Delivery where
  message : GossipMessage
  /-- The attempts that are left. -/
  left : Nat
  /-- When the next attempt is made. -/
  due : Nat
  /-- The wait for it. -/
  wait : Duration
  deriving DecidableEq

/-- What a courier did at a moment. -/
inductive CourierEvent
  | sent (time : Nat) (message : GossipMessage) (taken : Bool)
  | dropped (time : Nat) (message : GossipMessage)
  deriving DecidableEq

namespace CourierEvent

/-- The moment of an event. -/
def time : CourierEvent → Nat
  | sent time _ _ => time
  | dropped time _ => time

/-- The message, if it was given up on. -/
def dropped? : CourierEvent → Option GossipMessage
  | sent .. => none
  | dropped _ message => some message

/-- The event is an attempt, taken or not. -/
def isSent : CourierEvent → Bool
  | sent .. => true
  | dropped .. => false

end CourierEvent

/-- Who delivers the messages of one queue. -/
structure Courier where
  rules : DeliveryRules
  timer : Timer := .node
  /-- Whether the network takes an attempt, by the number of attempts before it. -/
  takes : Nat → Bool
  /-- The attempts made so far. -/
  made : Nat := 0
  current : Option Delivery := none
  stopped : Bool := false
  /-- A wait had no double, and the courier is gone with the message it was busy with. -/
  brokeDown : Bool := false

namespace Courier

/-- A courier after some time, and what it did then. -/
structure Run where
  courier : Courier
  events : List CourierEvent := []
  /-- When it did the last of it. -/
  time : Nat

/-- The run after an event that came before it. -/
def Run.after (run : Run) (event : CourierEvent) : Run :=
  { run with events := event :: run.events }

/-- The moment is before the limit, if there is one. -/
def Before (time : Nat) (limit : Option Nat) : Prop :=
  ∀ bound ∈ limit, time < bound

instance (time : Nat) : (limit : Option Nat) → Decidable (Before time limit)
  | none => .isTrue fun _ member => nomatch member
  | some bound =>
    if before : time < bound then .isTrue fun _ member => Option.some.inj member ▸ before
    else .isFalse fun all => before (all bound rfl)

/-- A courier breaks down. -/
def breakDown (courier : Courier) (time : Nat) : Run :=
  { courier := { courier with brokeDown := true }, time }

/-- Makes the attempts that are left for a message, the first one now, and stops before one that
is not before the limit. -/
def attempt (courier : Courier) (limit : Option Nat) (message : GossipMessage) :
    (left : Nat) → (wait : Duration) → (time : Nat) → Run
  | 0, _, time => { courier, events := [.dropped time message], time }
  | left + 1, wait, time =>
    let taken := courier.takes courier.made
    let courier := { courier with made := courier.made + 1 }
    let sent : CourierEvent := .sent time message taken
    if taken then { courier, events := [sent], time }
    else if left = 0 then { courier, events := [sent, .dropped time message], time }
    else
      let due := courier.timer.ends time wait
      if Before due limit then
        match courier.rules.nextWait? wait with
        | some wait => (courier.attempt limit message left wait due).after sent
        | none => (courier.breakDown due).after sent
      else
        { courier := { courier with current := some ⟨message, left, due, wait⟩ }
          events := [sent]
          time }

/-- Goes on with a message whose wait is over. -/
def resume (courier : Courier) (limit : Option Nat) (delivery : Delivery) : Run :=
  match courier.rules.nextWait? delivery.wait with
  | some wait => courier.attempt limit delivery.message delivery.left wait delivery.due
  | none => courier.breakDown delivery.due

/-- The courier cannot turn to another message, as it waits or broke down. -/
def isHeld (courier : Courier) : Bool :=
  courier.current.isSome || courier.brokeDown

/-- Delivers messages one after the other from a moment on, as long as no attempt has to wait
past the limit; also gives the messages that are left. -/
def deliver (limit : Option Nat) :
    Courier → Nat → List GossipMessage → Run × List GossipMessage
  | courier, time, [] => ({ courier, time }, [])
  | courier, time, message :: queue =>
    let run := courier.attempt limit message courier.rules.attempts courier.rules.initialWait time
    if run.courier.isHeld then (run, queue)
    else
      let (rest, queue) := deliver limit run.courier run.time queue
      ({ rest with events := run.events ++ rest.events }, queue)

/-- Lets a courier work on a queue from now up to the limit. -/
def work (courier : Courier) (limit : Option Nat) (now : Nat) (queue : List GossipMessage) :
    Run × List GossipMessage :=
  if courier.stopped || courier.brokeDown then ({ courier, time := now }, queue)
  else
    match courier.current with
    | none => deliver limit courier now queue
    | some delivery =>
      if Before delivery.due limit then
        let run := { courier with current := none }.resume limit delivery
        if run.courier.isHeld then (run, queue)
        else
          let (rest, queue) := deliver limit run.courier (max run.time now) queue
          ({ rest with events := run.events ++ rest.events }, queue)
      else ({ courier, time := now }, queue)

/-- Stops a courier; a message that it was busy with is dropped. -/
def stop (courier : Courier) (now : Nat) : Run :=
  { courier := { courier with current := none, stopped := true }
    events := (courier.current.map fun delivery => .dropped now delivery.message).toList
    time := now }

/-- When the courier does something next on its own. -/
def nextDue? (courier : Courier) : Option Nat :=
  courier.current.map Delivery.due

end Courier

end SuperblockGovernance
