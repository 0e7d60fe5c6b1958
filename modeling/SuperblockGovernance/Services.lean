/-
The background services of a node on a common timer: the tick after every new tip and on an
interval, the refresh of the sporks, and the courier of the relay queue, whose dropped
messages the engine forgets. All of them stop at a shutdown.
-/

import SuperblockGovernance.Engine.Receiving
import SuperblockGovernance.Engine.Tick
import SuperblockGovernance.RelaySession

namespace SuperblockGovernance

/-- How often the services do their work. -/
structure ServiceRules where
  ofDurations ::
  /-- Forced ticks when no tip arrives. -/
  tickInterval : Duration := .ofSeconds 2100
  sporkInterval : Duration := .ofSeconds 86400
  delivery : DeliveryRules := {}
  deriving DecidableEq

/-- The rules with intervals of whole milliseconds. -/
def ServiceRules.mk (tickInterval sporkInterval : UInt64) (delivery : DeliveryRules) :
    ServiceRules where
  tickInterval := .ofMilliseconds tickInterval
  sporkInterval := .ofMilliseconds sporkInterval
  delivery := delivery

/-- The services of a node, with their engine and courier, at some moment. -/
structure Services where
  rules : ServiceRules
  engine : Engine QueuedRelay
  courier : Courier
  now : Nat := 0
  nextTick : Nat
  nextRefresh : Nat := 0
  /-- A tip was announced that no tick has seen. -/
  tipAnnounced : Bool := false
  shutdownRequested : Bool := false
  log : List CourierEvent := []

namespace Services

/-- Services at the first moment. -/
def start (rules : ServiceRules) (engine : Engine QueuedRelay) (takes : Nat → Bool)
    (timer : Timer := .node) : Services where
  rules := rules
  engine := engine
  courier := { rules := rules.delivery, timer, takes }
  nextTick := timer.ends 0 rules.tickInterval

/-! ### Requests -/

/-- Announces a new tip. -/
def announceTip (services : Services) : Services :=
  { services with tipAnnounced := true }

/-- Asks the services to stop. -/
def requestShutdown (services : Services) : Services :=
  { services with shutdownRequested := true }

/-- Runs a tick by hand. -/
def tick (services : Services) (host : Host) (force : Bool) : TickReport × Services :=
  let (report, engine) := services.engine.tick host force
  (report, { services with engine })

/-! ### What is due at a moment -/

/-- Takes in what the courier did. -/
def ofRun (services : Services) (run : Courier.Run) (relay : QueuedRelay) : Services :=
  let engine := { services.engine with relay }
  { services with
    courier := run.courier
    engine := (run.events.filterMap CourierEvent.dropped?).foldl Engine.retractMessage engine
    log := services.log ++ run.events }

/-- Stops all services. -/
def stop (services : Services) : Services :=
  services.ofRun (services.courier.stop services.now) services.engine.relay.close

/-- Ticks for an announced tip. -/
def tickForTip (services : Services) (host : Host) : Services :=
  if services.tipAnnounced then
    { (services.tick host false).2 with tipAnnounced := false }
  else services

/-- Ticks when the interval has passed. -/
def tickOnTime (services : Services) (host : Host) : Services :=
  if services.nextTick ≤ services.now then
    { (services.tick host true).2 with
      nextTick := services.courier.timer.ends services.now services.rules.tickInterval }
  else services

/-- Refreshes the sporks when the interval has passed. -/
def refreshOnTime (services : Services) (host : Host) : Services :=
  if services.nextRefresh ≤ services.now then
    { services with
      engine := services.engine.refreshSporks host
      nextRefresh := services.courier.timer.ends services.now services.rules.sporkInterval }
  else services

/-- Lets the courier do what is due now. -/
def sendOnTime (services : Services) : Services :=
  let relay := services.engine.relay
  let (run, queue) := services.courier.work (some (services.now + 1)) services.now relay.queue
  services.ofRun run (relay.leave run.courier queue)

/-- Does everything that is due now. -/
def settle (services : Services) (host : Host) : Services :=
  if services.courier.stopped then services
  else if services.shutdownRequested then services.stop
  else (((services.tickForTip host).tickOnTime host).refreshOnTime host).sendOnTime

/-! ### Time -/

/-- The next moment at which something is due. -/
def nextDue (services : Services) : Nat :=
  let due := min services.nextTick services.nextRefresh
  (services.courier.nextDue?.map (min due)).getD due

/-- Does everything that is due from now on and before a deadline. -/
def runUntil (host : Host) (deadline : Nat) (services : Services) (now : Nat) : Services :=
  let settled := settle { services with now } host
  if later : now < settled.nextDue ∧ settled.nextDue < deadline ∧ ¬settled.courier.stopped then
    have : deadline - settled.nextDue < deadline - now :=
      Nat.sub_lt_sub_left (Nat.lt_trans later.1 later.2.1) later.1
    runUntil host deadline settled settled.nextDue
  else { settled with now := deadline }
termination_by deadline - now

/-- Waits for whole milliseconds. -/
def pass (services : Services) (host : Host) (milliseconds : UInt64) : Services :=
  let later := services.courier.timer.ends services.now (.ofMilliseconds milliseconds)
  runUntil host later services services.now

/-- Shuts the services down. -/
def shutdown (services : Services) (host : Host) : Services :=
  services.requestShutdown.settle host

end Services

end SuperblockGovernance
