/-
What becomes of queued messages. A courier tries one message until it is taken or its attempts are
used up, and only then turns to the next one. So its log falls into one piece for each message, in
the order of the queue: the attempts that were refused, and at the end either the one that was taken
or the message given up. This holds whenever messages are put on the queue, with any timer and
however time passes between, as a courier that waits stands in the middle of such a piece. A courier
that is left to finish does not wait for anybody, so then no piece is open, unless a wait came up
that has no double: there the courier breaks down, and that message and those behind it are lost.
-/

import SuperblockGovernance.RelaySession

namespace SuperblockGovernance

/-! ### Waits -/

namespace DeliveryRules

/-- The wait after a failed attempt, by the number of failures before it. -/
def waitAfter (rules : DeliveryRules) (failures : Nat) : Duration where
  nanoseconds := min (rules.initialWait.nanoseconds * 2 ^ failures) rules.greatestWait.nanoseconds
  inRange := Nat.lt_of_le_of_lt (Nat.min_le_right _ _) rules.greatestWait.inRange

/-- The wait after a failed attempt has a double, so there can be another one. -/
def Doubles (rules : DeliveryRules) (failures : Nat) : Prop :=
  (rules.waitAfter failures).nanoseconds * 2 < 2 ^ 64 * 10 ^ 9

/-- When an attempt is made for a message that was first tried at `start`, by the number of failures
before it. -/
def moment (rules : DeliveryRules) (timer : Timer) (start : Nat) : Nat → Nat
  | 0 => start
  | failures + 1 => timer.ends (rules.moment timer start failures) (rules.waitAfter failures)

variable {rules : DeliveryRules} {failures : Nat}

theorem waitAfter_zero (ordered : rules.initialWait ≤ rules.greatestWait) :
    rules.waitAfter 0 = rules.initialWait := by
  ext
  have first : rules.initialWait.nanoseconds * 2 ^ 0 = rules.initialWait.nanoseconds :=
    Nat.mul_one _
  exact (congrArg (min · _) first).trans (Nat.min_eq_left ordered)

theorem nextWait?_of_doubles (doubles : rules.Doubles failures) :
    rules.nextWait? (rules.waitAfter failures) = some (rules.waitAfter (failures + 1)) := by
  have doubled : (rules.waitAfter failures).double? = some ⟨_, doubles⟩ :=
    Duration.double?_eq_some_iff.mpr rfl
  rw [nextWait?, doubled, Option.map_some]
  congr 1
  ext
  rw [Duration.nanoseconds_shorter]
  simp only [waitAfter, Nat.pow_succ, ← Nat.mul_assoc]
  omega

theorem nextWait?_of_not_doubles (long : ¬rules.Doubles failures) :
    rules.nextWait? (rules.waitAfter failures) = none := by
  rw [nextWait?, Duration.double?_eq_none_iff.mpr (Nat.le_of_not_lt long), Option.map_none]

/-- With a greatest wait that has a double, every wait has one. -/
theorem doubles_of_short (short : rules.greatestWait.nanoseconds * 2 < 2 ^ 64 * 10 ^ 9) :
    rules.Doubles failures := by
  have bounded : (rules.waitAfter failures).nanoseconds ≤ rules.greatestWait.nanoseconds :=
    Nat.min_le_right _ _
  rw [Doubles]
  omega

end DeliveryRules

/-! ### Single attempts -/

namespace Courier

variable {courier : Courier} {limit : Option Nat} {message : GossipMessage}
variable {left time : Nat} {wait next : Duration} {delivery : Delivery}

theorem attempt_of_taken (taken : courier.takes courier.made = true) :
    courier.attempt limit message (left + 1) wait time =
      { courier := { courier with made := courier.made + 1 }
        events := [.sent time message true]
        time } := by
  simp only [attempt, taken, if_true]

theorem attempt_last (refused : courier.takes courier.made = false) :
    courier.attempt limit message 1 wait time =
      { courier := { courier with made := courier.made + 1 }
        events := [.sent time message false, .dropped time message]
        time } := by
  simp only [attempt, refused, Bool.false_eq_true, if_false, if_true]

theorem resume_of_next (doubles : courier.rules.nextWait? delivery.wait = some next) :
    courier.resume limit delivery =
      courier.attempt limit delivery.message delivery.left next delivery.due := by
  rw [resume, doubles]

theorem resume_of_no_next (broken : courier.rules.nextWait? delivery.wait = none) :
    courier.resume limit delivery = courier.breakDown delivery.due := by
  rw [resume, broken]

theorem attempt_again (refused : courier.takes courier.made = false)
    (before : Before (courier.timer.ends time wait) limit) :
    courier.attempt limit message (left + 2) wait time =
      ({ courier with made := courier.made + 1 }.resume limit
        ⟨message, left + 1, courier.timer.ends time wait, wait⟩).after
          (.sent time message false) := by
  rw [attempt]
  simp only [refused, Bool.false_eq_true, if_false, Nat.succ_ne_zero, before, if_true]
  cases next : courier.rules.nextWait? wait with
  | none => rw [resume_of_no_next next]
  | some wait => rw [resume_of_next next]

theorem attempt_waits (refused : courier.takes courier.made = false)
    (late : ¬Before (courier.timer.ends time wait) limit) :
    courier.attempt limit message (left + 2) wait time =
      { courier :=
          { courier with
            made := courier.made + 1
            current := some ⟨message, left + 1, courier.timer.ends time wait, wait⟩ }
        events := [.sent time message false]
        time } := by
  rw [attempt]
  simp only [refused, Bool.false_eq_true, if_false, Nat.succ_ne_zero, late]

theorem work_of_brokeDown (broke : courier.brokeDown = true) (limit : Option Nat) (now : Nat)
    (queue : List GossipMessage) :
    courier.work limit now queue = ({ courier, time := now }, queue) := by
  rw [work, broke, Bool.or_true, if_pos rfl]

theorem before_none (time : Nat) : Before time none :=
  fun _ member => absurd member (Option.not_mem_none _)

end Courier

/-! ### Messages that were carried -/

/-- What became of a message: when it was first tried, how often it was refused, and whether it was
taken in the end. -/
structure Carriage where
  message : GossipMessage
  start : Nat
  failures : Nat
  delivered : Bool

/-- Attempts that were refused, one after the other. -/
def refusals (rules : DeliveryRules) (timer : Timer) (message : GossipMessage)
    (start failures : Nat) : List CourierEvent :=
  (List.range failures).map fun earlier => .sent (rules.moment timer start earlier) message false

namespace Carriage

/-- What ended the carriage. A message is given up right after its last attempt. -/
def ending (rules : DeliveryRules) (timer : Timer) (carriage : Carriage) : CourierEvent :=
  if carriage.delivered then
    .sent (rules.moment timer carriage.start carriage.failures) carriage.message true
  else .dropped (rules.moment timer carriage.start (carriage.failures - 1)) carriage.message

/-- What a courier did with the message. -/
def events (rules : DeliveryRules) (timer : Timer) (carriage : Carriage) : List CourierEvent :=
  refusals rules timer carriage.message carriage.start carriage.failures ++
    [carriage.ending rules timer]

/-- The attempts that were made. -/
def attempts (carriage : Carriage) : Nat :=
  carriage.failures + carriage.delivered.toNat

/-- The answers of the network after some attempts for other messages: each failure was refused, and
the message was taken before its attempts were used up, or else they were all refused. Every wait
between two attempts had a double. -/
structure Fits (rules : DeliveryRules) (takes : Nat → Bool) (made : Nat) (carriage : Carriage) :
    Prop where
  refused : ∀ earlier < carriage.failures, takes (made + earlier) = false
  taken : carriage.delivered = true →
    carriage.failures < rules.attempts ∧ takes (made + carriage.failures) = true
  givenUp : carriage.delivered = false → carriage.failures = rules.attempts
  doubles : ∀ earlier, earlier + 1 < carriage.attempts → rules.Doubles earlier

end Carriage

/-- The messages that were carried, one after the other, and the attempts that were made for all
of them. -/
inductive Carried (rules : DeliveryRules) (takes : Nat → Bool) : List Carriage → Nat → Prop
  | nil : Carried rules takes [] 0
  | next {carriages : List Carriage} {made : Nat} {carriage : Carriage} :
      Carried rules takes carriages made → carriage.Fits rules takes made →
        Carried rules takes (carriages ++ [carriage]) (made + carriage.attempts)

/-- A courier breaks down at a message after some attempts for others: that many failures were each
followed by one more, and the wait after the last of them, which another attempt would follow, has
no double. -/
structure BreaksDown (rules : DeliveryRules) (takes : Nat → Bool) (made failures : Nat) :
    Prop where
  refused : ∀ earlier < failures + 1, takes (made + earlier) = false
  left : failures + 1 < rules.attempts
  doubles : ∀ earlier < failures, rules.Doubles earlier
  long : ¬rules.Doubles failures

/-- Where a courier stands, with its log and the messages that it has turned to: between two
messages, or with the last of them, waiting after failed attempts or broken down. -/
inductive Stands (rules : DeliveryRules) (timer : Timer) (takes : Nat → Bool) :
    Courier → List CourierEvent → List GossipMessage → Prop
  | idle {carriages : List Carriage} {made : Nat} : Carried rules takes carriages made →
      Stands rules timer takes { rules, timer, takes, made }
        (carriages.flatMap (Carriage.events rules timer)) (carriages.map Carriage.message)
  | busy {carriages : List Carriage} {made failures left start : Nat} {message : GossipMessage} :
      Carried rules takes carriages made → failures + 1 + (left + 1) = rules.attempts →
        (∀ earlier < failures + 1, takes (made + earlier) = false) →
        (∀ earlier < failures, rules.Doubles earlier) →
        Stands rules timer takes
          { rules, timer, takes, made := made + (failures + 1)
            current := some ⟨message, left + 1, rules.moment timer start (failures + 1),
              rules.waitAfter failures⟩ }
          (carriages.flatMap (Carriage.events rules timer) ++
            refusals rules timer message start (failures + 1))
          (carriages.map Carriage.message ++ [message])
  | broken {carriages : List Carriage} {made failures start : Nat} {message : GossipMessage} :
      Carried rules takes carriages made → BreaksDown rules takes made failures →
        Stands rules timer takes
          { rules, timer, takes, made := made + (failures + 1), brokeDown := true }
          (carriages.flatMap (Carriage.events rules timer) ++
            refusals rules timer message start (failures + 1))
          (carriages.map Carriage.message ++ [message])

namespace Stands

variable {rules : DeliveryRules} {timer : Timer} {takes : Nat → Bool} {carriages : List Carriage}
variable {made failures left start now : Nat} {message : GossipMessage} {limit : Option Nat}
variable {courier : Courier} {log : List CourierEvent} {turned queue : List GossipMessage}
variable {run : Courier.Run} {event : CourierEvent}

/-- A run leads from a log to where a courier stands with the messages that it has turned to.
Without a limit it waits for nothing in the end. -/
def Leads (rules : DeliveryRules) (timer : Timer) (takes : Nat → Bool) (limit : Option Nat)
    (log : List CourierEvent) (turned : List GossipMessage) (run : Courier.Run) : Prop :=
  Stands rules timer takes run.courier (log ++ run.events) turned ∧
    (limit = none → run.courier.current = none)

theorem leads_after (leads : Leads rules timer takes limit (log ++ [event]) turned run) :
    Leads rules timer takes limit log turned (run.after event) := by
  rw [Leads, List.append_assoc] at leads
  exact leads

theorem refusals_zero : refusals rules timer message start 0 = [] :=
  rfl

theorem refusals_succ : refusals rules timer message start (failures + 1) =
    refusals rules timer message start failures ++
      [.sent (rules.moment timer start failures) message false] := by
  rw [refusals, List.range_succ, List.map_append]
  rfl

/-- One message is done with. -/
theorem ended (timer : Timer) {carriage : Carriage} (carried : Carried rules takes carriages made)
    (fits : carriage.Fits rules takes made) :
    Stands rules timer takes { rules, timer, takes, made := made + carriage.attempts }
      (carriages.flatMap (Carriage.events rules timer) ++
        refusals rules timer carriage.message carriage.start carriage.failures ++
          [carriage.ending rules timer])
      (carriages.map Carriage.message ++ [carriage.message]) := by
  have idle : Stands rules timer takes _ _ _ := .idle (carried.next fits)
  rw [List.flatMap_append, List.flatMap_singleton, List.map_append] at idle
  rw [List.append_assoc]
  exact idle

theorem forall_lt_succ {holds : Nat → Prop} (before : ∀ earlier < failures, holds earlier)
    (last : holds failures) : ∀ earlier < failures + 1, holds earlier := by
  intro earlier below
  rcases Nat.lt_succ_iff_lt_or_eq.mp below with within | rfl
  · exact before earlier within
  · exact last

/-- After a wait, a courier goes on with the attempts that are left, or it breaks down. -/
theorem resume (carried : Carried rules takes carriages made)
    (total : failures + 1 + (left + 1) = rules.attempts)
    (refused : ∀ earlier < failures + 1, takes (made + earlier) = false)
    (doubles : ∀ earlier < failures, rules.Doubles earlier)
    (goesOn : rules.Doubles failures → Leads rules timer takes limit
      (carriages.flatMap (Carriage.events rules timer) ++
        refusals rules timer message start (failures + 1))
      (carriages.map Carriage.message ++ [message])
      (Courier.attempt { rules, timer, takes, made := made + (failures + 1) } limit message
        (left + 1) (rules.waitAfter (failures + 1)) (rules.moment timer start (failures + 1)))) :
    Leads rules timer takes limit
      (carriages.flatMap (Carriage.events rules timer) ++
        refusals rules timer message start (failures + 1))
      (carriages.map Carriage.message ++ [message])
      (Courier.resume { rules, timer, takes, made := made + (failures + 1) } limit
        ⟨message, left + 1, rules.moment timer start (failures + 1),
          rules.waitAfter failures⟩) := by
  by_cases last : rules.Doubles failures
  · rw [Courier.resume_of_next]
    · exact goesOn last
    · exact DeliveryRules.nextWait?_of_doubles last
  · have breaksDown : BreaksDown rules takes made failures := ⟨refused, by omega, doubles, last⟩
    rw [Courier.resume_of_no_next]
    · refine ⟨?_, fun _ => rfl⟩
      rw [Courier.breakDown, List.append_nil]
      exact broken carried breaksDown
    · exact DeliveryRules.nextWait?_of_not_doubles last

/-- The attempts for one message, from some failures on, end with it or leave the courier waiting or
broken down. -/
theorem attempt (failures : Nat) (carried : Carried rules takes carriages made)
    (total : failures + left = rules.attempts) (begun : left = 0 → failures = 0)
    (refused : ∀ earlier < failures, takes (made + earlier) = false)
    (doubles : ∀ earlier < failures, rules.Doubles earlier) :
    Leads rules timer takes limit
      (carriages.flatMap (Carriage.events rules timer) ++
        refusals rules timer message start failures)
      (carriages.map Carriage.message ++ [message])
      (Courier.attempt { rules, timer, takes, made := made + failures } limit message left
        (rules.waitAfter failures) (rules.moment timer start failures)) := by
  induction left generalizing failures with
  | zero =>
    obtain rfl := begun rfl
    have fits : (Carriage.mk message start 0 false).Fits rules takes made :=
      ⟨refused, nofun, fun _ => total, nofun⟩
    exact ⟨ended timer carried fits, fun _ => rfl⟩
  | succ left inductionHypothesis =>
    cases answer : takes (made + failures) with
    | true =>
      have left : failures < rules.attempts := by omega
      have fits : (Carriage.mk message start failures true).Fits rules takes made :=
        ⟨refused, fun _ => ⟨left, answer⟩, nofun, fun _ below =>
          doubles _ (Nat.lt_of_succ_lt_succ below)⟩
      rw [Courier.attempt_of_taken answer]
      exact ⟨ended timer carried fits, fun _ => rfl⟩
    | false =>
      have allRefused := forall_lt_succ refused answer
      cases left with
      | zero =>
        have fits : (Carriage.mk message start (failures + 1) false).Fits rules takes made :=
          ⟨allRefused, nofun, fun _ => total, fun _ below =>
            doubles _ (Nat.lt_of_succ_lt_succ below)⟩
        have done := ended timer carried fits
        rw [refusals_succ, ← List.append_assoc, List.append_assoc] at done
        rw [Courier.attempt_last answer]
        exact ⟨done, fun _ => rfl⟩
      | succ left =>
        by_cases before : Courier.Before (rules.moment timer start (failures + 1)) limit
        · have resumed := resume carried (by omega) allRefused doubles fun last =>
            inductionHypothesis (failures + 1) (by omega) nofun allRefused
              (forall_lt_succ doubles last)
          rw [refusals_succ, ← List.append_assoc] at resumed
          rw [Courier.attempt_again answer before]
          exact leads_after resumed
        · have waits := @busy rules timer takes _ _ failures left start message carried (by omega)
            allRefused doubles
          rw [refusals_succ, ← List.append_assoc] at waits
          rw [Courier.attempt_waits answer before]
          refine ⟨waits, ?_⟩
          rintro rfl
          exact absurd (Courier.before_none _) before

/-- A courier between two messages turns to the next one. -/
theorem turn (ordered : rules.initialWait ≤ rules.greatestWait)
    (stands : Stands rules timer takes courier log turned) (free : courier.isHeld = false)
    (limit : Option Nat) (message : GossipMessage) (now : Nat) :
    Leads rules timer takes limit log (turned ++ [message])
      (courier.attempt limit message courier.rules.attempts courier.rules.initialWait now) := by
  cases stands with
  | busy => exact absurd free (by simp [Courier.isHeld])
  | broken => exact absurd free (by simp [Courier.isHeld])
  | @idle _ made carried =>
    have leads := @attempt rules timer takes _ made rules.attempts now message limit 0 carried
      (Nat.zero_add _) (fun _ => rfl) (fun _ below => absurd below (Nat.not_lt_zero _))
      fun _ below => absurd below (Nat.not_lt_zero _)
    rw [refusals_zero, List.append_nil, DeliveryRules.waitAfter_zero ordered] at leads
    exact leads

/-- A courier that waits goes on with its message. -/
theorem goOn {delivery : Delivery} (stands : Stands rules timer takes courier log turned)
    (busy : courier.current = some delivery) (limit : Option Nat) :
    Leads rules timer takes limit log turned
      (Courier.resume { courier with current := none } limit delivery) := by
  cases stands with
  | idle => cases busy
  | broken => cases busy
  | busy carried total refused doubles =>
    cases busy
    exact resume carried total refused doubles fun last =>
      attempt _ carried total (fun none => absurd none (Nat.succ_ne_zero _)) refused
        (forall_lt_succ doubles last)

/-- A courier comes to turn to more messages, off the front of a queue. Without a limit it waits
for nothing in the end, and no message is left unless it broke down. -/
def Advances (rules : DeliveryRules) (timer : Timer) (takes : Nat → Bool) (limit : Option Nat)
    (log : List CourierEvent) (turned queue : List GossipMessage)
    (result : Courier.Run × List GossipMessage) : Prop :=
  ∃ more, queue = more ++ result.2 ∧
    Stands rules timer takes result.1.courier (log ++ result.1.events) (turned ++ more) ∧
    (limit = none → result.1.courier.current = none ∧
      (result.1.courier.brokeDown = false → result.2 = []))

/-- A courier goes on with the queue if nothing holds it. -/
theorem advances_of_run {later : Courier.Run × List GossipMessage}
    (leads : Leads rules timer takes limit log turned run)
    (advances : run.courier.isHeld = false →
      Advances rules timer takes limit (log ++ run.events) turned queue later) :
    Advances rules timer takes limit log turned queue
      (if run.courier.isHeld then (run, queue)
      else ({ later.1 with events := run.events ++ later.1.events }, later.2)) := by
  obtain ⟨stands, unhindered⟩ := leads
  split
  · rename_i held
    refine ⟨[], rfl, by rwa [List.append_nil], fun unlimited => ⟨unhindered unlimited, ?_⟩⟩
    intro intact
    rw [Courier.isHeld, unhindered unlimited, intact] at held
    cases held
  · rename_i free
    obtain ⟨more, same, stands', ended⟩ := advances (eq_false_of_ne_true free)
    rw [List.append_assoc] at stands'
    exact ⟨more, same, stands', ended⟩

/-- A courier between two messages delivers from the queue until something holds it. -/
theorem deliver (ordered : rules.initialWait ≤ rules.greatestWait)
    (stands : Stands rules timer takes courier log turned) (free : courier.isHeld = false)
    (limit : Option Nat) (now : Nat) (queue : List GossipMessage) :
    Advances rules timer takes limit log turned queue
      (Courier.deliver limit courier now queue) := by
  induction queue generalizing courier log turned now with
  | nil =>
    rw [Courier.isHeld, Bool.or_eq_false_iff, Option.isSome_eq_false_iff,
      Option.isNone_iff_eq_none] at free
    refine ⟨[], rfl, ?_, fun _ => ⟨free.1, fun _ => rfl⟩⟩
    rw [List.append_nil]
    exact (List.append_nil log).symm ▸ stands
  | cons message queue inductionHypothesis =>
    have turned' := turn ordered stands free limit message now
    obtain ⟨more, same, stands', ended⟩ := advances_of_run turned' fun free' =>
      inductionHypothesis turned'.1 free' _
    rw [List.append_assoc] at stands'
    exact ⟨message :: more, congrArg (message :: ·) same, stands', ended⟩

theorem stopped_eq (stands : Stands rules timer takes courier log turned) :
    courier.stopped = false := by
  cases stands <;> rfl

theorem current_of_brokeDown (stands : Stands rules timer takes courier log turned)
    (broke : courier.brokeDown = true) : courier.current = none := by
  cases stands with
  | idle => rfl
  | busy => cases broke
  | broken => rfl

/-- A courier that works on a queue takes messages off its front. -/
theorem work (ordered : rules.initialWait ≤ rules.greatestWait)
    (stands : Stands rules timer takes courier log turned) (limit : Option Nat) (now : Nat)
    (queue : List GossipMessage) :
    Advances rules timer takes limit log turned queue (courier.work limit now queue) := by
  cases broke : courier.brokeDown with
  | true =>
    rw [Courier.work_of_brokeDown broke]
    refine ⟨[], rfl, by rwa [List.append_nil, List.append_nil], fun _ => ⟨?_, ?_⟩⟩
    · exact stands.current_of_brokeDown broke
    · exact fun intact => absurd (broke.symm.trans intact) (by decide)
  | false =>
    rw [Courier.work, if_neg (by simp [stands.stopped_eq, broke])]
    split
    · rename_i free
      exact deliver ordered stands (by rw [Courier.isHeld, free, broke]; rfl) limit now queue
    rename_i delivery busy
    by_cases before : Courier.Before delivery.due limit
    · have resumed := goOn stands busy limit
      rw [if_pos before]
      exact advances_of_run resumed fun free => deliver ordered resumed.1 free limit _ queue
    · rw [if_neg before]
      refine ⟨[], rfl, by rwa [List.append_nil, List.append_nil], ?_⟩
      rintro rfl
      exact absurd (Courier.before_none _) before

end Stands

/-! ### Sessions -/

/-- What is done with a queue while its courier works. -/
inductive QueueCall
  | submitObject (submission : Submission)
  | relayVote (vote : Vote)
  | wait (span : Duration)

/-- The message that a call puts on the queue. -/
def QueueCall.message? : QueueCall → Option GossipMessage
  | submitObject submission => some (.object submission.objectId submission)
  | relayVote vote => some (.vote vote)
  | wait _ => none

theorem QueuedRelay.closed_leave (relay : QueuedRelay) (courier : Courier)
    (queue : List GossipMessage) :
    (relay.leave courier queue).closed = (relay.closed || courier.brokeDown) := by
  rw [leave]
  cases courier.brokeDown with
  | true => exact (Bool.or_true _).symm
  | false => exact (Bool.or_false _).symm

theorem QueuedRelay.queue_leave (relay : QueuedRelay) (courier : Courier)
    (queue : List GossipMessage) :
    (relay.leave courier queue).queue = if courier.brokeDown then [] else queue := by
  rw [leave]
  cases courier.brokeDown <;> rfl

namespace RelaySession

/-- The session after a call. -/
def perform (session : RelaySession) : QueueCall → RelaySession
  | .submitObject submission => (session.submitObject submission).2
  | .relayVote vote => (session.relayVote vote).2
  | .wait span => session.wait span

/-- The session of a new queue. -/
def started (rules : DeliveryRules) (timer : Timer) (takes : Nat → Bool) : RelaySession :=
  { courier := { rules, timer, takes } }

/-- A session of calls, after which nothing more is put on the queue and the courier finishes. -/
def finished (rules : DeliveryRules) (timer : Timer) (takes : Nat → Bool)
    (calls : List QueueCall) : RelaySession :=
  (calls.foldl perform (started rules timer takes)).finish

/-- The courier has turned to some of the messages, and the others wait on the open queue, or they
are lost as the courier broke down. -/
structure Underway (rules : DeliveryRules) (timer : Timer) (takes : Nat → Bool)
    (messages : List GossipMessage) (session : RelaySession) : Prop where
  closed_eq : session.relay.closed = session.courier.brokeDown
  emptied : session.courier.brokeDown = true → session.relay.queue = []
  stands : ∃ turned behind, Stands rules timer takes session.courier session.log turned ∧
    messages = turned ++ behind ∧
    (session.courier.brokeDown = false → behind = session.relay.queue)

variable {rules : DeliveryRules} {timer : Timer} {takes : Nat → Bool}
variable {messages : List GossipMessage} {session : RelaySession}

theorem underway_started (rules : DeliveryRules) (timer : Timer) (takes : Nat → Bool) :
    Underway rules timer takes [] (started rules timer takes) where
  closed_eq := rfl
  emptied := nofun
  stands := ⟨[], [], .idle .nil, rfl, fun _ => rfl⟩

theorem Underway.work (ordered : rules.initialWait ≤ rules.greatestWait)
    (underway : Underway rules timer takes messages session) (limit : Option Nat) :
    Underway rules timer takes messages (session.work limit).1 ∧
      (limit = none → (session.work limit).1.courier.current = none ∧
        (session.work limit).1.relay.queue = []) := by
  obtain ⟨turned, behind, stands, same, waiting⟩ := underway.stands
  obtain ⟨more, taken, stands', ended⟩ := stands.work ordered limit session.now session.relay.queue
  have stays : session.courier.brokeDown = true →
      (session.work limit).1.courier.brokeDown = true := by
    intro broke
    rw [RelaySession.work, Courier.work_of_brokeDown broke]
    exact broke
  have queue : (session.work limit).1.relay.queue =
      if (session.work limit).1.courier.brokeDown then []
      else (session.courier.work limit session.now session.relay.queue).2 :=
    QueuedRelay.queue_leave _ _ _
  refine ⟨⟨?_, fun broke => by rw [queue, if_pos broke], ?_⟩, fun unlimited => ?_⟩
  · have closed : (session.work limit).1.relay.closed =
        (session.relay.closed || (session.work limit).1.courier.brokeDown) :=
      QueuedRelay.closed_leave _ _ _
    rw [closed, underway.closed_eq]
    exact Bool.or_eq_right_iff_imp.mpr stays
  · cases broke : session.courier.brokeDown with
    | false =>
      refine ⟨turned ++ more, (session.courier.work limit session.now session.relay.queue).2,
        stands', ?_, fun intact => ?_⟩
      · rw [same, waiting broke, List.append_assoc, ← taken]
      · rw [queue, if_neg (by simp [intact])]
    | true =>
      have none : more = [] :=
        (List.append_eq_nil_iff.mp (taken.symm.trans (underway.emptied broke))).1
      rw [none, List.append_nil] at stands'
      exact ⟨turned, behind, stands', same, fun intact =>
        absurd ((stays broke).symm.trans intact) (by decide)⟩
  · obtain ⟨free, empty⟩ := ended unlimited
    refine ⟨free, ?_⟩
    rw [queue]
    split
    · rfl
    · rename_i intact
      exact empty (eq_false_of_ne_true intact)

theorem Underway.send (underway : Underway rules timer takes messages session)
    (message : GossipMessage) :
    Underway rules timer takes (messages ++ [message])
      { session with relay := (session.relay.send message).2 } := by
  obtain ⟨turned, behind, stands, same, waiting⟩ := underway.stands
  have closed := underway.closed_eq
  rw [QueuedRelay.send]
  cases broke : session.courier.brokeDown with
  | true =>
    rw [if_pos (closed.trans broke)]
    exact ⟨closed, underway.emptied, turned, behind ++ [message], stands,
      by rw [same, List.append_assoc], fun intact =>
        absurd (broke.symm.trans intact) (by decide)⟩
  | false =>
    rw [if_neg (by simp [closed, broke])]
    exact ⟨closed, fun broken => absurd (broken.symm.trans broke) (by decide), turned, _,
      stands, by rw [same, List.append_assoc], fun intact => by rw [waiting intact]⟩

theorem Underway.perform (ordered : rules.initialWait ≤ rules.greatestWait)
    (underway : Underway rules timer takes messages session) (call : QueueCall) :
    Underway rules timer takes (messages ++ call.message?.toList) (session.perform call) := by
  cases call with
  | submitObject submission => exact underway.send _
  | relayVote vote => exact underway.send _
  | wait span =>
    have worked := (underway.work ordered (some (session.courier.timer.ends session.now span))).1
    rw [QueueCall.message?, Option.toList_none, List.append_nil]
    exact ⟨worked.closed_eq, worked.emptied, worked.stands⟩

theorem underway_foldl (ordered : rules.initialWait ≤ rules.greatestWait)
    (underway : Underway rules timer takes messages session) (calls : List QueueCall) :
    Underway rules timer takes (messages ++ calls.filterMap QueueCall.message?)
      (calls.foldl RelaySession.perform session) := by
  induction calls generalizing session messages with
  | nil => rwa [List.filterMap_nil, List.append_nil]
  | cons call rest inductionHypothesis =>
    have later := inductionHypothesis (underway.perform ordered call)
    rw [List.append_assoc] at later
    have front : (call :: rest).filterMap QueueCall.message? =
        call.message?.toList ++ rest.filterMap QueueCall.message? := by
      cases call <;> rfl
    rw [front]
    exact later

/-- A courier that was left to finish has carried all messages, or it broke down at one of them. -/
theorem exists_carried (ordered : rules.initialWait ≤ rules.greatestWait)
    (underway : Underway rules timer takes messages session) :
    ∃ carriages made, Carried rules takes carriages made ∧
      session.finish.courier.current = none ∧ session.finish.relay.queue = [] ∧
      ((session.finish.courier.brokeDown = false ∧
          carriages.map Carriage.message = messages ∧
          session.finish.log = carriages.flatMap (Carriage.events rules timer)) ∨
        (session.finish.courier.brokeDown = true ∧ ∃ message lost start failures,
          BreaksDown rules takes made failures ∧
          carriages.map Carriage.message ++ message :: lost = messages ∧
          session.finish.log = carriages.flatMap (Carriage.events rules timer) ++
            refusals rules timer message start (failures + 1))) := by
  obtain ⟨⟨_, _, turned, behind, stands, same, waiting⟩, ended⟩ := underway.work ordered none
  obtain ⟨free, empty⟩ := ended rfl
  rw [empty] at waiting
  have finish : session.finish.courier = (session.work none).1.courier ∧
      session.finish.log = (session.work none).1.log := ⟨rfl, rfl⟩
  rw [finish.1, finish.2]
  generalize (session.work none).1.courier = courier at stands free waiting
  generalize (session.work none).1.log = log at stands
  cases stands with
  | busy => cases free
  | idle carried =>
    refine ⟨_, _, carried, rfl, rfl, .inl ⟨rfl, ?_, rfl⟩⟩
    rw [same, waiting rfl, List.append_nil]
  | @broken _ _ failures start message carried breaksDown =>
    refine ⟨_, _, carried, rfl, rfl,
      .inr ⟨rfl, message, behind, start, failures, breaksDown, ?_, rfl⟩⟩
    rw [same, List.append_assoc]
    rfl

end RelaySession

/-! ### What the network took, and what was given up -/

/-- The octets that the network took. -/
def CourierEvent.accepted? : CourierEvent → Option Octets
  | sent _ message true => some (Wire.message.write message)
  | _ => none

section

variable {α : Type} {rules : DeliveryRules} {timer : Timer} {reading : CourierEvent → Option α}

theorem filterMap_refusals (rules : DeliveryRules) (timer : Timer)
    (refused : ∀ time message, reading (.sent time message false) = none)
    (message : GossipMessage) (start failures : Nat) :
    (refusals rules timer message start failures).filterMap reading = [] := by
  rw [refusals, List.filterMap_map]
  exact List.filterMap_eq_nil_iff.mpr fun _ _ => refused _ _

/-- What is read off each ending, and off no refusal, is read off the log in order. -/
theorem filterMap_flatMap_events {concerns : Carriage → Bool} {result : Carriage → α}
    (refused : ∀ time message, reading (.sent time message false) = none)
    (ended : ∀ carriage, reading (carriage.ending rules timer) =
      if concerns carriage then some (result carriage) else none) (carriages : List Carriage) :
    (carriages.flatMap (Carriage.events rules timer)).filterMap reading =
      (carriages.filter concerns).map result := by
  induction carriages with
  | nil => rfl
  | cons carriage rest inductionHypothesis =>
    have ending := ended carriage
    rw [List.flatMap_cons, List.filterMap_append, Carriage.events, List.filterMap_append,
      filterMap_refusals rules timer refused, List.nil_append, inductionHypothesis]
    by_cases concerned : concerns carriage = true
    · rw [if_pos concerned] at ending
      rw [List.filterMap_cons_some ending, List.filter_cons_of_pos concerned]
      rfl
    · rw [if_neg concerned] at ending
      rw [List.filterMap_cons_none ending, List.filter_cons_of_neg concerned]
      rfl

end

/-- The messages put on a queue are carried in order: each is tried until it is taken or its
attempts are used up, with waits that double up to the greatest one, and is then either taken or
given up, once. The octets that the network took are those of the messages it took, and nothing is
left in the end. The one exception is a wait without a double before another attempt, which only a
greatest wait of `2 ^ 63` seconds or more allows: there the courier breaks down, and of that message
and of those behind it nothing is taken or given up. -/
theorem messages_are_carried (rules : DeliveryRules)
    (ordered : rules.initialWait ≤ rules.greatestWait) (timer : Timer) (takes : Nat → Bool)
    (calls : List QueueCall) :
    let messages := calls.filterMap QueueCall.message?
    let session := RelaySession.finished rules timer takes calls
    ∃ carriages made, Carried rules takes carriages made ∧
      session.log.filterMap CourierEvent.accepted? =
        (carriages.filter Carriage.delivered).map
          (fun carriage => Wire.message.write carriage.message) ∧
      session.log.filterMap CourierEvent.dropped? =
        (carriages.filter fun carriage => !carriage.delivered).map Carriage.message ∧
      session.courier.current = none ∧ session.relay.queue = [] ∧
      (rules.greatestWait.nanoseconds * 2 < 2 ^ 64 * 10 ^ 9 → session.courier.brokeDown = false) ∧
      ((session.courier.brokeDown = false ∧
          carriages.map Carriage.message = messages ∧
          session.log = carriages.flatMap (Carriage.events rules timer)) ∨
        (session.courier.brokeDown = true ∧ ∃ message lost start failures,
          BreaksDown rules takes made failures ∧
          carriages.map Carriage.message ++ message :: lost = messages ∧
          session.log = carriages.flatMap (Carriage.events rules timer) ++
            refusals rules timer message start (failures + 1))) := by
  intro messages session
  have underway := RelaySession.underway_foldl ordered
    (RelaySession.underway_started rules timer takes) calls
  obtain ⟨carriages, made, carried, free, empty, outcome⟩ :=
    RelaySession.exists_carried ordered underway
  have read : ∀ {α : Type} {reading : CourierEvent → Option α},
      (∀ time message, reading (.sent time message false) = none) →
        session.log.filterMap reading =
          (carriages.flatMap (Carriage.events rules timer)).filterMap reading := by
    intro α reading refused
    obtain ⟨_, _, log⟩ | ⟨_, message, lost, start, failures, _, _, log⟩ := outcome
    · exact congrArg _ log
    · rw [← List.append_nil (List.filterMap reading (List.flatMap _ _)),
        ← filterMap_refusals rules timer refused message start (failures + 1),
        ← List.filterMap_append]
      exact congrArg _ log
  refine ⟨carriages, made, carried, ?_, ?_, free, empty, fun short => ?_, outcome⟩
  · rw [read fun _ _ => rfl]
    refine filterMap_flatMap_events (fun _ _ => rfl) (fun carriage => ?_) carriages
    rw [Carriage.ending]
    cases carriage.delivered <;> rfl
  · rw [read fun _ _ => rfl]
    refine filterMap_flatMap_events (fun _ _ => rfl) (fun carriage => ?_) carriages
    rw [Carriage.ending]
    cases carriage.delivered <;> rfl
  · obtain ⟨intact, _⟩ | ⟨_, _, _, _, _, breaksDown, _⟩ := outcome
    · exact intact
    · exact absurd (DeliveryRules.doubles_of_short short) breaksDown.long

/-! ### Two messages and three attempts -/

namespace SampleQueue

/-- Three attempts with waits of at most one and a half seconds. -/
def rules : DeliveryRules :=
  { initialWait := .ofMilliseconds 1000, greatestWait := .ofMilliseconds 1500, attempts := 3 }

/-- A vote of the first identity. -/
def vote (time : Timestamp) : Vote :=
  { voter := ⟨1⟩, object := 9, signal := .funding, outcome := .yes, timestamp := time
    signature := [] }

/-- The second vote is put on the queue while the first one waits. -/
def calls : List QueueCall :=
  [.relayVote (vote 1), .wait (.ofMilliseconds 500), .relayVote (vote 2)]

/-- The third attempt is taken, and no other. -/
def takes (made : Nat) : Bool :=
  made == 2

/-- Two attempts with a wait of `2 ^ 63` seconds between. -/
def patient : DeliveryRules :=
  { initialWait := .ofSeconds 9223372036854775808
    greatestWait := .ofSeconds 9223372036854775808
    attempts := 2 }

/-- A timer that keeps to the waits it is asked for. -/
def punctual : Timer where
  ends now wait := now + wait.milliseconds

end SampleQueue

open SampleQueue in
theorem sample_messages_are_carried :
    rules.initialWait ≤ rules.greatestWait ∧
      (RelaySession.finished rules .node takes calls).courier.brokeDown = false ∧
      ∃ carriages made, Carried rules takes carriages made ∧
        carriages.map Carriage.message = [.vote (vote 1), .vote (vote 2)] ∧
        carriages.flatMap (Carriage.events rules .node) =
          [.sent 0 (.vote (vote 1)) false, .sent 1000 (.vote (vote 1)) false,
            .sent 2500 (.vote (vote 1)) true, .sent 2500 (.vote (vote 2)) false,
            .sent 3500 (.vote (vote 2)) false, .sent 5000 (.vote (vote 2)) false,
            .dropped 5000 (.vote (vote 2))] := by
  obtain ⟨carriages, made, carried, -, -, -, -, unbroken, outcome⟩ :=
    messages_are_carried rules (by decide) .node takes calls
  have intact := unbroken (by decide)
  obtain ⟨-, messages, log⟩ | ⟨broke, -⟩ := outcome
  · refine ⟨by decide, intact, carriages, made, carried, messages, log.symm.trans ?_⟩
    decide +kernel
  · exact absurd (intact.symm.trans broke) (by decide)

open SampleQueue in
/-- The network would take the second attempt for the one message, which is neither taken nor given
up: the courier breaks down when the wait before that attempt is over. -/
theorem message_is_lost_at_breakdown :
    patient.initialWait ≤ patient.greatestWait ∧
      (RelaySession.finished patient punctual (· == 1) [.relayVote (vote 1)]).log =
        [.sent 0 (.vote (vote 1)) false] ∧
      (RelaySession.finished patient punctual (· == 1)
        [.relayVote (vote 1)]).courier.brokeDown = true := by
  decide +kernel

end SuperblockGovernance
