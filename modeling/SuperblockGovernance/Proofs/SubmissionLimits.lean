/-
The submissions of one node over time. The store remembers the last submission that the relay
took, and takes the next one only when the rate limit has passed since. A submission that fails
takes up no slot, and the slot is given back only with the object it was taken for. So between
two submissions that succeed the limit passes, whatever fails or is retracted in between and
however the clock moves, and the wait that a refused submission is told is the exact one.
-/

import SuperblockGovernance.Proofs.StoreCoherence

namespace SuperblockGovernance

/-- What happens to a store that submits: a submission of some time comes to a result, or an
object is retracted. -/
inductive SubmissionEvent
  | submitted (time : Timestamp) (result : Except SubmitError ObjectId)
  | retracted (id : ObjectId)

namespace TriggerStore

variable {store : TriggerStore} {limit : UInt64} {time : Timestamp} {seconds : Nat}

/-! ### Waiting -/

/-- A submission has to wait exactly when it comes before the slot is free. -/
theorem waitFor_eq_some_iff :
    store.waitFor limit time = some seconds ↔
      ∃ ready, store.readyAt limit = some ready ∧ time.toNat < ready ∧
        seconds = ready - time.toNat := by
  rw [waitFor, Option.bind_eq_some_iff]
  refine exists_congr fun ready => and_congr_right fun _ => ?_
  by_cases early : time.toNat < ready
  · rw [if_pos early, Option.some.injEq, and_iff_right early, eq_comm]
  · rw [if_neg early]
    exact iff_of_false nofun fun both => early both.1

theorem waitFor_eq_none_iff :
    store.waitFor limit time = none ↔ ∀ ready ∈ store.readyAt limit, ready ≤ time.toNat := by
  rw [waitFor, Option.bind_eq_none_iff]
  refine forall₂_congr fun ready _ => ?_
  by_cases early : time.toNat < ready
  · rw [if_pos early]
    exact iff_of_false nofun (Nat.not_le.mpr early)
  · rw [if_neg early]
    exact iff_of_true rfl (Nat.not_lt.mp early)

/-- A slot is free again at a time that the clock reaches. -/
theorem readyAt_lt {ready : Nat} (found : store.readyAt limit = some ready) : ready < 2 ^ 64 := by
  obtain ⟨⟨time, id⟩, _, rfl⟩ := Option.map_eq_some_iff.mp found
  exact Nat.lt_of_le_of_lt (Nat.min_le_right _ _) (by decide)

theorem readyAt_of_lastSubmission {id : ObjectId}
    (remembered : store.lastSubmission = some (time, id)) :
    store.readyAt limit = some (min (time.toNat + limit.toNat) (2 ^ 64 - 1)) := by
  rw [readyAt, remembered]
  rfl

/-! ### The slot -/

theorem lastSubmission_insert (store : TriggerStore) (object : TriggerObject) :
    (store.insert object).2.lastSubmission = store.lastSubmission := by
  rw [insert]
  split <;> rfl

theorem lastSubmission_recordSubmission (store : TriggerStore) (id : ObjectId)
    (submission : Submission) (payload : TriggerPayload) :
    (store.recordSubmission id submission payload).lastSubmission =
      some (submission.creationTime, id) :=
  lastSubmission_insert _ _

/-- The slot stays taken when another object is retracted. -/
theorem lastSubmission_retractObject {id other : ObjectId} (differs : other ≠ id)
    (remembered : store.lastSubmission = some (time, id)) :
    (store.retractObject other).2.lastSubmission = some (time, id) := by
  have apart : (id == other) = false := beq_eq_false_iff_ne.mpr differs.symm
  unfold retractObject
  extract_lets settled
  have same : settled = store := by
    simp only [settled, remembered, Option.any_some, apart, Bool.false_eq_true, if_false]
  rw [← same] at remembered
  split <;> exact remembered

/-! ### Submissions -/

section Submissions

variable {σ : Type} [Relay σ] {relay : σ} {payload : TriggerPayload} {submission : Submission}

/-- A submission that fails changes nothing in the store. -/
theorem store_submit_of_error {cause : SubmitError}
    (failed : (store.submit relay limit payload submission).1 = .error cause) :
    (store.submit relay limit payload submission).2.1 = store := by
  rcases store.submit_cases relay limit payload submission with
    ⟨_, _, same⟩ | ⟨_, _, _, _, same⟩ | ⟨_, _, _, _, same⟩
  · rw [same]
  · rw [same]
  · rw [same] at failed
    cases failed

/-- A submission that succeeds found the slot free, and takes it. -/
theorem lastSubmission_submit_of_ok {id : ObjectId}
    (succeeded : (store.submit relay limit payload submission).1 = .ok id) :
    store.waitFor limit submission.creationTime = none ∧
      (store.submit relay limit payload submission).2.1.lastSubmission =
        some (submission.creationTime, id) := by
  rcases store.submit_cases relay limit payload submission with
    ⟨_, _, same⟩ | ⟨_, _, _, _, same⟩ | ⟨_, _, free, _, same⟩
  · rw [same] at succeeded
    cases succeeded
  · rw [same] at succeeded
    cases succeeded
  · rw [same] at succeeded ⊢
    cases succeeded
    exact ⟨free, lastSubmission_recordSubmission _ _ _ _⟩

theorem submit_of_wait (early : store.waitFor limit submission.creationTime = some seconds) :
    (store.submit relay limit payload submission).1 = .error (.rateLimited seconds) := by
  rw [submit.eq_def, early]

/-- A submission that does not come too early is answered by the relay. -/
theorem submit_of_free (free : store.waitFor limit submission.creationTime = none) :
    (store.submit relay limit payload submission).1 =
      (Relay.submitObject relay submission).1.mapError .network := by
  rcases store.submit_cases relay limit payload submission with
    ⟨_, early, _⟩ | ⟨_, _, _, answered, same⟩ | ⟨_, _, _, answered, same⟩
  · rw [free] at early
    cases early
  · rw [same, answered]
    rfl
  · rw [same, answered]
    rfl

theorem waitFor_of_rateLimited
    (refused : (store.submit relay limit payload submission).1 = .error (.rateLimited seconds)) :
    store.waitFor limit submission.creationTime = some seconds := by
  rcases store.submit_cases relay limit payload submission with
    ⟨_, early, same⟩ | ⟨_, _, _, _, same⟩ | ⟨_, _, _, _, same⟩
  · rw [same] at refused
    cases refused
    exact early
  · rw [same] at refused
    cases refused
  · rw [same] at refused
    cases refused

end Submissions

/-! ### Runs of submissions -/

/-- A run of submissions and retractions, with what happens in it. Each submission meets the relay
in whatever state it is then. -/
inductive SubmissionRun (σ : Type) [Relay σ] (limit : UInt64) :
    TriggerStore → List SubmissionEvent → TriggerStore → Prop
  | done (store : TriggerStore) : SubmissionRun σ limit store [] store
  | submit {store last : TriggerStore} {events : List SubmissionEvent} (relay : σ)
      (payload : TriggerPayload) (submission : Submission)
      (rest : SubmissionRun σ limit (store.submit relay limit payload submission).2.1 events last) :
      SubmissionRun σ limit store
        (.submitted submission.creationTime (store.submit relay limit payload submission).1 ::
          events) last
  | retract {store last : TriggerStore} {events : List SubmissionEvent} (id : ObjectId)
      (rest : SubmissionRun σ limit (store.retractObject id).2 events last) :
      SubmissionRun σ limit store (.retracted id :: events) last

namespace SubmissionRun

variable {σ : Type} [Relay σ] {first last : TriggerStore} {events later : List SubmissionEvent}
variable {id : ObjectId}

/-- What happens in two parts happens in two runs. -/
theorem split (run : SubmissionRun σ limit first (events ++ later) last) :
    ∃ middle, SubmissionRun σ limit first events middle ∧
      SubmissionRun σ limit middle later last := by
  induction events generalizing first with
  | nil => exact ⟨first, .done first, run⟩
  | cons event events inductionHypothesis =>
    cases run with
    | submit relay payload submission rest =>
      obtain ⟨middle, before, after⟩ := inductionHypothesis rest
      exact ⟨middle, .submit relay payload submission before, after⟩
    | retract id rest =>
      obtain ⟨middle, before, after⟩ := inductionHypothesis rest
      exact ⟨middle, .retract id before, after⟩

/-- The slot stays taken while nothing succeeds and its object is not retracted. -/
theorem lastSubmission (run : SubmissionRun σ limit first events last)
    (remembered : first.lastSubmission = some (time, id))
    (failing : ∀ moment name, .submitted moment (.ok name) ∉ events)
    (kept : .retracted id ∉ events) : last.lastSubmission = some (time, id) := by
  induction run with
  | done store => exact remembered
  | @submit store last events relay payload submission rest inductionHypothesis =>
    refine inductionHypothesis ?_ (fun moment name inside =>
      failing moment name (List.mem_cons_of_mem _ inside)) fun inside =>
        kept (List.mem_cons_of_mem _ inside)
    cases result : (store.submit relay limit payload submission).1 with
    | ok name =>
      rw [result] at failing
      exact absurd List.mem_cons_self (failing submission.creationTime name)
    | error cause =>
      rw [store_submit_of_error result]
      exact remembered
  | @retract store last events other rest inductionHypothesis =>
    refine inductionHypothesis ?_ (fun moment name inside =>
      failing moment name (List.mem_cons_of_mem _ inside)) fun inside =>
        kept (List.mem_cons_of_mem _ inside)
    refine lastSubmission_retractObject (fun same => kept ?_) remembered
    exact same ▸ List.mem_cons_self

/-- From a success on, the next one waits for the limit. -/
theorem spaced {next : Timestamp} {other : ObjectId}
    (run : SubmissionRun σ limit first
      (.submitted time (.ok id) :: events ++ .submitted next (.ok other) :: later) last)
    (failing : ∀ moment name, .submitted moment (.ok name) ∉ events)
    (kept : .retracted id ∉ events) :
    min (time.toNat + limit.toNat) (2 ^ 64 - 1) ≤ next.toNat := by
  obtain ⟨middle, before, after⟩ := run.split
  generalize one : SubmissionEvent.submitted time (.ok id) = success at before
  generalize two : SubmissionEvent.submitted next (.ok other) = following at after
  cases before with
  | retract name rest => cases one
  | submit relay payload submission rest =>
    obtain ⟨rfl, succeeded⟩ := SubmissionEvent.submitted.inj one
    have taken := rest.lastSubmission (lastSubmission_submit_of_ok succeeded.symm).2 failing kept
    cases after with
    | retract name rest => cases two
    | submit relay payload submission rest =>
      obtain ⟨rfl, succeeded⟩ := SubmissionEvent.submitted.inj two
      have free := (lastSubmission_submit_of_ok succeeded.symm).1
      exact waitFor_eq_none_iff.mp free _ (readyAt_of_lastSubmission taken)

end SubmissionRun

/-- In every run of submissions and retractions, whatever the relay answers and however the clock
moves: a submission that fails leaves the whole store as it was; after a submission that succeeds,
the next one that does comes when the limit has passed, unless the object of the first is retracted
in between; and a submission that is told to wait would be told so at every time before the wait is
over, with what is left of it, and is answered by the relay from then on. -/
theorem submissions_are_limited {σ : Type} [Relay σ] {first last : TriggerStore}
    {events : List SubmissionEvent} (run : SubmissionRun σ limit first events last) :
    (∀ (relay : σ) payload submission cause,
      (last.submit relay limit payload submission).1 = .error cause →
        (last.submit relay limit payload submission).2.1 = last) ∧
    (∀ earlier between later time id next other,
      events = earlier ++
        (.submitted time (.ok id) :: between ++ .submitted next (.ok other) :: later) →
      (∀ moment name, .submitted moment (.ok name) ∉ between) → .retracted id ∉ between →
        min (time.toNat + limit.toNat) (2 ^ 64 - 1) ≤ next.toNat) ∧
    ∀ (relay : σ) payload submission seconds,
      (last.submit relay limit payload submission).1 = .error (.rateLimited seconds) →
        let ready := submission.creationTime.toNat + seconds
        ready < 2 ^ 64 ∧ ∀ (relay : σ) payload (next : Submission),
          (next.creationTime.toNat < ready →
            (last.submit relay limit payload next).1 =
              .error (.rateLimited (ready - next.creationTime.toNat))) ∧
          (ready ≤ next.creationTime.toNat →
            (last.submit relay limit payload next).1 =
              (Relay.submitObject relay next).1.mapError .network) := by
  refine ⟨fun relay payload submission cause => store_submit_of_error, ?_, ?_⟩
  · rintro earlier between later time id next other rfl failing kept
    obtain ⟨middle, _, after⟩ := run.split
    exact after.spaced failing kept
  · intro relay payload submission seconds refused
    obtain ⟨ready, found, early, rfl⟩ := waitFor_eq_some_iff.mp (waitFor_of_rateLimited refused)
    rw [Nat.add_sub_cancel' (Nat.le_of_lt early)]
    refine ⟨readyAt_lt found, fun relay payload next => ⟨fun before => ?_, fun after => ?_⟩⟩
    · exact submit_of_wait (waitFor_eq_some_iff.mpr ⟨ready, found, before, rfl⟩)
    · refine submit_of_free (waitFor_eq_none_iff.mpr fun other same => ?_)
      obtain rfl : ready = other := Option.some.inj (found.symm.trans same)
      exact after

end TriggerStore

/-! ### Submissions at the end of time -/

/-- A relay that answers every submission alike. -/
structure SteadyRelay where
  answer : Except NetworkError ObjectId

instance : Relay SteadyRelay where
  submitObject relay _ := (relay.answer, relay)
  relayVote relay _ := (.ok (), relay)

namespace SampleLimit

/-- A payload with one payout. -/
def payload : TriggerPayload where
  eventHeight := 1300
  startEpoch := 0
  addresses := "X"
  amounts := "1000.00"
  proposalHashes := ""
  objectType := TriggerPayload.triggerType

/-- A submission at some time. -/
def submission (time : Timestamp) : Submission :=
  ⟨"", ⟨1⟩, time, []⟩

/-- Less than the limit is left when the first submission comes. -/
def first : Timestamp := 18446744073709551516

/-- The last moment there is. -/
def final : Timestamp := 18446744073709551615

/-- A relay that takes everything under one name. -/
def taking (id : ObjectId) : SteadyRelay :=
  ⟨.ok id⟩

/-- A relay that takes nothing. -/
def refusing : SteadyRelay :=
  ⟨.error .queueClosed⟩

/-- The clock is set back, an object that is not known is retracted, and the relay refuses once. -/
def failures : List SubmissionEvent :=
  [.submitted 10 (.error (.rateLimited 18446744073709551605)), .retracted 7,
    .submitted final (.error (.network .queueClosed))]

/-- The failures stand between two successes. -/
def events : List SubmissionEvent :=
  .submitted first (.ok 1) :: failures ++ [.submitted final (.ok 2)]

theorem exists_run :
    ∃ last, TriggerStore.SubmissionRun SteadyRelay 900 .empty events last ∧
      last.lastSubmission = some (final, 2) :=
  ⟨_, .submit (taking 1) payload (submission first) <|
    .submit (taking 2) payload (submission 10) <| .retract 7 <|
    .submit refusing payload (submission final) <|
    .submit (taking 2) payload (submission final) <| .done _, rfl⟩

end SampleLimit

open SampleLimit in
/-- The slot of the first submission is free again at the last moment, and so is that of the next
one: a submission that comes too early is told to wait until then, and is answered by the relay
then, which refuses it. -/
theorem sample_submissions_are_limited :
    ∃ last, TriggerStore.SubmissionRun SteadyRelay 900 .empty events last ∧
      min (first.toNat + 900) (2 ^ 64 - 1) ≤ final.toNat ∧
      (last.submit refusing 900 payload (submission 10)).1 =
        .error (.rateLimited 18446744073709551605) ∧
      (last.submit refusing 900 payload (submission 10)).2.1 = last ∧
      (last.submit refusing 900 payload (submission final)).1 = .error (.network .queueClosed) := by
  obtain ⟨last, run, remembered⟩ := exists_run
  obtain ⟨unchanged, spaced, waits⟩ := TriggerStore.submissions_are_limited run
  have refused : (last.submit refusing 900 payload (submission 10)).1 =
      .error (.rateLimited 18446744073709551605) :=
    TriggerStore.submit_of_wait (TriggerStore.waitFor_eq_some_iff.mpr
      ⟨_, TriggerStore.readyAt_of_lastSubmission remembered, by decide, by decide⟩)
  refine ⟨last, run, ?_, refused, unchanged _ _ _ _ refused, ?_⟩
  · exact spaced [] failures [] first 1 final 2 rfl (by simp [failures]) (by simp [failures])
  · exact ((waits _ _ _ _ refused).2 _ _ (submission final)).2 (by decide)

end SuperblockGovernance
