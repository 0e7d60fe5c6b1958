/-
What a node hands to its relay. A call hands over one object at most, or votes that are all in
a plan of the own sanctuary. Whoever submits a contract, or a trigger given as text, is a
sanctuary whose governance data is synced. A tick asks for a sanctuary and for a tip that is
not stale, but not for synced governance data, so it may create the trigger of its contract
while it does not know yet what others created.
-/

import SuperblockGovernance.Proofs.ApprovedPayouts
import SuperblockGovernance.Proofs.CreatedObjects
import SuperblockGovernance.Proofs.VoteConvergence
import SuperblockGovernance.Proofs.WatchedRelays

namespace SuperblockGovernance

namespace Engine

variable {σ : Type} [Relay σ]

/-! ### Under watch -/

/-- A submission is refused before it is handed over and changes nothing, or it is handed over, and
refused or recorded as the relay answers. -/
theorem submitPayload_watched_cases (watched : Engine (WatchedRelay σ)) (host : Host)
    (identity : Identity) (payload : TriggerPayload) :
    let submission := host.signedSubmission identity payload
    let submitted := watched.submitPayload host identity payload
    (∃ seconds, watched.store.waitFor watched.config.submitRateLimitSecs host.now = some seconds ∧
      submitted = (.error (.rateLimited seconds), watched)) ∨
    (∃ cause, submitted.1 = .error (.network cause) ∧ submitted.2.store = watched.store ∧
      submitted.2.relay.log = watched.relay.log ++ [.object submission (.error cause)]) ∨
    ∃ id, submitted.1 = .ok id ∧
      submitted.2.store = watched.store.recordSubmission id submission payload ∧
      submitted.2.relay.log = watched.relay.log ++ [.object submission (.ok id)] := by
  intro submission submitted
  unfold submitted submitPayload
  rcases watched.store.submit_cases watched.relay watched.config.submitRateLimitSecs payload
    submission with ⟨seconds, waits, same⟩ | ⟨cause, after, _, answered, same⟩ |
      ⟨id, after, _, answered, same⟩
  · rw [same]
    exact Or.inl ⟨seconds, waits, rfl⟩
  · rw [same]
    exact Or.inr (Or.inl ⟨cause, rfl, rfl, WatchedRelay.log_of_submitObject answered⟩)
  · rw [same]
    exact Or.inr (Or.inr ⟨id, rfl, rfl, WatchedRelay.log_of_submitObject answered⟩)

/-- A submission changes nothing, or it is handed over, and recorded if it was taken. -/
theorem submitPayload_watched (watched : Engine (WatchedRelay σ)) (host : Host)
    (identity : Identity) (payload : TriggerPayload) :
    let submission := host.signedSubmission identity payload
    let after := (watched.submitPayload host identity payload).2
    after = watched ∨ ∃ answer,
      after.relay.log = watched.relay.log ++ [.object submission answer] ∧
      ∀ id, answer = .ok id →
        after.store = watched.store.recordSubmission id submission payload := by
  rcases watched.submitPayload_watched_cases host identity payload with
    ⟨_, _, same⟩ | ⟨cause, _, _, log⟩ | ⟨id, _, recorded, log⟩
  · exact Or.inl (congrArg Prod.snd same)
  · exact Or.inr ⟨.error cause, log, nofun⟩
  · refine Or.inr ⟨.ok id, log, ?_⟩
    rintro _ ⟨⟩
    exact recorded

/-- A vote is handed over, and recorded and counted if it was taken. -/
theorem step_watched (casting : Casting (WatchedRelay σ)) (host : Host) (identity : Identity)
    (intent : VoteIntent) :
    let vote := host.signedVote identity intent
    let after := casting.step host identity intent
    ∃ answer, after.engine.relay.log = casting.engine.relay.log ++ [.vote vote answer] ∧
      let taken := [Handover.vote vote answer].filterMap Handover.acceptedVote?
      after.engine.store = casting.engine.store.recordVotes taken ∧
        after.cast = casting.cast + taken.length := by
  intro vote after
  unfold after Casting.step
  rcases answered : Relay.relayVote casting.engine.relay vote with ⟨answer, relay⟩
  have noted := WatchedRelay.log_of_relayVote answered
  refine ⟨answer, ?_⟩
  dsimp only
  rw [answered]
  cases answer with
  | error cause => exact ⟨noted, rfl, rfl⟩
  | ok taken => exact ⟨noted, rfl, rfl⟩

/-- Votes are handed over one after the other; those that were taken are recorded and counted. -/
theorem castVotes_watched_spec (watched : Engine (WatchedRelay σ)) (host : Host)
    (identity : Identity) (intents : List VoteIntent) :
    let casting := watched.castVotes host identity intents
    let votes := intents.map (host.signedVote identity)
    ∃ added, casting.engine.relay.log = watched.relay.log ++ added ∧
      added.map Handover.vote? = votes.map some ∧
      let taken := added.filterMap Handover.acceptedVote?
      casting.engine.store = watched.store.recordVotes taken ∧ casting.cast = taken.length := by
  suffices each : ∀ casting : Casting (WatchedRelay σ),
      let last := intents.foldl (Casting.step host identity) casting
      let votes := intents.map (host.signedVote identity)
      ∃ added, last.engine.relay.log = casting.engine.relay.log ++ added ∧
        added.map Handover.vote? = votes.map some ∧
        let taken := added.filterMap Handover.acceptedVote?
        last.engine.store = casting.engine.store.recordVotes taken ∧
          last.cast = casting.cast + taken.length by
    obtain ⟨added, log, votes, store, cast⟩ := each { engine := watched }
    exact ⟨added, log, votes, store, cast.trans (Nat.zero_add _)⟩
  induction intents with
  | nil => exact fun casting => ⟨[], (List.append_nil _).symm, rfl, rfl, rfl⟩
  | cons intent rest inductionHypothesis =>
    intro casting
    obtain ⟨answer, first, recorded, counted⟩ := step_watched casting host identity intent
    obtain ⟨added, log, votes, store, cast⟩ :=
      inductionHypothesis (casting.step host identity intent)
    refine ⟨[.vote (host.signedVote identity intent) answer] ++ added, ?_, ?_, ?_, ?_⟩
    · rw [List.foldl_cons, log, first, List.append_assoc]
    · rw [List.map_append, votes]
      rfl
    · rw [List.foldl_cons, store, recorded, List.filterMap_append,
        TriggerStore.recordVotes_append]
    · rw [List.foldl_cons, cast, counted, List.filterMap_append, List.length_append,
        Nat.add_assoc]

/-- Votes are handed over one after the other, and recorded if they were taken. -/
theorem castVotes_watched (watched : Engine (WatchedRelay σ)) (host : Host) (identity : Identity)
    (intents : List VoteIntent) :
    let after := (watched.castVotes host identity intents).engine
    let votes := intents.map (host.signedVote identity)
    ∃ added, after.relay.log = watched.relay.log ++ added ∧
      added.map Handover.vote? = votes.map some ∧
      ∀ store, (∀ handover ∈ added, handover.Taken store) →
        after.store = watched.store.recordVotes votes := by
  obtain ⟨added, log, votes, recorded, _⟩ :=
    watched.castVotes_watched_spec host identity intents
  refine ⟨added, log, votes, fun store taken => ?_⟩
  rw [recorded, acceptedVotes_of_taken votes taken]

/-! ### One call -/

/-- What a call asks for before it hands an object over. Only three calls ever do. -/
def Clears (engine : Engine σ) (host : Host) : Call → Prop
  | .submit _ _ => host.governanceSynced = true
  | .submitTrigger _ => host.governanceSynced = true
  | .tick _ => ∃ tip, host.tip = some tip ∧ ¬engine.StaleTip host tip
  | _ => False

/-- The vote is in the plan of the own sanctuary for some contract. -/
def Plans (engine : Engine σ) (host : Host) (vote : Vote) : Prop :=
  ∃ target fingerprint identity, host.localIdentity = some identity ∧
    ∃ intent ∈ (engine.plan host target fingerprint identity).intents,
      vote = host.signedVote identity intent

/-- What a call hands over: one object of the own sanctuary, if it is cleared, or any number of
planned votes. -/
inductive HandsOver (engine : Engine σ) (host : Host) (call : Call) : List Handover → Prop
  | object {submission : Submission} (answer : Except NetworkError ObjectId)
      (own : host.localIdentity = some submission.submitter) (cleared : engine.Clears host call) :
      HandsOver engine host call [.object submission answer]
  | votes {handovers : List Handover} (planned : ∀ handover ∈ handovers,
        ∃ vote answer, handover = .vote vote answer ∧ engine.Plans host vote) :
      HandsOver engine host call handovers

section Watched

variable {engine before : Engine (WatchedRelay σ)} {host : Host} {call : Call}

/-- The call takes note of what it hands over. -/
def Notes (engine : Engine (WatchedRelay σ)) (host : Host) (call : Call)
    (after : Engine (WatchedRelay σ)) : Prop :=
  ∃ added, after.relay.log = engine.relay.log ++ added ∧ engine.HandsOver host call added

omit [Relay σ] in
theorem notes_nothing {after : Engine (WatchedRelay σ)} (same : after.relay = engine.relay) :
    engine.Notes host call after :=
  ⟨[], by rw [same, List.append_nil], .votes nofun⟩

theorem notes_submitPayload {identity : Identity} (relay : before.relay = engine.relay)
    (own : host.localIdentity = some identity) (cleared : engine.Clears host call)
    (payload : TriggerPayload) :
    engine.Notes host call (before.submitPayload host identity payload).2 := by
  rcases before.submitPayload_watched host identity payload with same | ⟨answer, sent, _⟩
  · exact notes_nothing ((congrArg Engine.relay same).trans relay)
  · rw [relay] at sent
    exact ⟨_, sent, .object answer own cleared⟩

theorem notes_castVotes {identity : Identity} {intents : List VoteIntent}
    (relay : before.relay = engine.relay)
    (planned : ∀ intent ∈ intents, engine.Plans host (host.signedVote identity intent)) :
    engine.Notes host call (before.castVotes host identity intents).engine := by
  obtain ⟨added, same, votes, _⟩ := before.castVotes_watched host identity intents
  rw [relay] at same
  refine ⟨added, same, .votes fun handover inside => ?_⟩
  obtain ⟨vote, cast, found⟩ := List.mem_map.mp (votes ▸ List.mem_map_of_mem inside)
  obtain ⟨intent, member, rfl⟩ := List.mem_map.mp cast
  cases handover with
  | object submission answer => cases found
  | vote vote answer =>
    cases found
    exact ⟨_, answer, rfl, planned intent member⟩

theorem notes_voteForContract (height : Height) (text : String) :
    engine.Notes host call (engine.voteForContract host height text).2 := by
  rw [voteForContract]
  split
  · exact notes_nothing rfl
  · rename_i identity target accepted
    exact notes_castVotes rfl fun intent member =>
      ⟨target, _, identity, own_of_acceptContract accepted, intent, member, rfl⟩

theorem notes_act {identity : Identity} {report : TickReport} {action : TickAction}
    (relay : before.relay = engine.relay) (own : host.localIdentity = some identity)
    (cleared : engine.Clears host call) (planned : ∀ intents, action = .vote intents →
      ∀ intent ∈ intents, engine.Plans host (host.signedVote identity intent)) :
    engine.Notes host call (before.act host identity report action).2 := by
  cases action with
  | submit payload => exact notes_submitPayload relay own cleared payload
  | vote intents =>
    rw [act]
    split <;> exact notes_castVotes relay (planned intents rfl)
  | rest => exact notes_nothing relay

/-- A tick hands over one object at a tip that is not stale, or the votes of its plan. -/
theorem notes_tick (force : Bool) :
    engine.Notes host (.tick force) (engine.tick host force).2 := by
  rcases gates : engine.passGates host force with outcome | ⟨tip, identity⟩
  · rw [tick, gates]
    exact notes_nothing rfl
  · obtain ⟨found, fresh, own, _⟩ := passGates_eq_ok_iff.mp gates
    have cleared : engine.Clears host (.tick force) := ⟨tip, found, fresh⟩
    obtain ⟨_, cache, kept⟩ := engine.decide_spec host tip.height identity
    rw [tick_of_passGates gates, kept]
    refine notes_act ?_ own cleared fun intents decided intent member => ?_
    · rfl
    · obtain ⟨contract, _, rfl⟩ := intents_of_decide decided
      exact ⟨_, contract.fingerprint, identity, own, intent, member, rfl⟩

theorem notes_perform (call : Call) : engine.Notes host call (engine.perform host call) := by
  have unused (quiet : call.IsQuiet) : engine.Notes host call (engine.perform host call) :=
    notes_nothing (relay_perform_of_quiet engine host quiet)
  cases call with
  | submit height contract =>
    rcases engine.submit_cases host height contract with
      ⟨cause, refused⟩ | ⟨identity, payload, submits, _, same⟩
    · rw [perform, refused]
      exact notes_nothing rfl
    · obtain ⟨own, synced⟩ := submitter_eq_ok_iff.mp submits
      have cleared : engine.Clears host (.submit height contract) := synced
      rw [perform, same]
      exact notes_submitPayload rfl own cleared payload
  | submitTrigger hex =>
    rcases engine.submitTrigger_cases host hex with
      ⟨cause, refused⟩ | ⟨identity, payload, accepted, same⟩
    · rw [perform, refused]
      exact notes_nothing rfl
    · obtain ⟨own, synced⟩ := submitter_eq_ok_iff.mp (acceptTrigger_eq_ok accepted).1
      have cleared : engine.Clears host (.submitTrigger hex) := synced
      rw [perform, same]
      exact notes_submitPayload rfl own cleared payload
  | tick force => exact notes_tick force
  | voteForContract height text => exact notes_voteForContract height text
  | _ => exact unused trivial

end Watched

/-- A call hands over one object, or planned votes. -/
theorem handovers_spec (engine : Engine σ) (host : Host) (call : Call) :
    engine.HandsOver host call (engine.handovers host call) := by
  obtain ⟨added, log, handed⟩ : engine.watched.Notes host call (engine.watched.perform host call) :=
    notes_perform call
  have all : engine.handovers host call = added := log
  rw [all]
  cases handed with
  | object answer own cleared => exact .object answer own cleared
  | votes planned => exact .votes planned

/-- The objects that a call hands to the relay. -/
def handed (engine : Engine σ) (host : Host) (call : Call) : List Submission :=
  (engine.handovers host call).filterMap Handover.submission?

/-- A call hands over one object at most, of the own sanctuary, if it is cleared. -/
theorem handed_spec (engine : Engine σ) (host : Host) (call : Call) :
    engine.handed host call = [] ∨ ∃ submission, engine.handed host call = [submission] ∧
      host.localIdentity = some submission.submitter ∧ engine.Clears host call := by
  have spec := engine.handovers_spec host call
  rw [handed]
  generalize engine.handovers host call = handovers at spec ⊢
  cases spec with
  | object answer own cleared => exact Or.inr ⟨_, rfl, own, cleared⟩
  | votes planned =>
    refine Or.inl (List.filterMap_eq_nil_iff.mpr fun handover inside => ?_)
    obtain ⟨vote, answer, rfl, _⟩ := planned handover inside
    rfl

/-! ### Runs -/

/-- An object that is handed to the relay, with the call that does so and the moment of the call. -/
structure Handing (σ : Type) where
  engine : Engine σ
  host : Host
  call : Call
  submission : Submission

/-- The objects that a call hands over, each with the moment of the call. -/
def handings (engine : Engine σ) (host : Host) (call : Call) : List (Handing σ) :=
  (engine.handed host call).map fun submission => ⟨engine, host, call, submission⟩

/-- A run with all objects that are handed over in it. -/
inductive History (hosts : Set Host) (start : Engine σ) : List (Handing σ) → Engine σ → Prop
  | start : History hosts start [] start
  | call {handings : List (Handing σ)} {engine : Engine σ} {host : Host}
      (before : History hosts start handings engine) (member : host ∈ hosts) (call : Call) :
      History hosts start (handings ++ engine.handings host call) (engine.perform host call)
  | relay {handings : List (Handing σ)} {engine : Engine σ}
      (before : History hosts start handings engine) (relay : σ) :
      History hosts start handings { engine with relay }

variable {hosts : Set Host} {start engine : Engine σ} {handings : List (Handing σ)}

/-- In every run, an object is handed over by the own sanctuary of that moment: by a call to submit
while governance data is synced, or by a tick at a tip that is not stale. -/
theorem handed_objects_are_cleared (history : History hosts start handings engine) :
    ∀ handing ∈ handings, handing.host ∈ hosts ∧
      handing.host.localIdentity = some handing.submission.submitter ∧
      handing.engine.Clears handing.host handing.call := by
  induction history with
  | start => exact fun handing inside => absurd inside List.not_mem_nil
  | relay _ _ inductionHypothesis => exact inductionHypothesis
  | @call handings engine host _ member call inductionHypothesis =>
    intro handing inside
    rcases List.mem_append.mp inside with earlier | now
    · exact inductionHypothesis handing earlier
    · obtain ⟨submission, handedOver, rfl⟩ := List.mem_map.mp now
      rcases engine.handed_spec host call with none | ⟨only, one, own, cleared⟩
      · rw [none] at handedOver
        cases handedOver
      · rw [one] at handedOver
        obtain rfl := List.mem_singleton.mp handedOver
        exact ⟨member, own, cleared⟩

end Engine

/-! ### A sample submission -/

namespace SampleSubmission

/-- A node that has seen nothing. -/
def engine : Engine CountingRelay :=
  { config := SampleRun.config, relay := {} }

/-- A call to submit the contract of the sample run. -/
def call : Call :=
  .submit 1300 SampleRun.contract

end SampleSubmission

open SampleSubmission in
/-- A sanctuary with synced governance data hands over what it submits. -/
theorem sample_submission_is_cleared :
    ∃ handing ∈ engine.handings SampleRun.host call,
      Engine.History {SampleRun.host} engine (engine.handings SampleRun.host call)
        (engine.perform SampleRun.host call) ∧
      SampleRun.host.localIdentity = some handing.submission.submitter ∧
      SampleRun.host.governanceSynced = true := by
  have one : (engine.handed SampleRun.host call).map Submission.submitter = [⟨1⟩] := by
    decide +kernel
  obtain ⟨submission, handed, _⟩ := List.mem_map.mp (one ▸ List.mem_singleton_self _)
  have inside : ⟨engine, SampleRun.host, call, submission⟩ ∈ engine.handings SampleRun.host call :=
    List.mem_map.mpr ⟨submission, handed, rfl⟩
  have history : Engine.History {SampleRun.host} engine (engine.handings SampleRun.host call)
      (engine.perform SampleRun.host call) :=
    .call .start (Set.mem_singleton SampleRun.host) call
  obtain ⟨_, own, synced⟩ := Engine.handed_objects_are_cleared history _ inside
  exact ⟨_, inside, history, own, synced⟩

/-! ### An early tick -/

namespace EarlyTick

/-- A sanctuary at a fresh tip, whose objects and votes are still syncing. -/
def host : Host :=
  { VotingSample.host with governanceSynced := false }

end EarlyTick

/-- A tick hands over an object although governance data is not synced. -/
theorem early_tick_hands_over :
    Engine.Reachable {EarlyTick.host} VotingSample.fresh ∧
      EarlyTick.host.governanceSynced = false ∧
      ∃ submission, submission ∈ VotingSample.fresh.handed EarlyTick.host (.tick false) := by
  have one : ((VotingSample.fresh.handed EarlyTick.host (.tick false)).map
      Submission.submitter) = [⟨1⟩] := by
    decide +kernel
  obtain ⟨submission, handed, _⟩ := List.mem_map.mp (one ▸ List.mem_singleton_self _)
  exact ⟨⟨VotingSample.config, {}, .refl⟩, rfl, submission, handed⟩

end SuperblockGovernance
