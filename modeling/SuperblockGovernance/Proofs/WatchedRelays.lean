/-
A relay under watch. It hands on whatever it is handed, answers as the relay behind it does,
and takes note of each handover with its answer, of a refused one as well. An engine knows of
its relay only what this answers, so every call does the same with a relay under watch as with
the relay itself, and the notes tell what any call of any engine hands over.
-/

import SuperblockGovernance.Proofs.EngineDeeds

namespace SuperblockGovernance

/-! ### Watching -/

/-- What a relay was handed, and its answer. -/
inductive Handover
  | object (submission : Submission) (answer : Except NetworkError ObjectId)
  | vote (vote : Vote) (answer : Except NetworkError Unit)

/-- The submission, if an object was handed over. -/
def Handover.submission? : Handover → Option Submission
  | .object submission _ => some submission
  | .vote _ _ => none

/-- The vote, if one was handed over. -/
def Handover.vote? : Handover → Option Vote
  | .object _ _ => none
  | .vote cast _ => some cast

/-- The submission and the name that it was given, if an object was handed over and taken. -/
def Handover.acceptedObject? : Handover → Option (Submission × ObjectId)
  | .object submission (.ok id) => some (submission, id)
  | _ => none

/-- The vote, if one was handed over and taken. -/
def Handover.acceptedVote? : Handover → Option Vote
  | .vote cast (.ok ()) => some cast
  | _ => none

theorem Handover.acceptedObject?_of_vote? {handover : Handover} {cast : Vote}
    (voted : handover.vote? = some cast) : handover.acceptedObject? = none := by
  cases handover with
  | object submission answer => cases voted
  | vote vote answer => rfl

/-- The relay took it: an object under a name that is not stored, or a vote. -/
def Handover.Taken (store : TriggerStore) : Handover → Prop
  | .object _ answer => ∃ id, answer = .ok id ∧ store.get? id = none
  | .vote _ answer => answer = .ok ()

instance (store : TriggerStore) : (handover : Handover) → Decidable (handover.Taken store)
  | .object _ (.ok id) =>
    if new : (store.get? id).isNone then .isTrue ⟨id, rfl, Option.isNone_iff_eq_none.mp new⟩
    else .isFalse fun ⟨_, same, absent⟩ => by
      cases same
      exact new (Option.isNone_iff_eq_none.mpr absent)
  | .object _ (.error _) => .isFalse nofun
  | .vote _ answer => inferInstanceAs (Decidable (answer = .ok ()))

theorem Handover.acceptedVote?_of_taken {store : TriggerStore} {handover : Handover}
    (taken : handover.Taken store) : handover.acceptedVote? = handover.vote? := by
  cases handover with
  | object submission answer => cases answer <;> rfl
  | vote vote answer =>
    obtain rfl : answer = .ok () := taken
    rfl

/-- Of votes that were all taken, each is accepted. -/
theorem acceptedVotes_of_taken {store : TriggerStore} {handovers : List Handover}
    {votes : List Vote} (cast : handovers.map Handover.vote? = votes.map some)
    (taken : ∀ handover ∈ handovers, handover.Taken store) :
    handovers.filterMap Handover.acceptedVote? = votes := by
  have alike : handovers.filterMap Handover.acceptedVote? =
      (handovers.map Handover.vote?).filterMap id := by
    rw [List.filterMap_map]
    exact List.filterMap_congr fun handover inside =>
      Handover.acceptedVote?_of_taken (taken handover inside)
  rw [alike, cast, List.filterMap_map]
  exact List.filterMap_some

/-- A relay with what it was handed so far. -/
structure WatchedRelay (σ : Type) where
  relay : σ
  log : List Handover := []

namespace WatchedRelay

variable {σ : Type}

instance [Relay σ] : Relay (WatchedRelay σ) where
  submitObject watched submission :=
    let (answer, relay) := Relay.submitObject watched.relay submission
    (answer, ⟨relay, watched.log ++ [.object submission answer]⟩)
  relayVote watched vote :=
    let (answer, relay) := Relay.relayVote watched.relay vote
    (answer, ⟨relay, watched.log ++ [.vote vote answer]⟩)

/-- What is handed over is noted with its answer. -/
theorem log_of_submitObject [Relay σ] {watched after : WatchedRelay σ} {submission : Submission}
    {answer : Except NetworkError ObjectId}
    (answered : Relay.submitObject watched submission = (answer, after)) :
    after.log = watched.log ++ [.object submission answer] := by
  cases answered
  rfl

theorem log_of_relayVote [Relay σ] {watched after : WatchedRelay σ} {vote : Vote}
    {answer : Except NetworkError Unit}
    (answered : Relay.relayVote watched vote = (answer, after)) :
    after.log = watched.log ++ [.vote vote answer] := by
  cases answered
  rfl

end WatchedRelay

/-- The call has no use for the relay. -/
def Call.IsQuiet : Call → Prop
  | .submit _ _ | .submitTrigger _ | .voteForContract _ _ | .tick _ => False
  | _ => True

/-! ### Relays that answer alike -/

/-- The change of relays keeps every answer. -/
structure RelayMap {σ τ : Type} [Relay σ] [Relay τ] (change : σ → τ) : Prop where
  object (relay : σ) (submission : Submission) :
    Relay.submitObject (change relay) submission =
      (Relay.submitObject relay submission).map id change
  vote (relay : σ) (vote : Vote) :
    Relay.relayVote (change relay) vote = (Relay.relayVote relay vote).map id change

theorem relayMap_watched {σ : Type} [Relay σ] :
    RelayMap (WatchedRelay.relay : WatchedRelay σ → σ) where
  object _ _ := rfl
  vote _ _ := rfl

namespace TriggerStore

theorem submit_map {σ τ : Type} [Relay σ] [Relay τ] {change : σ → τ} (alike : RelayMap change)
    (store : TriggerStore) (relay : σ) (limit : UInt64) (payload : TriggerPayload)
    (submission : Submission) :
    store.submit (change relay) limit payload submission =
      (store.submit relay limit payload submission).map id (Prod.map id change) := by
  rw [submit, submit]
  split
  · rfl
  · rw [alike.object]
    rcases Relay.submitObject relay submission with ⟨cause | name, after⟩ <;> rfl

end TriggerStore

namespace Engine

variable {σ τ : Type} {change : σ → τ} {host : Host}

/-- The engine with another relay. -/
def mapRelay (change : σ → τ) (engine : Engine σ) : Engine τ where
  config := engine.config
  relay := change engine.relay
  store := engine.store
  cache := engine.cache
  sporks := engine.sporks

/-! ### Calls that leave the relay alone -/

theorem assess_mapRelay (engine : Engine σ) (host : Host) (target : Height) :
    (engine.mapRelay change).assess host target =
      (engine.assess host target).map id (mapRelay change) := by
  have snapshot : (engine.mapRelay change).snapshotFor target = engine.snapshotFor target := rfl
  have kept (seed : Hash256) : (engine.mapRelay change).cached? target seed =
    engine.cached? target seed := rfl
  simp only [assess, snapshot, kept]
  cases engine.cached? target (host.seedAt (engine.snapshotFor target)) <;> rfl

theorem resolveHeight_mapRelay (engine : Engine σ) (host : Host) (height : Height) :
    (engine.mapRelay change).resolveHeight host height = engine.resolveHeight host height :=
  rfl

theorem prominence_mapRelay (engine : Engine σ) (host : Host) (height : Height) :
    (engine.mapRelay change).prominence host height =
      (engine.prominence host height).map id (mapRelay change) := by
  rw [prominence, prominence, resolveHeight_mapRelay]
  cases engine.resolveHeight host height with
  | error cause => rfl
  | ok target =>
    simp only [assess_mapRelay]
    rfl

theorem buildContract_mapRelay (engine : Engine σ) (host : Host) (height : Height)
    (forCreation : Bool) :
    (engine.mapRelay change).buildContract host height forCreation =
      (engine.buildContract host height forCreation).map id (mapRelay change) := by
  rw [buildContract, buildContract, resolveHeight_mapRelay]
  cases engine.resolveHeight host height with
  | error cause => rfl
  | ok target =>
    simp only [assess_mapRelay]
    rfl

theorem receiveObject_mapRelay (engine : Engine σ) (host : Host) (name : ObjectId)
    (submission : Submission) :
    (engine.mapRelay change).receiveObject host name submission =
      (engine.receiveObject host name submission).map id (mapRelay change) := by
  have same : (engine.mapRelay change).acceptSubmission host submission =
      engine.acceptSubmission host submission := rfl
  rw [receiveObject, receiveObject, same]
  cases engine.acceptSubmission host submission <;> rfl

theorem receiveVote_mapRelay (engine : Engine σ) (host : Host) (vote : Vote) :
    (engine.mapRelay change).receiveVote host vote =
      (engine.receiveVote host vote).map id (mapRelay change) := by
  have same : (engine.mapRelay change).acceptVote host vote = engine.acceptVote host vote := rfl
  rw [receiveVote, receiveVote, same]
  cases engine.acceptVote host vote <;> rfl

theorem receiveMessage_mapRelay (engine : Engine σ) (host : Host) (message : GossipMessage) :
    (engine.mapRelay change).receiveMessage host message =
      (engine.receiveMessage host message).map id (mapRelay change) := by
  cases message with
  | object name submission =>
    rw [receiveMessage, receiveMessage]
    split
    · exact receiveObject_mapRelay engine host name submission
    · rfl
  | vote vote =>
    simp only [receiveMessage, receiveVote_mapRelay]
    rfl

theorem receiveOctets_mapRelay (engine : Engine σ) (host : Host) (octets : Octets) :
    (engine.mapRelay change).receiveOctets host octets =
      (engine.receiveOctets host octets).map id (mapRelay change) := by
  rw [receiveOctets, receiveOctets]
  rcases Wire.message.read octets with _ | ⟨message, rest⟩
  · rfl
  · exact receiveMessage_mapRelay engine host message

theorem connectBlock_mapRelay (engine : Engine σ) (host : Host) (height : Height)
    (coinbase : List CoinbaseOutput) :
    (engine.mapRelay change).connectBlock host height coinbase =
      (engine.connectBlock host height coinbase).mapRelay change := by
  have store : (engine.mapRelay change).confirmPaid host height coinbase =
      engine.confirmPaid host height coinbase := rfl
  have retention : (engine.mapRelay change).retention = engine.retention := rfl
  rw [connectBlock, connectBlock, store, retention]
  split <;> rfl

theorem decide_mapRelay (engine : Engine σ) (host : Host) (tip : Height) (identity : Identity) :
    (engine.mapRelay change).decide host tip identity =
      (engine.decide host tip identity).map id (Prod.map id (mapRelay change)) := by
  have config : (engine.mapRelay change).config = engine.config := rfl
  rw [decide.eq_def, decide.eq_def]
  simp only [config, buildContract_mapRelay]
  rcases engine.buildContract host (engine.config.cadence.around tip).2 true with
    ⟨cause | contract, after⟩
  · rfl
  · simp only [Prod.map_apply, id]
    cases contract.allocation.isEmpty <;> rfl

variable [Relay σ] [Relay τ]

theorem perform_mapRelay_of_quiet (engine : Engine σ) (host : Host) {call : Call}
    (quiet : call.IsQuiet) :
    (engine.mapRelay change).perform host call = (engine.perform host call).mapRelay change := by
  cases call with
  | assess target => simp only [perform, assess_mapRelay, Prod.map_snd]
  | prominence height => simp only [perform, prominence_mapRelay, Prod.map_snd]
  | buildContract height forCreation => simp only [perform, buildContract_mapRelay, Prod.map_snd]
  | refreshSporks => rfl
  | receiveObject name submission => simp only [perform, receiveObject_mapRelay, Prod.map_snd]
  | receiveVote vote => simp only [perform, receiveVote_mapRelay, Prod.map_snd]
  | receiveOctets octets => simp only [perform, receiveOctets_mapRelay, Prod.map_snd]
  | retractVote vote => rfl
  | retractObject id => rfl
  | connectBlock height coinbase => exact connectBlock_mapRelay engine host height coinbase
  | submit height contract => exact quiet.elim
  | submitTrigger hex => exact quiet.elim
  | voteForContract height text => exact quiet.elim
  | tick force => exact quiet.elim

/-- What does the same with every relay does nothing to its own. -/
theorem relay_perform_of_quiet (engine : Engine σ) (host : Host) {call : Call}
    (quiet : call.IsQuiet) : (engine.perform host call).relay = engine.relay := by
  have mapped : (engine.mapRelay fun _ => engine.relay).perform host call =
      (engine.perform host call).mapRelay fun _ => engine.relay :=
    perform_mapRelay_of_quiet engine host quiet
  have moved := congrArg Engine.relay mapped
  exact moved

/-! ### Calls that use the relay -/

theorem submitPayload_mapRelay (alike : RelayMap change) (engine : Engine σ) (host : Host)
    (identity : Identity) (payload : TriggerPayload) :
    (engine.mapRelay change).submitPayload host identity payload =
      (engine.submitPayload host identity payload).map id (mapRelay change) := by
  have submitted := TriggerStore.submit_map alike engine.store engine.relay
    engine.config.submitRateLimitSecs payload (host.signedSubmission identity payload)
  simp only [submitPayload, mapRelay, submitted]
  rfl

theorem submit_mapRelay (alike : RelayMap change) (engine : Engine σ) (host : Host)
    (height : Height) (contract : Contract) :
    (engine.mapRelay change).submit host height contract =
      (engine.submit host height contract).map id (mapRelay change) := by
  have prepared : (engine.mapRelay change).prepareTrigger host height contract =
    engine.prepareTrigger host height contract := rfl
  simp only [submit, prepared]
  split
  · rfl
  · exact submitPayload_mapRelay alike engine host _ _

theorem submitTrigger_mapRelay (alike : RelayMap change) (engine : Engine σ) (host : Host)
    (hex : String) :
    (engine.mapRelay change).submitTrigger host hex =
      (engine.submitTrigger host hex).map id (mapRelay change) := by
  have accepted : (engine.mapRelay change).acceptTrigger host hex =
    engine.acceptTrigger host hex := rfl
  rw [submitTrigger, submitTrigger, accepted]
  split
  · rfl
  · simp only [submitPayload_mapRelay alike]
    rfl

/-- The votes that were cast, with another relay. -/
def Casting.mapRelay (change : σ → τ) (casting : Casting σ) : Casting τ where
  engine := casting.engine.mapRelay change
  cast := casting.cast
  failure := casting.failure

theorem step_mapRelay (alike : RelayMap change) (host : Host) (identity : Identity)
    (casting : Casting σ) (intent : VoteIntent) :
    (casting.mapRelay change).step host identity intent =
      (casting.step host identity intent).mapRelay change := by
  have voted := alike.vote casting.engine.relay (host.signedVote identity intent)
  simp only [Casting.step, Casting.mapRelay, mapRelay, voted]
  rcases Relay.relayVote casting.engine.relay (host.signedVote identity intent) with
    ⟨cause | _, relay⟩ <;> rfl

theorem castVotes_mapRelay (alike : RelayMap change) (engine : Engine σ) (host : Host)
    (identity : Identity) (intents : List VoteIntent) :
    (engine.mapRelay change).castVotes host identity intents =
      (engine.castVotes host identity intents).mapRelay change := by
  show intents.foldl _ (Casting.mapRelay change { engine }) = _
  exact List.foldl_hom (Casting.mapRelay change) (step_mapRelay alike host identity)

theorem voteForContract_mapRelay (alike : RelayMap change) (engine : Engine σ) (host : Host)
    (height : Height) (text : String) :
    (engine.mapRelay change).voteForContract host height text =
      (engine.voteForContract host height text).map id (mapRelay change) := by
  have accepted : (engine.mapRelay change).acceptContract host height text =
    engine.acceptContract host height text := rfl
  rw [voteForContract, voteForContract, accepted]
  split
  · rfl
  · rename_i identity target _
    have plan : (engine.mapRelay change).plan host target (Contract.textFingerprint text) identity =
      engine.plan host target (Contract.textFingerprint text) identity := rfl
    simp only [plan, castVotes_mapRelay alike]
    generalize engine.castVotes host identity _ = casting
    cases (engine.plan host target (Contract.textFingerprint text) identity).overBudget with
    | some object => rfl
    | none => rcases casting with ⟨after, cast, _ | cause⟩ <;> rfl

theorem act_mapRelay (alike : RelayMap change) (engine : Engine σ) (host : Host)
    (identity : Identity) (report : TickReport) (action : TickAction) :
    (engine.mapRelay change).act host identity report action =
      (engine.act host identity report action).map id (mapRelay change) := by
  cases action with
  | submit payload =>
    simp only [act, submitPayload_mapRelay alike]
    rfl
  | vote intents =>
    rw [act, act, castVotes_mapRelay alike]
    generalize engine.castVotes host identity intents = casting
    show (if report.outcome = .nothingToDo ∧ 0 < casting.cast then _ else _) = _
    split <;> rfl
  | rest => rfl

theorem tick_mapRelay (alike : RelayMap change) (engine : Engine σ) (host : Host) (force : Bool) :
    (engine.mapRelay change).tick host force =
      (engine.tick host force).map id (mapRelay change) := by
  have passed : (engine.mapRelay change).passGates host force = engine.passGates host force := rfl
  rw [tick, tick, passed]
  split
  · rfl
  · simp only [decide_mapRelay]
    exact act_mapRelay alike _ host _ _ _

/-- A call does the same with relays that answer alike. -/
theorem perform_mapRelay (alike : RelayMap change) (engine : Engine σ) (host : Host) (call : Call) :
    (engine.mapRelay change).perform host call = (engine.perform host call).mapRelay change := by
  cases call with
  | submit height contract => simp only [perform, submit_mapRelay alike, Prod.map_snd]
  | submitTrigger hex => simp only [perform, submitTrigger_mapRelay alike, Prod.map_snd]
  | voteForContract height text =>
    simp only [perform, voteForContract_mapRelay alike, Prod.map_snd]
  | tick force => simp only [perform, tick_mapRelay alike, Prod.map_snd]
  | _ => exact perform_mapRelay_of_quiet engine host trivial

/-! ### What a call hands over -/

/-- The engine with its relay under watch. -/
def watched (engine : Engine σ) : Engine (WatchedRelay σ) :=
  engine.mapRelay fun relay => { relay }

/-- What the relay is handed in a call. -/
def handovers (engine : Engine σ) (host : Host) (call : Call) : List Handover :=
  (engine.watched.perform host call).relay.log

/-- Under watch, a call does what it does otherwise. -/
theorem perform_watched (engine : Engine σ) (host : Host) (call : Call) :
    (engine.watched.perform host call).mapRelay WatchedRelay.relay = engine.perform host call := by
  rw [← perform_mapRelay relayMap_watched]
  rfl

end Engine

end SuperblockGovernance
