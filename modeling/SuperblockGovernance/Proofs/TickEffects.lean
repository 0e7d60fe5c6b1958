/-
What one tick does. A tick builds its contract and then changes only what is stored and what
is relayed. A contract that was built is built again, so a tick that hands nothing over
changes nothing that the next one reads, and the next one hands nothing over either. When the
relay takes everything, a tick has one of three effects on the store: none, the object that
nobody had for the fingerprint of its contract, or the votes of its plan.
-/

import SuperblockGovernance.Proofs.CarriedContracts
import SuperblockGovernance.Proofs.HandedObjects
import SuperblockGovernance.Proofs.PlannedStances
import SuperblockGovernance.Proofs.PublishedContracts
import SuperblockGovernance.Proofs.VoteConvergence

namespace SuperblockGovernance

namespace Engine

variable {σ : Type}

/-! ### Contracts that were built -/

variable {engine : Engine σ} {host : Host}

theorem assess_of_cached {target : Height} {assessment : Assessment}
    (found : engine.cached? target (host.seedAt (engine.snapshotFor target)) = some assessment) :
    engine.assess host target = (assessment, engine) := by
  rw [assess, found]

/-- An assessment is made once, whatever is stored and relayed since. -/
theorem assess_again (engine : Engine σ) (host : Host) (target : Height) (store : TriggerStore)
    (relay : σ) :
    let assessed := engine.assess host target
    let later : Engine σ := { assessed.2 with store, relay }
    later.assess host target = (assessed.1, later) := by
  cases found : engine.cached? target (host.seedAt (engine.snapshotFor target)) with
  | some assessment =>
    rw [assess_of_cached found]
    exact assess_of_cached found
  | none =>
    have made : engine.assess host target = (engine.freshAssessment host target,
        { engine with cache := some (engine.assessmentAt host target) }) := by
      rw [assess, found]
      rfl
    rw [made]
    refine assess_of_cached ?_
    have current : (some (engine.assessmentAt host target)).filter (fun kept =>
        kept.target = target ∧ kept.seed = host.seedAt (engine.snapshotFor target)) =
          some (engine.assessmentAt host target) :=
      Option.filter_eq_some_iff.mpr ⟨rfl, decide_eq_true ⟨rfl, rfl⟩⟩
    exact congrArg (Option.map CachedAssessment.assessment) current

/-- A contract that was built is built again, whatever is stored and relayed since. -/
theorem buildContract_again (engine : Engine σ) (host : Host) (height : Height)
    (forCreation : Bool) (store : TriggerStore) (relay : σ) :
    let built := engine.buildContract host height forCreation
    let later : Engine σ := { built.2 with store, relay }
    later.buildContract host height forCreation = (built.1, later) := by
  intro built later
  have config : later.config = engine.config := config_buildContract engine host height forCreation
  have resolved : later.resolveHeight host height = engine.resolveHeight host height := by
    simp only [resolveHeight, superblockHeights, config]
  rw [buildContract, resolved]
  unfold later built
  rw [buildContract]
  cases engine.resolveHeight host height with
  | error cause => rfl
  | ok target =>
    have again := assess_again engine host target store relay
    dsimp only at again ⊢
    rw [again]
    rfl

/-- The engine after it has built its contract for the next superblock. -/
def prepared (engine : Engine σ) (host : Host) (tip : Height) : Engine σ :=
  (engine.buildContract host (engine.config.cadence.around tip).2 true).2

theorem config_prepared (engine : Engine σ) (host : Host) (tip : Height) :
    (engine.prepared host tip).config = engine.config :=
  config_buildContract engine host _ true

theorem store_prepared (engine : Engine σ) (host : Host) (tip : Height) :
    (engine.prepared host tip).store = engine.store :=
  store_buildContract engine host _ true

theorem buildContract_prepared (engine : Engine σ) (host : Host) (tip : Height) :
    let target := (engine.config.cadence.around tip).2
    (engine.prepared host tip).buildContract host target true =
      engine.buildContract host target true :=
  buildContract_again engine host (engine.config.cadence.around tip).2 true
    (engine.prepared host tip).store (engine.prepared host tip).relay

theorem prepared_prepared (engine : Engine σ) (host : Host) (tip : Height) :
    (engine.prepared host tip).prepared host tip = engine.prepared host tip := by
  rw [prepared, config_prepared, buildContract_prepared, prepared]

/-! ### Decisions -/

/-- A contract that was built ahead makes no difference to a decision. -/
theorem decide_prepared (engine : Engine σ) (host : Host) (tip : Height) (identity : Identity) :
    (engine.prepared host tip).decide host tip identity = engine.decide host tip identity := by
  rw [decide.eq_def, decide.eq_def, config_prepared]
  dsimp only
  rw [buildContract_prepared]

theorem engine_decide (engine : Engine σ) (host : Host) (tip : Height) (identity : Identity) :
    (engine.decide host tip identity).2.2 = engine.prepared host tip := by
  rcases engine.decide_cases host tip identity with ⟨_, _, _, rests⟩ | ⟨_, _, _, decided⟩
  · rw [rests, prepared]
  · rw [decided, prepared]

theorem passGates_congr {other : Engine σ} (config : other.config = engine.config) (host : Host)
    (force : Bool) : other.passGates host force = engine.passGates host force := by
  obtain ⟨_, _, _, _, _⟩ := engine
  obtain ⟨_, _, _, _, _⟩ := other
  cases config
  rfl

/-- A tick creates what is missing. -/
theorem prepareTrigger_of_decideAction {identity : Identity} {tip target : Height}
    {contract : Contract} {plan : VotePlan} {payload : TriggerPayload}
    (decided : (engine.decideAction host identity tip target contract plan).2 = .submit payload) :
    plan.localMatch = none ∧ engine.prepareTrigger host target contract = .ok payload := by
  rcases engine.decideAction_cases host identity tip target contract plan with
    ⟨_, _, same⟩ | ⟨_, same⟩ | ⟨other, alone, prepared, same⟩ | ⟨_, _, same⟩ <;>
      rw [same] at decided
  · cases decided
  · cases decided
  · rw [TickAction.submit.inj decided] at prepared
    exact ⟨alone, prepared⟩
  · cases decided

/-- The fingerprint of the contract that the engine builds for a target. -/
def ownFingerprint (engine : Engine σ) (host : Host) (target : Height) : Fingerprint :=
  ((engine.buildContract host target true).1.toOption.map Contract.fingerprint).getD .zero

theorem ownFingerprint_of_built {target : Height} {contract : Contract}
    (built : (engine.buildContract host target true).1 = .ok contract) :
    engine.ownFingerprint host target = contract.fingerprint := by
  rw [ownFingerprint, built]
  rfl

/-- The trigger of a contract that was built is for its target and has its fingerprint. -/
theorem payload_of_prepareTrigger {other : Engine σ} {target : Height} {contract : Contract}
    {payload : TriggerPayload} (built : (engine.buildContract host target true).1 = .ok contract)
    (prepared : other.prepareTrigger host target contract = .ok payload) :
    payload.eventHeight = target ∧ payload.fingerprint = contract.fingerprint := by
  have presents := TriggerPayload.presents_of_ofContract (prepareTrigger_eq_ok prepared).2
  obtain ⟨quote, quoted, phase, _⟩ := exists_quote_of_buildContract built
  exact ⟨presents.target, presents.fingerprint_eq (by rw [phase, quoted]; rfl)⟩

/-- The payload that a tick submits has the fingerprint of its contract, and no stored object for
the target has it. -/
theorem fingerprint_of_decide (coherent : engine.store.Coherent engine.config.cadence)
    {tip : Height} {identity : Identity} {payload : TriggerPayload}
    (decided : (engine.decide host tip identity).2.1 = .submit payload) :
    let target := (engine.config.cadence.around tip).2
    ¬engine.Carried target (engine.ownFingerprint host target) ∧
      payload.eventHeight = target ∧ payload.fingerprint = engine.ownFingerprint host target := by
  intro target
  have config := config_buildContract engine host target true
  have store := store_buildContract engine host target true
  rcases engine.decide_cases host tip identity with ⟨_, _, _, rests⟩ | ⟨contract, made, _, acts⟩
  · rw [rests] at decided
    cases decided
  · rw [acts] at decided
    obtain ⟨alone, formed⟩ := prepareTrigger_of_decideAction decided
    rw [ownFingerprint_of_built made]
    refine ⟨?_, payload_of_prepareTrigger made formed⟩
    rw [plan_congr config store host target contract.fingerprint identity] at alone
    exact (localMatch?_eq_none_iff coherent).mp (Option.map_eq_none_iff.mp alone)

/-! ### Ticks -/

section Ticks

variable [Relay σ] {force : Bool} {tip : ChainTip} {identity : Identity}

theorem engine_act_vote (engine : Engine σ) (host : Host) (identity : Identity)
    (report : TickReport) (intents : List VoteIntent) :
    (engine.act host identity report (.vote intents)).2 =
      (engine.castVotes host identity intents).engine := by
  rw [act]
  split <;> rfl

/-- A tick builds its contract, and then changes at most what is stored and relayed. -/
theorem exists_tick_eq (passed : engine.passGates host force = .ok (tip, identity)) :
    ∃ store relay, engine.perform host (.tick force) =
      { engine.prepared host tip.height with store, relay } := by
  rw [perform, tick_of_passGates passed, engine_decide]
  generalize engine.prepared host tip.height = before
  cases (engine.decide host tip.height identity).2.1 with
  | submit payload => exact ⟨_, _, rfl⟩
  | vote intents =>
    rw [engine_act_vote]
    refine castVotes_invariant (fun after => ∃ store relay, after = { before with store, relay })
      ?_ ⟨_, _, rfl⟩
    rintro _ ⟨store, relay, rfl⟩ intent _
    rw [Casting.step]
    split <;> exact ⟨_, _, rfl⟩
  | rest => exact ⟨_, _, rfl⟩

/-- A tick does and reports the same under watch. -/
theorem tick_eq_map_watched (engine : Engine σ) (host : Host) (force : Bool) :
    engine.tick host force =
      (engine.watched.tick host force).map id (mapRelay WatchedRelay.relay) :=
  tick_mapRelay relayMap_watched engine.watched host force

/-- Under watch, a tick does what its engine has decided. -/
theorem tick_watched (passed : engine.passGates host force = .ok (tip, identity)) :
    engine.watched.tick host force =
      (engine.prepared host tip.height).watched.act host identity
        (engine.decide host tip.height identity).1
        (engine.decide host tip.height identity).2.1 := by
  have passedToo : engine.watched.passGates host force = .ok (tip, identity) := passed
  rw [tick_of_passGates passedToo, watched, decide_mapRelay, ← engine_decide]
  rfl

theorem perform_watched_tick (passed : engine.passGates host force = .ok (tip, identity)) :
    engine.watched.perform host (.tick force) =
      ((engine.prepared host tip.height).watched.act host identity
        (engine.decide host tip.height identity).1
        (engine.decide host tip.height identity).2.1).2 :=
  congrArg Prod.snd (tick_watched passed)

/-! ### Silent ticks -/

/-- What hands nothing over changes nothing. -/
theorem act_of_silent {watched : Engine (WatchedRelay σ)} {report : TickReport}
    {action : TickAction}
    (silent : (watched.act host identity report action).2.relay.log = watched.relay.log) :
    (watched.act host identity report action).2 = watched := by
  cases action with
  | submit payload =>
    rcases watched.submitPayload_watched host identity payload with same | ⟨answer, sent, _⟩
    · exact same
    · exact absurd (List.append_right_eq_self.mp (sent.symm.trans silent)) (List.cons_ne_nil _ _)
  | vote intents =>
    obtain ⟨added, sent, votes, _⟩ := watched.castVotes_watched host identity intents
    rw [engine_act_vote] at silent ⊢
    obtain rfl : added = [] := List.append_right_eq_self.mp (sent.symm.trans silent)
    obtain rfl : intents = [] := List.map_eq_nil_iff.mp (List.map_eq_nil_iff.mp votes.symm)
    rfl
  | rest => rfl

/-- After a silent tick the engine has built its contract and is otherwise as before. -/
theorem perform_of_silent (passed : engine.passGates host force = .ok (tip, identity))
    (silent : engine.handovers host (.tick force) = []) :
    engine.perform host (.tick force) = engine.prepared host tip.height := by
  rw [handovers, perform_watched_tick passed] at silent
  rw [← perform_watched, perform_watched_tick passed, act_of_silent silent]
  rfl

/-- A tick after a silent tick is silent. -/
theorem silent_again (passed : engine.passGates host force = .ok (tip, identity))
    (silent : engine.handovers host (.tick force) = []) :
    (engine.perform host (.tick force)).handovers host (.tick force) = [] := by
  have passedToo : (engine.prepared host tip.height).passGates host force = .ok (tip, identity) :=
    (passGates_congr (config_prepared engine host tip.height) host force).trans passed
  have same : (engine.prepared host tip.height).watched.perform host (.tick force) =
      engine.watched.perform host (.tick force) := by
    rw [perform_watched_tick passed, perform_watched_tick passedToo, decide_prepared,
      prepared_prepared]
  rw [perform_of_silent passed silent, handovers, same]
  exact silent

/-! ### Effects -/

/-- What a tick hands over and what it stores when the relay takes everything: nothing, the object
that is missing for the fingerprint, or the votes of the plan. -/
inductive Effect (engine : Engine σ) (host : Host) (target : Height) (fingerprint : Fingerprint)
    (identity : Identity) : List Handover → TriggerStore → Prop
  | rests : Effect engine host target fingerprint identity [] engine.store
  | creates {id : ObjectId} {submission : Submission} {payload : TriggerPayload}
      (missing : ¬engine.Carried target fingerprint) (new : engine.store.get? id = none)
      (aimed : payload.eventHeight = target)
      (carries : (TriggerObject.ofSubmission id submission payload).fingerprint = fingerprint) :
      Effect engine host target fingerprint identity [.object submission (.ok id)]
        (engine.store.recordSubmission id submission payload)
  | votes {handovers : List Handover}
      (cast : handovers.map Handover.vote? =
        (engine.plannedVotes host target fingerprint identity).map some) :
      Effect engine host target fingerprint identity handovers
        (engine.store.recordVotes (engine.plannedVotes host target fingerprint identity))

theorem effect_tick (coherent : engine.store.Coherent engine.config.cadence)
    (passed : engine.passGates host force = .ok (tip, identity))
    (taken : ∀ handover ∈ engine.handovers host (.tick force), handover.Taken engine.store) :
    let target := (engine.config.cadence.around tip.height).2
    engine.Effect host target (engine.ownFingerprint host target) identity
      (engine.handovers host (.tick force)) (engine.perform host (.tick force)).store := by
  intro target
  have same : (engine.perform host (.tick force)).store =
      (engine.watched.perform host (.tick force)).store := by
    rw [← perform_watched]
    rfl
  have store : (engine.prepared host tip.height).watched.store = engine.store :=
    store_prepared engine host tip.height
  have log : (engine.prepared host tip.height).watched.relay.log = [] := rfl
  rw [handovers, perform_watched_tick passed] at taken ⊢
  rw [same, perform_watched_tick passed]
  cases decided : (engine.decide host tip.height identity).2.1 with
  | rest =>
    rw [act, store, log]
    exact .rests
  | vote intents =>
    rw [decided, engine_act_vote] at taken
    rw [engine_act_vote]
    obtain ⟨contract, built, planned⟩ := intents_of_decide decided
    obtain ⟨added, sent, votes, held⟩ :=
      castVotes_watched (engine.prepared host tip.height).watched host identity intents
    rw [log, List.nil_append] at sent
    rw [sent] at taken ⊢
    rw [held engine.store taken, store, planned, ownFingerprint_of_built built]
    rw [planned] at votes
    exact .votes votes
  | submit payload =>
    obtain ⟨missing, aimed, carries⟩ := fingerprint_of_decide coherent decided
    rw [decided, act] at taken
    rw [act]
    rcases submitPayload_watched (engine.prepared host tip.height).watched host identity payload
      with unchanged | ⟨answer, sent, recorded⟩
    · rw [unchanged, store, log]
      exact .rests
    · rw [log, List.nil_append] at sent
      rw [sent] at taken ⊢
      obtain ⟨id, rfl, new⟩ := taken _ List.mem_cons_self
      rw [recorded id rfl, store]
      exact .creates missing new aimed carries

end Ticks

end Engine

end SuperblockGovernance
