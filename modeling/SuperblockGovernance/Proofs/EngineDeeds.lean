/-
The deeds of an engine. Whatever is asked of an engine comes down to a few deeds: it assesses
a target, takes note of sporks, submits a payload, takes in an object or a vote that passed
its checks, casts a vote of its own on an object that is stored, forgets a vote or an object,
confirms a fingerprint, or prunes old objects. So whatever every deed keeps, every call
keeps, and what a deed changes is said once for all calls.
-/

import SuperblockGovernance.Engine.Blocks
import SuperblockGovernance.Engine.Receiving
import SuperblockGovernance.Engine.Tick
import SuperblockGovernance.Proofs.StoreCoherence
import SuperblockGovernance.Proofs.TriggerTexts
import SuperblockGovernance.Proofs.VotePlans

namespace SuperblockGovernance

/-- What may be asked of an engine that changes it. -/
inductive Call
  | assess (target : Height)
  | prominence (height : Height)
  | buildContract (height : Height) (forCreation : Bool)
  | refreshSporks
  | submit (height : Height) (contract : Contract)
  | submitTrigger (hex : String)
  | receiveObject (id : ObjectId) (submission : Submission)
  | receiveVote (vote : Vote)
  | receiveOctets (octets : Octets)
  | voteForContract (height : Height) (text : String)
  | retractVote (vote : Vote)
  | retractObject (id : ObjectId)
  | connectBlock (height : Height) (coinbase : List CoinbaseOutput)
  | tick (force : Bool)

/-- The objects that a call hands in have names that their submissions may have. A message names an
object by its content. -/
def Call.Names (names : ObjectId → Submission → Prop) : Call → Prop
  | .receiveObject id submission => names id submission
  | .receiveOctets octets => ∀ submission rest,
    Wire.message.read octets = some (.object submission.objectId submission, rest) →
      names submission.objectId submission
  | _ => True

/-- Any name will do. -/
def AnyName (_ : ObjectId) (_ : Submission) : Prop :=
  True

/-- No name will do: no object is taken in. -/
def NoName (_ : ObjectId) (_ : Submission) : Prop :=
  False

theorem Call.names_any (call : Call) : call.Names AnyName := by
  cases call with
  | receiveOctets octets => exact fun _ _ _ => trivial
  | _ => trivial

namespace Engine

variable {σ : Type}

/-- The engine after a call. -/
def perform [Relay σ] (engine : Engine σ) (host : Host) : Call → Engine σ
  | .assess target => (engine.assess host target).2
  | .prominence height => (engine.prominence host height).2
  | .buildContract height forCreation => (engine.buildContract host height forCreation).2
  | .refreshSporks => engine.refreshSporks host
  | .submit height contract => (engine.submit host height contract).2
  | .submitTrigger hex => (engine.submitTrigger host hex).2
  | .receiveObject id submission => (engine.receiveObject host id submission).2
  | .receiveVote vote => (engine.receiveVote host vote).2
  | .receiveOctets octets => (engine.receiveOctets host octets).2
  | .voteForContract height text => (engine.voteForContract host height text).2
  | .retractVote vote => engine.retractVote vote
  | .retractObject id => engine.retractObject id
  | .connectBlock height coinbase => engine.connectBlock host height coinbase
  | .tick force => (engine.tick host force).2

/-! ### Deeds -/

/-- One deed of an engine at a host. An object that is taken in has a name that its submission may
have. -/
inductive Deed [Relay σ] (names : ObjectId → Submission → Prop) (host : Host)
    (engine : Engine σ) : Engine σ → Prop
  | assess (target : Height) : Deed names host engine (engine.assess host target).2
  | refreshSporks : Deed names host engine (engine.refreshSporks host)
  | submit {identity : Identity} {payload : TriggerPayload}
      (own : host.localIdentity = some identity)
      (scheduled : engine.config.cadence.IsSuperblock payload.eventHeight)
      (typed : payload.objectType = TriggerPayload.triggerType) :
      Deed names host engine (engine.submitPayload host identity payload).2
  | takeObject {id : ObjectId} {submission : Submission} {payload : TriggerPayload}
      (named : names id submission)
      (accepted : engine.acceptSubmission host submission = .ok payload) :
      Deed names host engine
        { engine with store := (engine.store.insert (.ofSubmission id submission payload)).2 }
  | takeVote {vote : Vote} (accepted : engine.acceptVote host vote = .ok ()) :
      Deed names host engine { engine with store := (engine.store.recordVote vote).2 }
  | castVote {identity : Identity} {intent : VoteIntent}
      (own : host.localIdentity = some identity) (known : engine.store.Knows intent.object) :
      Deed names host engine (Casting.step host identity { engine } intent).engine
  | retractVote (vote : Vote) : Deed names host engine (engine.retractVote vote)
  | retractObject (id : ObjectId) : Deed names host engine (engine.retractObject id)
  | confirm (height : Height) (fingerprint : Fingerprint) :
      Deed names host engine { engine with store := (engine.store.confirm height fingerprint).2 }
  | prune (height : Height) :
      Deed names host engine { engine with store := (engine.store.prune height).2 }

/-- Any number of deeds, one after the other. -/
abbrev Deeds [Relay σ] (names : ObjectId → Submission → Prop) (host : Host) :
    Engine σ → Engine σ → Prop :=
  Relation.ReflTransGen (Deed names host)

variable {names : ObjectId → Submission → Prop} {host : Host} {engine after : Engine σ}

/-- Deeds that take in no object are deeds whatever the names may be. -/
theorem Deeds.of_none [Relay σ] (deeds : Deeds NoName host engine after) :
    Deeds names host engine after := by
  refine Relation.ReflTransGen.mono (fun before next deed => ?_) _ _ deeds
  cases deed with
  | assess target => exact .assess target
  | refreshSporks => exact .refreshSporks
  | submit own scheduled typed => exact .submit own scheduled typed
  | takeObject named accepted => exact named.elim
  | takeVote accepted => exact .takeVote accepted
  | castVote own known => exact .castVote own known
  | retractVote vote => exact .retractVote vote
  | retractObject id => exact .retractObject id
  | confirm height fingerprint => exact .confirm height fingerprint
  | prune height => exact .prune height

/-! ### What is accepted -/

theorem prepareTrigger_eq_ok {height : Height} {contract : Contract} {payload : TriggerPayload}
    (prepared : engine.prepareTrigger host height contract = .ok payload) :
    engine.config.cadence.IsSuperblock height ∧
      TriggerPayload.ofContract contract height host.now (host.budgetLimit height) =
        .ok payload := by
  rw [prepareTrigger] at prepared
  by_cases scheduled : engine.config.cadence.IsSuperblock height
  · rw [if_neg (not_not_intro scheduled)] at prepared
    split at prepared
    · cases prepared
    · obtain ⟨_, _, made⟩ := bind_eq_ok_iff.mp prepared
      exact ⟨scheduled, made⟩
  · rw [if_pos scheduled] at prepared
    cases prepared

/-- A payload that was prepared is a trigger for a superblock height. -/
theorem scheduled_of_prepareTrigger {height : Height} {contract : Contract}
    {payload : TriggerPayload}
    (prepared : engine.prepareTrigger host height contract = .ok payload) :
    engine.config.cadence.IsSuperblock payload.eventHeight ∧
      payload.objectType = TriggerPayload.triggerType := by
  obtain ⟨scheduled, made⟩ := prepareTrigger_eq_ok prepared
  have presents := TriggerPayload.presents_of_ofContract made
  rw [presents.target]
  exact ⟨scheduled, presents.typed⟩

/-- The own sanctuary may submit while its governance data is synced. -/
theorem submitter_eq_ok_iff {identity : Identity} :
    host.submitter = .ok identity ↔
      host.localIdentity = some identity ∧ host.governanceSynced = true := by
  rw [Host.submitter]
  cases host.localIdentity with
  | none => exact iff_of_false nofun fun both => nomatch both.1
  | some own => cases host.governanceSynced <;> simp

/-- A trigger that is accepted was read, from a sanctuary that may submit for a superblock
height. -/
theorem acceptTrigger_eq_ok {hex : String} {identity : Identity} {payload : TriggerPayload}
    (accepted : engine.acceptTrigger host hex = .ok (identity, payload)) :
    host.submitter = .ok identity ∧ TriggerPayload.ofHex hex = .ok payload ∧
      engine.config.cadence.IsSuperblock payload.eventHeight := by
  rw [acceptTrigger] at accepted
  obtain ⟨_, submits, afterIdentity⟩ := bind_eq_ok_iff.mp accepted
  obtain ⟨read, readFrom, afterRead⟩ := bind_eq_ok_iff.mp afterIdentity
  dsimp only at afterRead
  by_cases scheduled : engine.config.cadence.IsSuperblock read.eventHeight
  · rw [if_neg (not_not_intro scheduled)] at afterRead
    obtain ⟨_, _, afterPayouts⟩ := bind_eq_ok_iff.mp afterRead
    split at afterPayouts
    · cases afterPayouts
    · obtain ⟨_, _, result⟩ := bind_eq_ok_iff.mp afterPayouts
      cases result
      exact ⟨mapError_eq_ok_iff.mp submits, mapError_eq_ok_iff.mp readFrom, scheduled⟩
  · rw [if_pos scheduled] at afterRead
    cases afterRead

/-- The superblock heights up to the horizon may carry an object that is received. -/
theorem checkHorizon_eq_ok_iff {height : Height} :
    engine.checkHorizon host height = .ok () ↔
      engine.config.cadence.IsSuperblock height ∧
        ∀ horizon ∈ engine.horizon host, height ≤ horizon := by
  rw [checkHorizon]
  by_cases scheduled : engine.config.cadence.IsSuperblock height
  · rw [if_neg (not_not_intro scheduled), and_iff_right scheduled]
    cases engine.horizon host with
    | none => exact iff_of_true rfl nofun
    | some horizon =>
      by_cases beyond : horizon < height
      · exact iff_of_false (by simp [beyond]) fun near => UInt32.not_lt.mpr (near _ rfl) beyond
      · refine iff_of_true (if_neg beyond) fun other same => ?_
        cases same
        exact UInt32.not_lt.mp beyond
  · rw [if_pos scheduled]
    exact iff_of_false nofun fun both => scheduled both.1

theorem near_of_horizon_eq {bound height : Height} (known : engine.horizon host = some bound)
    (near : height ≤ bound) : ∀ horizon ∈ engine.horizon host, height ≤ horizon := by
  rw [known]
  rintro _ ⟨⟩
  exact near

/-- A submission is accepted as the payload that is read from it, for a superblock height within the
horizon, when it is verified and from a sanctuary that is valid there. -/
theorem acceptSubmission_eq_ok_iff {submission : Submission} {payload : TriggerPayload} :
    engine.acceptSubmission host submission = .ok payload ↔
      TriggerPayload.ofHex submission.payloadHex = .ok payload ∧
        engine.config.cadence.IsSuperblock payload.eventHeight ∧
        (∀ horizon ∈ engine.horizon host, payload.eventHeight ≤ horizon) ∧
        host.verifySubmission submission = true ∧
        host.isValidIdentity submission.submitter payload.eventHeight = true := by
  rw [acceptSubmission]
  constructor
  · intro accepted
    obtain ⟨read, readFrom, afterRead⟩ := bind_eq_ok_iff.mp accepted
    obtain ⟨_, within, afterHorizon⟩ := bind_eq_ok_iff.mp afterRead
    split at afterHorizon
    · rename_i checked
      cases afterHorizon
      obtain ⟨scheduled, near⟩ := checkHorizon_eq_ok_iff.mp (mapError_eq_ok_iff.mp within)
      obtain ⟨verified, valid⟩ := Bool.and_eq_true_iff.mp checked
      exact ⟨mapError_eq_ok_iff.mp readFrom, scheduled, near, verified, valid⟩
    · cases afterHorizon
  · rintro ⟨readFrom, scheduled, near, verified, valid⟩
    refine bind_eq_ok_iff.mpr ⟨payload, mapError_eq_ok_iff.mpr readFrom, ?_⟩
    have within := checkHorizon_eq_ok_iff.mpr ⟨scheduled, near⟩
    refine bind_eq_ok_iff.mpr ⟨(), mapError_eq_ok_iff.mpr within, ?_⟩
    rw [verified, valid]
    rfl

/-- A vote is accepted when it is verified, on a stored object, and from a sanctuary that is valid
at the target of the object. -/
theorem acceptVote_eq_ok_iff {vote : Vote} :
    engine.acceptVote host vote = .ok () ↔
      ∃ object, engine.store.get? vote.object = some object ∧ host.verifyVote vote = true ∧
        host.isValidIdentity vote.voter object.targetHeight = true := by
  rw [acceptVote]
  cases engine.store.get? vote.object with
  | none => exact iff_of_false nofun nofun
  | some object =>
    simp only [Option.some.injEq, exists_eq_left']
    cases host.verifyVote vote <;>
      cases host.isValidIdentity vote.voter object.targetHeight <;> simp

/-! ### What a deed changes -/

/-- An assessment changes nothing but what is kept of assessments. -/
theorem exists_cache_assess (engine : Engine σ) (host : Host) (target : Height) :
    ∃ cache, (engine.assess host target).2 = { engine with cache } := by
  rw [assess]
  cases engine.cached? target (host.seedAt (engine.snapshotFor target)) with
  | some assessment => exact ⟨engine.cache, rfl⟩
  | none => exact ⟨_, rfl⟩

theorem store_assess (engine : Engine σ) (host : Host) (target : Height) :
    (engine.assess host target).2.store = engine.store := by
  obtain ⟨cache, same⟩ := exists_cache_assess engine host target
  rw [same]

theorem config_assess (engine : Engine σ) (host : Host) (target : Height) :
    (engine.assess host target).2.config = engine.config := by
  obtain ⟨cache, same⟩ := exists_cache_assess engine host target
  rw [same]

theorem store_prominence (engine : Engine σ) (host : Host) (height : Height) :
    (engine.prominence host height).2.store = engine.store := by
  rw [prominence]
  cases engine.resolveHeight host height with
  | error cause => rfl
  | ok target => exact store_assess engine host target

/-- A contract is built without changing anything but what is kept of assessments. -/
theorem exists_cache_buildContract (engine : Engine σ) (host : Host) (height : Height)
    (forCreation : Bool) :
    ∃ cache, (engine.buildContract host height forCreation).2 = { engine with cache } := by
  rw [buildContract]
  cases engine.resolveHeight host height with
  | error cause => exact ⟨engine.cache, rfl⟩
  | ok target => exact exists_cache_assess engine host target

theorem config_buildContract (engine : Engine σ) (host : Host) (height : Height)
    (forCreation : Bool) :
    (engine.buildContract host height forCreation).2.config = engine.config := by
  obtain ⟨cache, same⟩ := exists_cache_buildContract engine host height forCreation
  rw [same]

theorem store_buildContract (engine : Engine σ) (host : Host) (height : Height)
    (forCreation : Bool) :
    (engine.buildContract host height forCreation).2.store = engine.store := by
  obtain ⟨cache, same⟩ := exists_cache_buildContract engine host height forCreation
  rw [same]

/-- Casting a vote holds it, if the relay took it, and changes nothing else in the store. -/
theorem store_castVote [Relay σ] (engine : Engine σ) (host : Host) (identity : Identity)
    (intent : VoteIntent) :
    (Casting.step host identity { engine } intent).engine.store =
        (engine.store.recordVote (host.signedVote identity intent)).2 ∨
      (Casting.step host identity { engine } intent).engine.store = engine.store := by
  rw [Casting.step]
  split
  · exact Or.inl rfl
  · exact Or.inr rfl

/-- A submission moves the relay only by handing it what was signed. -/
theorem relay_submitPayload [Relay σ] (engine : Engine σ) (host : Host) (identity : Identity)
    (payload : TriggerPayload) :
    (engine.submitPayload host identity payload).2.relay = engine.relay ∨
      (engine.submitPayload host identity payload).2.relay =
        (Relay.submitObject engine.relay (host.signedSubmission identity payload)).2 := by
  rw [submitPayload]
  rcases engine.store.submit_cases engine.relay engine.config.submitRateLimitSecs payload
    (host.signedSubmission identity payload) with
      ⟨_, _, same⟩ | ⟨_, _, _, answered, same⟩ | ⟨_, _, _, answered, same⟩
  · rw [same]
    exact Or.inl rfl
  · rw [same, answered]
    exact Or.inr rfl
  · rw [same, answered]
    exact Or.inr rfl

theorem relay_castVote [Relay σ] (engine : Engine σ) (host : Host) (identity : Identity)
    (intent : VoteIntent) :
    (Casting.step host identity { engine } intent).engine.relay =
      (Relay.relayVote engine.relay (host.signedVote identity intent)).2 := by
  rw [Casting.step]
  rcases Relay.relayVote engine.relay (host.signedVote identity intent) with ⟨cause | _, relay⟩
  · rfl
  · rfl

theorem Deed.config [Relay σ] (deed : Deed names host engine after) :
    after.config = engine.config := by
  cases deed with
  | assess target => exact config_assess engine host target
  | castVote own known =>
    rw [Casting.step]
    split <;> rfl
  | _ => rfl

/-- A deed changes the store only in the ways that keep it coherent. -/
theorem Deed.changes [Relay σ] (deed : Deed names host engine after) :
    TriggerStore.Changes engine.config.cadence engine.store after.store := by
  cases deed with
  | assess target =>
    rw [store_assess]
  | refreshSporks => exact .refl
  | submit own scheduled typed => exact TriggerStore.changes_submit _ _ _ _ scheduled
  | takeObject named accepted =>
    exact .single (.insert (acceptSubmission_eq_ok_iff.mp accepted).2.1)
  | takeVote accepted =>
    obtain ⟨object, known, _⟩ := acceptVote_eq_ok_iff.mp accepted
    exact .single (.recordVote ⟨object, known⟩)
  | @castVote identity intent own known =>
    rcases store_castVote engine host identity intent with held | refused
    · rw [held]
      exact .single (.recordVote known)
    · rw [refused]
  | retractVote vote => exact .single (.retractVote vote)
  | retractObject id => exact .single (.retractObject id)
  | confirm height fingerprint => exact .single (.confirm height fingerprint)
  | prune height => exact .single (.prune height)

/-- Only an assessment changes what is kept of assessments. -/
theorem Deed.cache [Relay σ] (deed : Deed names host engine after) :
    after.cache = engine.cache ∨ ∃ target, after = (engine.assess host target).2 := by
  cases deed with
  | assess target => exact Or.inr ⟨target, rfl⟩
  | castVote own known =>
    rw [Casting.step]
    split <;> exact Or.inl rfl
  | _ => exact Or.inl rfl

theorem Deed.coherent [Relay σ] (deed : Deed names host engine after)
    (before : engine.store.Coherent engine.config.cadence) :
    after.store.Coherent after.config.cadence := by
  rw [deed.config]
  exact before.changes deed.changes

theorem Deeds.coherent [Relay σ] (deeds : Deeds names host engine after)
    (before : engine.store.Coherent engine.config.cadence) :
    after.store.Coherent after.config.cadence := by
  induction deeds with
  | refl => exact before
  | tail _ deed inductionHypothesis => exact deed.coherent inductionHypothesis

/-- What every deed of a coherent engine keeps, any number of deeds keep. -/
theorem Deeds.invariant [Relay σ] {holds : Engine σ → Prop}
    (kept : ∀ engine after, engine.store.Coherent engine.config.cadence →
      Deed names host engine after → holds engine → holds after)
    (deeds : Deeds names host engine after) (coherent : engine.store.Coherent engine.config.cadence)
    (before : holds engine) : holds after := by
  induction deeds with
  | refl => exact before
  | tail earlier deed inductionHypothesis =>
    exact kept _ _ (Deeds.coherent earlier coherent) deed inductionHypothesis

/-! ### Heights -/

/-- Zero stands for the next superblock of any tip, which stands for itself, if it is one. -/
theorem resolveHeight_next {tip : ChainTip} {target : Height} (found : host.tip = some tip)
    (next : (engine.config.cadence.around tip.height).2 = target) :
    engine.resolveHeight host 0 = .ok target ∧
      engine.resolveHeight host target =
        if target = 0 ∨ engine.config.cadence.IsSuperblock target then .ok target
        else .error (.notSuperblockHeight target) := by
  have zero : engine.resolveHeight host 0 = .ok target := by
    rw [resolveHeight, superblockHeights, found, ← next]
    rfl
  refine ⟨zero, ?_⟩
  by_cases none : target = 0
  · rw [if_pos (Or.inl none), ← zero, none]
  · rw [resolveHeight, if_neg none]
    simp only [none, false_or]

/-! ### Assessments -/

theorem deeds_prominence [Relay σ] (engine : Engine σ) (host : Host) (height : Height) :
    Deeds names host engine (engine.prominence host height).2 := by
  rw [prominence]
  cases engine.resolveHeight host height with
  | error cause => exact .refl
  | ok target => exact .single (.assess target)

theorem deeds_buildContract [Relay σ] (engine : Engine σ) (host : Host) (height : Height)
    (forCreation : Bool) :
    Deeds names host engine (engine.buildContract host height forCreation).2 := by
  rw [buildContract]
  cases engine.resolveHeight host height with
  | error cause => exact .refl
  | ok target => exact .single (.assess target)

/-- The contract for a height carries the allocation of its assessment, with a phase of its own. -/
theorem payouts_of_buildContract {height : Height} {forCreation : Bool} {contract : Contract}
    (built : (engine.buildContract host height forCreation).1 = .ok contract) :
    ∃ target, contract.allocation.payouts = (engine.assess host target).1.allocation.payouts := by
  rw [buildContract] at built
  split at built
  · cases built
  · rename_i target _
    cases built
    refine ⟨target, ?_⟩
    rw [contractOf]
    split <;> rfl

/-! ### Submissions -/

/-- A contract is refused, or its payload is submitted by the sanctuary that may submit. -/
theorem submit_cases [Relay σ] (engine : Engine σ) (host : Host) (height : Height)
    (contract : Contract) :
    (∃ cause, engine.submit host height contract = (.error cause, engine)) ∨
      ∃ identity payload, host.submitter = .ok identity ∧
        engine.prepareTrigger host height contract = .ok payload ∧
        engine.submit host height contract = engine.submitPayload host identity payload := by
  rw [submit]
  split
  · exact Or.inl ⟨_, rfl⟩
  · rename_i identity payload accepted
    obtain ⟨_, submits, afterIdentity⟩ := bind_eq_ok_iff.mp accepted
    obtain ⟨_, prepared, result⟩ := bind_eq_ok_iff.mp afterIdentity
    cases result
    exact Or.inr ⟨identity, payload, submits, prepared, rfl⟩

/-- A trigger given as text is refused, or the payload that was accepted is submitted. -/
theorem submitTrigger_cases [Relay σ] (engine : Engine σ) (host : Host) (hex : String) :
    (∃ cause, engine.submitTrigger host hex = (.error cause, engine)) ∨
      ∃ identity payload, engine.acceptTrigger host hex = .ok (identity, payload) ∧
        engine.submitTrigger host hex =
          ((engine.submitPayload host identity payload).1.mapError .submit,
            (engine.submitPayload host identity payload).2) := by
  rw [submitTrigger]
  split
  · exact Or.inl ⟨_, rfl⟩
  · rename_i identity payload accepted
    exact Or.inr ⟨identity, payload, accepted, rfl⟩

theorem deeds_submit [Relay σ] (engine : Engine σ) (host : Host) (height : Height)
    (contract : Contract) : Deeds names host engine (engine.submit host height contract).2 := by
  rcases engine.submit_cases host height contract with
    ⟨cause, refused⟩ | ⟨identity, payload, submits, prepared, same⟩
  · rw [refused]
  · obtain ⟨scheduled, typed⟩ := scheduled_of_prepareTrigger prepared
    rw [same]
    exact .single (.submit (submitter_eq_ok_iff.mp submits).1 scheduled typed)

theorem deeds_submitTrigger [Relay σ] (engine : Engine σ) (host : Host) (hex : String) :
    Deeds names host engine (engine.submitTrigger host hex).2 := by
  rcases engine.submitTrigger_cases host hex with
    ⟨cause, refused⟩ | ⟨identity, payload, accepted, same⟩
  · rw [refused]
  · obtain ⟨submits, read, scheduled⟩ := acceptTrigger_eq_ok accepted
    have typed := TriggerPayload.type_of_ofHex read
    rw [same]
    exact .single (.submit (submitter_eq_ok_iff.mp submits).1 scheduled typed)

/-! ### Messages -/

/-- A submission that is accepted is taken in as an object. -/
theorem perform_receiveObject [Relay σ] {engine : Engine σ} {host : Host} {submission : Submission}
    {payload : TriggerPayload}
    (accepted : engine.acceptSubmission host submission = .ok payload) (id : ObjectId) :
    engine.perform host (.receiveObject id submission) =
      { engine with store := (engine.store.insert (.ofSubmission id submission payload)).2 } := by
  rw [perform, receiveObject, accepted]

theorem deeds_receiveObject [Relay σ] (engine : Engine σ) (host : Host) {id : ObjectId}
    {submission : Submission} (named : names id submission) :
    Deeds names host engine (engine.receiveObject host id submission).2 := by
  rw [receiveObject]
  split
  · exact .refl
  · rename_i payload accepted
    exact .single (.takeObject named accepted)

theorem deeds_receiveVote [Relay σ] (engine : Engine σ) (host : Host) (vote : Vote) :
    Deeds names host engine (engine.receiveVote host vote).2 := by
  rw [receiveVote]
  split
  · exact .refl
  · rename_i accepted
    exact .single (.takeVote accepted)

theorem deeds_receiveOctets [Relay σ] (engine : Engine σ) (host : Host) {octets : Octets}
    (named : ∀ submission rest,
      Wire.message.read octets = some (.object submission.objectId submission, rest) →
        names submission.objectId submission) :
    Deeds names host engine (engine.receiveOctets host octets).2 := by
  rw [receiveOctets]
  split
  · exact .refl
  · rename_i message rest read
    cases message with
    | object id submission =>
      rw [receiveMessage]
      split
      · rename_i same
        subst same
        exact deeds_receiveObject engine host (named submission rest read)
      · exact .refl
    | vote vote => exact deeds_receiveVote engine host vote

/-! ### Votes of this node -/

/-- The candidates for a height are the stored objects with that target under their votes. -/
theorem mem_candidatesAt_iff (coherent : engine.store.Coherent engine.config.cadence)
    {height : Height} {candidate : Candidate} :
    candidate ∈ engine.candidatesAt height ↔ ∃ object, engine.store.get? object.id = some object ∧
      object.targetHeight = height ∧ engine.store.candidate object = candidate := by
  rw [candidatesAt, List.mem_map]
  simp only [coherent.mem_objectsAt_iff, and_assoc]

theorem mem_expiredCandidates_iff (coherent : engine.store.Coherent engine.config.cadence)
    {candidate : Candidate} :
    candidate ∈ engine.expiredCandidates host ↔ ∃ object,
      engine.store.get? object.id = some object ∧ engine.store.isConfirmed object.id = false ∧
      engine.store.candidate object = candidate ∧
      (engine.Missed host candidate ∨ engine.Unsupported host candidate) := by
  rw [expiredCandidates, List.mem_filter, List.mem_map, decide_eq_true_iff]
  constructor
  · rintro ⟨⟨object, member, rfl⟩, stale⟩
    obtain ⟨stored, unmarked⟩ := List.mem_filter.mp member
    obtain ⟨id, held⟩ := SortedMap.mem_values_iff.mp stored
    have own : object.id = id := coherent.named id object held
    exact ⟨object, own ▸ held, by simpa using unmarked, rfl, stale⟩
  · rintro ⟨object, held, unmarked, rfl, stale⟩
    have stored := SortedMap.mem_values_iff.mpr ⟨object.id, held⟩
    refine ⟨⟨object, List.mem_filter.mpr ⟨stored, ?_⟩, rfl⟩, stale⟩
    rw [unmarked, Bool.not_false]

theorem knows_of_mem_expired (coherent : engine.store.Coherent engine.config.cadence)
    {candidate : Candidate} (expired : candidate ∈ engine.expiredCandidates host) :
    engine.store.Knows candidate.id := by
  obtain ⟨object, held, _, rfl, _⟩ := (mem_expiredCandidates_iff coherent).mp expired
  exact ⟨object, held⟩

/-- A plan votes on stored objects only. -/
theorem knows_of_mem_plan (coherent : engine.store.Coherent engine.config.cadence)
    {target : Height} {fingerprint : Fingerprint} {identity : Identity} {intent : VoteIntent}
    (member : intent ∈ (engine.plan host target fingerprint identity).intents) :
    engine.store.Knows intent.object := by
  obtain ⟨candidate, standing | expired, same⟩ := PlanTerms.object_of_mem_intents member
  · obtain ⟨object, held, _, rfl⟩ := (mem_candidatesAt_iff coherent).mp standing
    exact same ▸ ⟨object, held⟩
  · exact same ▸ knows_of_mem_expired coherent expired

theorem knows_recordVote {store : TriggerStore} {vote : Vote} {id : ObjectId} :
    (store.recordVote vote).2.Knows id ↔ store.Knows id := by
  rw [TriggerStore.recordVote]
  split <;> rfl

/-- Casting goes by the engine alone, not by what was cast before. -/
theorem engine_step [Relay σ] (casting : Casting σ) (host : Host) (identity : Identity)
    (intent : VoteIntent) :
    (casting.step host identity intent).engine =
      (Casting.step host identity { engine := casting.engine } intent).engine := by
  rcases taken : Relay.relayVote casting.engine.relay (host.signedVote identity intent) with
    ⟨cause | _, relay⟩
  · simp only [Casting.step, taken]
  · simp only [Casting.step, taken]

/-- What every vote of a list keeps, casting the whole list keeps. -/
theorem castVotes_invariant [Relay σ] (holds : Engine σ → Prop) {identity : Identity}
    {intents : List VoteIntent}
    (kept : ∀ before, holds before → ∀ intent ∈ intents,
      holds (Casting.step host identity { engine := before } intent).engine)
    (first : holds engine) : holds (engine.castVotes host identity intents).engine := by
  have each (casting : Casting σ) (before : holds casting.engine) (intent : VoteIntent)
      (member : intent ∈ intents) : holds (casting.step host identity intent).engine := by
    rw [engine_step]
    exact kept casting.engine before intent member
  exact List.foldlRecOn (motive := fun casting : Casting σ => holds casting.engine) intents _
    first each

theorem deeds_castVotes [Relay σ] {identity : Identity}
    (own : host.localIdentity = some identity) {intents : List VoteIntent}
    (known : ∀ intent ∈ intents, engine.store.Knows intent.object) :
    Deeds names host engine (engine.castVotes host identity intents).engine := by
  -- Casting forgets no object, so every vote is still on a stored one when its turn comes.
  suffices both : Deeds names host engine (engine.castVotes host identity intents).engine ∧
      ∀ intent ∈ intents,
        (engine.castVotes host identity intents).engine.store.Knows intent.object from both.1
  refine castVotes_invariant (fun after => Deeds names host engine after ∧
    ∀ intent ∈ intents, after.store.Knows intent.object) ?_ ⟨.refl, known⟩
  rintro before ⟨deeds, stored⟩ intent member
  refine ⟨deeds.tail (.castVote own (stored intent member)), fun other inside => ?_⟩
  rcases store_castVote before host identity intent with held | refused
  · rw [held]
    exact knows_recordVote.mpr (stored other inside)
  · rw [refused]
    exact stored other inside

theorem own_of_acceptContract {height : Height} {text : String} {identity : Identity}
    {target : Height} (accepted : engine.acceptContract host height text = .ok (identity, target)) :
    host.localIdentity = some identity := by
  rw [acceptContract] at accepted
  cases found : host.localIdentity with
  | none =>
    rw [found] at accepted
    cases accepted
  | some own =>
    rw [found] at accepted
    obtain ⟨_, same, afterIdentity⟩ := bind_eq_ok_iff.mp accepted
    obtain ⟨_, _, afterTarget⟩ := bind_eq_ok_iff.mp afterIdentity
    obtain ⟨_, _, result⟩ := bind_eq_ok_iff.mp afterTarget
    cases same
    cases result
    rfl

theorem deeds_voteForContract [Relay σ] (coherent : engine.store.Coherent engine.config.cadence)
    (height : Height) (text : String) :
    Deeds names host engine (engine.voteForContract host height text).2 := by
  rw [voteForContract]
  split
  · exact .refl
  · rename_i accepted
    exact deeds_castVotes (own_of_acceptContract accepted) fun intent member =>
      knows_of_mem_plan coherent member

/-! ### Ticks -/

/-- The action is one that a coherent engine can carry out: it submits a trigger for a superblock
height, or votes on stored objects. -/
def Admits (engine : Engine σ) : TickAction → Prop
  | .submit payload =>
    engine.config.cadence.IsSuperblock payload.eventHeight ∧
      payload.objectType = TriggerPayload.triggerType
  | .vote intents => ∀ intent ∈ intents, engine.store.Knows intent.object
  | .rest => True

/-- A decision waits for the winner, if there is one, and votes. Otherwise it votes as well, or it
creates the trigger that nobody has, if that can be prepared. -/
theorem decideAction_cases (engine : Engine σ) (host : Host) (identity : Identity)
    (tip target : Height) (contract : Contract) (plan : VotePlan) :
    let decision := engine.decideAction host identity tip target contract plan
    (∃ winner, plan.winner = some winner ∧
      decision = (.pendingSuperblock winner.id, .vote plan.intents)) ∨
    (plan.winner = none ∧ decision = (.nothingToDo, .vote plan.intents)) ∨
    (∃ payload, plan.localMatch = none ∧
      engine.prepareTrigger host target contract = .ok payload ∧
      decision = (.nothingToDo, .submit payload)) ∨
    ∃ outcome, ((∃ cause, outcome = .overBudget cause) ∨ ∃ cause, outcome = .submitFailed cause) ∧
      decision = (outcome, .rest) := by
  intro decision
  unfold decision
  rw [decideAction]
  cases plan.winner with
  | some winner => exact Or.inl ⟨winner, rfl, rfl⟩
  | none =>
    refine Or.inr ?_
    by_cases creates :
        plan.localMatch.isNone ∧ (engine.privilegeTerms host tip target).grants identity
    · refine Or.inr ?_
      simp only [if_pos creates, decideCreation]
      cases engine.prepareTrigger host target contract with
      | ok payload => exact Or.inl ⟨payload, Option.isNone_iff_eq_none.mp creates.1, rfl, rfl⟩
      | error cause =>
        cases cause with
        | budget excess => exact Or.inr ⟨_, Or.inl ⟨excess, rfl⟩, rfl⟩
        | _ => exact Or.inr ⟨_, Or.inr ⟨_, rfl⟩, rfl⟩
    · simp only [if_neg creates]
      exact Or.inl ⟨trivial, trivial⟩

theorem admits_decideAction (coherent : engine.store.Coherent engine.config.cadence)
    (identity : Identity) (tip target : Height) (contract : Contract) (fingerprint : Fingerprint) :
    engine.Admits (engine.decideAction host identity tip target contract
      (engine.plan host target fingerprint identity)).2 := by
  rcases engine.decideAction_cases host identity tip target contract
      (engine.plan host target fingerprint identity) with
    ⟨_, _, same⟩ | ⟨_, same⟩ | ⟨payload, _, prepared, same⟩ | ⟨_, _, same⟩
  · rw [same]
    exact fun intent member => knows_of_mem_plan coherent member
  · rw [same]
    exact fun intent member => knows_of_mem_plan coherent member
  · rw [same]
    exact scheduled_of_prepareTrigger prepared
  · rw [same]
    trivial

/-- A tick rests when it cannot build a contract or its contract pays nobody, and otherwise decides
by the plan for the fingerprint of its contract. Only the building of the contract changes the
engine. -/
theorem decide_cases (engine : Engine σ) (host : Host) (tip : Height) (identity : Identity) :
    let target := (engine.config.cadence.around tip).2
    let built := engine.buildContract host target true
    (∃ outcome, (outcome = .nothingToDo ∨ outcome = .emptyContract) ∧
      (∀ contract, built.1 = .ok contract → contract.allocation.isEmpty = true) ∧
      engine.decide host tip identity = ({ outcome, target := some target }, .rest, built.2)) ∨
    ∃ contract, built.1 = .ok contract ∧ contract.allocation.isEmpty = false ∧
      let plan := built.2.plan host target contract.fingerprint identity
      let decision := built.2.decideAction host identity tip target contract plan
      engine.decide host tip identity =
        ({ outcome := decision.1
           target := some target
           fingerprint := some contract.fingerprint
           warning := plan.warning }, decision.2, built.2) := by
  intro target built
  unfold built target
  rw [decide.eq_def]
  dsimp only
  rcases engine.buildContract host (engine.config.cadence.around tip).2 true with
    ⟨cause | contract, after⟩
  · refine Or.inl ⟨.nothingToDo, Or.inl rfl, fun contract impossible => ?_, rfl⟩
    cases impossible
  · cases empty : contract.allocation.isEmpty with
    | true =>
      refine Or.inl ⟨.emptyContract, Or.inr rfl, fun other same => ?_, if_pos empty⟩
      cases same
      exact empty
    | false => exact Or.inr ⟨contract, rfl, empty, if_neg (Bool.eq_false_iff.mp empty)⟩

/-- A tick that votes casts the votes of the plan. -/
theorem intents_of_decideAction {identity : Identity} {tip target : Height} {contract : Contract}
    {plan : VotePlan} {intents : List VoteIntent}
    (decided : (engine.decideAction host identity tip target contract plan).2 = .vote intents) :
    plan.intents = intents := by
  rcases engine.decideAction_cases host identity tip target contract plan with
    ⟨_, _, same⟩ | ⟨_, same⟩ | ⟨_, _, _, same⟩ | ⟨_, _, same⟩ <;> rw [same] at decided
  · exact TickAction.vote.inj decided
  · exact TickAction.vote.inj decided
  · cases decided
  · cases decided

theorem plan_congr {first second : Engine σ} (config : first.config = second.config)
    (store : first.store = second.store) (host : Host) (target : Height)
    (fingerprint : Fingerprint) (identity : Identity) :
    first.plan host target fingerprint identity = second.plan host target fingerprint identity := by
  obtain ⟨_, _, _, _, _⟩ := first
  obtain ⟨_, _, _, _, _⟩ := second
  cases config
  cases store
  rfl

/-- A tick that votes goes by the plan for the contract that it built. -/
theorem intents_of_decide {tip : Height} {identity : Identity} {intents : List VoteIntent}
    (decided : (engine.decide host tip identity).2.1 = .vote intents) :
    let target := (engine.config.cadence.around tip).2
    ∃ contract, (engine.buildContract host target true).1 = .ok contract ∧
      intents = (engine.plan host target contract.fingerprint identity).intents := by
  intro target
  have config := config_buildContract engine host target true
  have store := store_buildContract engine host target true
  rcases engine.decide_cases host tip identity with ⟨_, _, _, rests⟩ | ⟨contract, made, _, votes⟩
  · rw [rests] at decided
    cases decided
  · rw [votes] at decided
    refine ⟨contract, made, ?_⟩
    rw [← intents_of_decideAction decided]
    exact congrArg VotePlan.intents (plan_congr config store host _ _ identity)

/-- What a tick has decided follows the building of its contract and can be carried out. -/
theorem deeds_decide [Relay σ] (coherent : engine.store.Coherent engine.config.cadence)
    (tip : Height) (identity : Identity) :
    Deeds names host engine (engine.decide host tip identity).2.2 ∧
      (engine.decide host tip identity).2.2.Admits (engine.decide host tip identity).2.1 := by
  have deeds : Deeds names host engine _ :=
    deeds_buildContract engine host (engine.config.cadence.around tip).2 true
  rcases engine.decide_cases host tip identity with ⟨_, _, _, rests⟩ | ⟨contract, _, _, decided⟩
  · rw [rests]
    exact ⟨deeds, trivial⟩
  · rw [decided]
    exact ⟨deeds, admits_decideAction (deeds.coherent coherent) identity tip _ contract _⟩

theorem deeds_act [Relay σ] {identity : Identity} (own : host.localIdentity = some identity)
    (report : TickReport) {action : TickAction} (admitted : engine.Admits action) :
    Deeds names host engine (engine.act host identity report action).2 := by
  cases action with
  | submit payload => exact .single (.submit own admitted.1 admitted.2)
  | vote intents =>
    rw [act]
    split
    · exact deeds_castVotes own admitted
    · exact deeds_castVotes own admitted
  | rest => exact .refl

/-- A tick goes on as the own sanctuary at a tip that is not stale, if it is forced or due. -/
theorem passGates_eq_ok_iff {force : Bool} {tip : ChainTip} {identity : Identity} :
    engine.passGates host force = .ok (tip, identity) ↔
      host.tip = some tip ∧ ¬engine.StaleTip host tip ∧ host.localIdentity = some identity ∧
        (force = true ∨ engine.TickHeight tip.height) := by
  rw [passGates]
  constructor
  · intro passed
    split at passed
    · cases passed
    rename_i found
    split at passed
    · cases passed
    rename_i fresh
    split at passed
    · cases passed
    rename_i own
    split at passed
    · rename_i due
      cases passed
      exact ⟨found, fresh, own, due⟩
    · cases passed
  · rintro ⟨found, fresh, own, due⟩
    rw [found, own]
    exact (if_neg fresh).trans (if_pos due)

/-- A tick that goes on carries out its decision. -/
theorem tick_of_passGates [Relay σ] {force : Bool} {tip : ChainTip} {identity : Identity}
    (passed : engine.passGates host force = .ok (tip, identity)) :
    engine.tick host force =
      (engine.decide host tip.height identity).2.2.act host identity
        (engine.decide host tip.height identity).1
        (engine.decide host tip.height identity).2.1 := by
  rw [tick, passed]

theorem deeds_tick [Relay σ] (coherent : engine.store.Coherent engine.config.cadence)
    (force : Bool) : Deeds names host engine (engine.tick host force).2 := by
  rw [tick]
  split
  · exact .refl
  · rename_i tip identity passed
    obtain ⟨deeds, admitted⟩ := deeds_decide coherent tip.height identity
    exact deeds.trans (deeds_act (passGates_eq_ok_iff.mp passed).2.2.1 _ admitted)

/-! ### Blocks -/

theorem deeds_confirmPaid [Relay σ] (engine : Engine σ) (host : Host) (height : Height)
    (coinbase : List CoinbaseOutput) :
    Deeds NoName host engine { engine with store := engine.confirmPaid host height coinbase } := by
  rw [confirmPaid]
  split
  · exact .refl
  split
  · exact .single (.confirm _ _)
  · exact .refl

theorem deeds_connectBlock [Relay σ] (engine : Engine σ) (host : Host) (height : Height)
    (coinbase : List CoinbaseOutput) :
    Deeds NoName host engine (engine.connectBlock host height coinbase) := by
  have confirmed : Deeds NoName host engine _ := deeds_confirmPaid engine host height coinbase
  rw [connectBlock]
  split
  · exact .tail confirmed (.prune _)
  · exact confirmed

/-! ### Every call -/

/-- A call comes down to deeds. -/
theorem deeds_perform [Relay σ] (coherent : engine.store.Coherent engine.config.cadence)
    {call : Call} (named : call.Names names) :
    Deeds names host engine (engine.perform host call) := by
  cases call with
  | assess target => exact .single (.assess target)
  | prominence height => exact deeds_prominence engine host height
  | buildContract height forCreation => exact deeds_buildContract engine host height forCreation
  | refreshSporks => exact .single .refreshSporks
  | submit height contract => exact deeds_submit engine host height contract
  | submitTrigger hex => exact deeds_submitTrigger engine host hex
  | receiveObject id submission => exact deeds_receiveObject engine host named
  | receiveVote vote => exact deeds_receiveVote engine host vote
  | receiveOctets octets => exact deeds_receiveOctets engine host named
  | voteForContract height text => exact deeds_voteForContract coherent height text
  | retractVote vote => exact .single (.retractVote vote)
  | retractObject id => exact .single (.retractObject id)
  | connectBlock height coinbase => exact (deeds_connectBlock engine host height coinbase).of_none
  | tick force => exact deeds_tick coherent force

end Engine

end SuperblockGovernance
