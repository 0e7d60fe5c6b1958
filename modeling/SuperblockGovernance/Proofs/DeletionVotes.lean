/-
Votes to delete. Whatever a node hands to its relay as a vote is in the plan of its sanctuary,
and a plan asks to delete only objects that are stored, that are not marked as mined, and that
had no quorum in time or no support. An object loses its mark only when it is forgotten itself.
So this node does not ask to delete what a block has marked, whatever else it connects and
receives, until the object was forgotten and is taken in once more: it comes back without its
mark, and with none of the votes that it had.
-/

import SuperblockGovernance.Proofs.Confirmations
import SuperblockGovernance.Proofs.HandedObjects
import SuperblockGovernance.Proofs.StoredObjects

namespace SuperblockGovernance

/-- The vote asks to delete the object. -/
def Vote.AsksToDelete (vote : Vote) (id : ObjectId) : Prop :=
  vote.object = id ∧ vote.signal = .delete ∧ vote.outcome = .yes

instance (vote : Vote) (id : ObjectId) : Decidable (vote.AsksToDelete id) :=
  inferInstanceAs (Decidable (_ ∧ _))

/-! ### Marks that are lost -/

namespace TriggerStore

variable {store : TriggerStore} {id : ObjectId}

/-- The object is not known unless it is marked as mined. -/
def KnownAsMined (store : TriggerStore) (id : ObjectId) : Prop :=
  store.Knows id → store.isConfirmed id = true

theorem knownAsMined_dropObjects (dropped : ObjectId → Bool) (before : store.KnownAsMined id) :
    (store.dropObjects dropped).KnownAsMined id := by
  rintro ⟨object, held⟩
  obtain ⟨known, kept⟩ := get?_dropObjects.mp held
  exact isConfirmed_dropObjects_iff.mpr ⟨before ⟨object, known⟩, kept⟩

theorem knownAsMined_retractObject (other : ObjectId) (before : store.KnownAsMined id) :
    (store.retractObject other).2.KnownAsMined id := by
  unfold retractObject
  extract_lets settled
  have same : settled.KnownAsMined id := by
    unfold settled
    split <;> exact before
  split
  · exact same
  · exact knownAsMined_dropObjects _ same

end TriggerStore

namespace Engine

variable {σ : Type} [Relay σ]

/-! ### The votes that a call hands over -/

/-- The votes that a call hands to the relay. -/
def handedVotes (engine : Engine σ) (host : Host) (call : Call) : List Vote :=
  (engine.handovers host call).filterMap Handover.vote?

variable {engine : Engine σ} {host : Host} {call : Call} {vote : Vote} {id : ObjectId}

/-- Every vote that is handed over is in the plan of the moment. -/
theorem plans_of_handed (handed : vote ∈ engine.handedVotes host call) :
    engine.Plans host vote := by
  have spec := engine.handovers_spec host call
  rw [handedVotes] at handed
  generalize engine.handovers host call = handovers at spec handed
  obtain ⟨handover, inside, same⟩ := List.mem_filterMap.mp handed
  cases spec with
  | object answer own cleared =>
    rw [List.mem_singleton.mp inside] at same
    cases same
  | votes planned =>
    obtain ⟨_, answer, rfl, plans⟩ := planned handover inside
    cases same
    exact plans

/-- What may be asked to be deleted: a stored object, not marked as mined, that had no quorum in
time or has no support at its age. -/
structure Deletable (engine : Engine σ) (host : Host) (object : TriggerObject) : Prop where
  stored : engine.store.get? object.id = some object
  unmarked : engine.store.isConfirmed object.id = false
  stale : engine.Missed host (engine.store.candidate object) ∨
    engine.Unsupported host (engine.store.candidate object)

theorem deletable_of_handed (coherent : engine.store.Coherent engine.config.cadence)
    (handed : vote ∈ engine.handedVotes host call) (asks : vote.AsksToDelete id) :
    ∃ object, object.id = id ∧ engine.Deletable host object := by
  obtain ⟨target, fingerprint, identity, _, ⟨name, signal, outcome⟩, member, rfl⟩ :=
    plans_of_handed handed
  obtain ⟨rfl, rfl, rfl⟩ : name = id ∧ signal = .delete ∧ outcome = .yes := asks
  obtain ⟨candidate, expired, rfl⟩ := PlanTerms.expired_of_deletion member
  obtain ⟨object, stored, unmarked, rfl, stale⟩ := (mem_expiredCandidates_iff coherent).mp expired
  exact ⟨object, rfl, stored, unmarked, stale⟩

/-! ### Runs in which an object does not return -/

omit [Relay σ] in
theorem knownAsMined_connectBlock {height : Height} {coinbase : List CoinbaseOutput}
    (paid : (engine.confirmPaid host height coinbase).KnownAsMined id) :
    (engine.connectBlock host height coinbase).store.KnownAsMined id := by
  rcases engine.store_connectBlock host height coinbase with same | ⟨bound, _, pruned⟩
  · exact same ▸ paid
  · rw [pruned]
    exact TriggerStore.knownAsMined_dropObjects _ paid

/-- A call keeps the mark of an object, or forgets both. -/
theorem knownAsMined_perform (coherent : engine.store.Coherent engine.config.cadence)
    (before : engine.store.KnownAsMined id)
    (once : (engine.perform host call).store.Knows id → engine.store.Knows id) :
    (engine.perform host call).store.KnownAsMined id := by
  intro after
  obtain ⟨object, held⟩ := once after
  have spared (spares : engine.Spares object.targetHeight call) :
      (engine.perform host call).store.isConfirmed id = true :=
    (keepsAt_perform coherent spares).marks id object rfl held (before ⟨object, held⟩)
  -- only two calls forget objects, every other one spares whatever height the object is for
  cases call with
  | retractObject other =>
    exact TriggerStore.knownAsMined_retractObject other before after
  | connectBlock block coinbase =>
    have paid : (engine.confirmPaid host block coinbase).KnownAsMined id := fun _ =>
      (keepsAt_confirmPaid engine host block coinbase).marks id object rfl held
        (before ⟨object, held⟩)
    exact knownAsMined_connectBlock paid after
  | _ => exact spared trivial

/-- One step of a run in which the object is not taken in. -/
inductive NoReturnStep (hosts : Set Host) (id : ObjectId) (engine : Engine σ) : Engine σ → Prop
  | call {host : Host} (member : host ∈ hosts) {call : Call}
      (once : (engine.perform host call).store.Knows id → engine.store.Knows id) :
      NoReturnStep hosts id engine (engine.perform host call)
  | relay (relay : σ) : NoReturnStep hosts id engine { engine with relay }

/-- A run in which the object, once it is forgotten, does not return. -/
abbrev NoReturnRun (hosts : Set Host) (id : ObjectId) : Engine σ → Engine σ → Prop :=
  Relation.ReflTransGen (NoReturnStep hosts id)

theorem NoReturnRun.knownAsMined {hosts : Set Host} {first last : Engine σ}
    (run : NoReturnRun hosts id first last)
    (coherent : first.store.Coherent first.config.cadence)
    (mined : first.store.KnownAsMined id) :
    last.store.Coherent last.config.cadence ∧ last.store.KnownAsMined id := by
  induction run with
  | refl => exact ⟨coherent, mined⟩
  | tail _ step inductionHypothesis =>
    obtain ⟨before, known⟩ := inductionHypothesis
    cases step with
    | call member once =>
      exact ⟨(deeds_perform before (Call.names_any _)).coherent before,
        knownAsMined_perform before known once⟩
    | relay relay => exact ⟨before, known⟩

/-- Once a block has marked an object, no call asks to delete it, whatever blocks are connected and
whatever is received, as long as the object does not return after it was forgotten. At every moment
it is still marked, or it is not known. -/
theorem mined_objects_are_spared {hosts : Set Host} (reached : Reachable hosts engine)
    {height : Height} {coinbase : List CoinbaseOutput}
    (mined : (engine.confirmPaid host height coinbase).isConfirmed id = true) {later : Engine σ}
    (run : NoReturnRun hosts id (engine.connectBlock host height coinbase) later) :
    (later.store.isConfirmed id = true ∨ ¬later.store.Knows id) ∧
      ∀ observer call, ∀ vote ∈ later.handedVotes observer call, ¬vote.AsksToDelete id := by
  have coherent := reached.coherent
  have connected : (engine.connectBlock host height coinbase).store.Coherent
      (engine.connectBlock host height coinbase).config.cadence :=
    (deeds_connectBlock engine host height coinbase).coherent coherent
  have first : (engine.connectBlock host height coinbase).store.KnownAsMined id :=
    knownAsMined_connectBlock fun _ => mined
  obtain ⟨laterCoherent, known⟩ := NoReturnRun.knownAsMined run connected first
  refine ⟨?_, fun observer call vote handed asks => ?_⟩
  · by_cases stored : later.store.Knows id
    · exact Or.inl (known stored)
    · exact Or.inr stored
  · obtain ⟨object, rfl, deletable⟩ := deletable_of_handed laterCoherent handed asks
    have marked := known ⟨object, deletable.stored⟩
    rw [deletable.unmarked] at marked
    cases marked

end Engine

/-! ### The object of the sample run, two cycles later -/

namespace ReturnedObject

/-- The host when the block at 1501 is its tip. -/
def lateHost : Host :=
  { SampleRun.host with tip := some (HostFixture.tipAt 1501) }

/-- The chain at three moments. -/
def hosts : Set Host :=
  {SampleRun.host, ConfirmedRun.host, lateHost}

/-- A vote for the contract of the sample run at the next superblock. -/
def vote : Call :=
  .voteForContract 0 SampleRun.contract.toText

/-- The block at 1501 makes the node forget the object that was mined at 1300. -/
def forgotten : Engine CountingRelay :=
  ConfirmedRun.connected.perform lateHost (.connectBlock 1501 [])

/-- The submission of the object is received once more. -/
def returned (object : TriggerObject) : Engine CountingRelay :=
  forgotten.perform lateHost (.receiveObject 1 object.submission)

theorem mem_hosts : SampleRun.host ∈ hosts ∧ ConfirmedRun.host ∈ hosts ∧ lateHost ∈ hosts := by
  simp [hosts]

theorem reachable_engine : Engine.Reachable hosts SampleRun.engine :=
  ⟨SampleRun.config, {}, Engine.run_of_calls mem_hosts.1 _ SampleRun.calls⟩

theorem run_returned (object : TriggerObject) :
    Engine.Run hosts ConfirmedRun.connected (returned object) :=
  .tail (.single (.call mem_hosts.2.2 _)) (.call mem_hosts.2.2 _)

/-- The object that comes back is the one that was forgotten. -/
theorem returned_eq {object : TriggerObject}
    (stored : SampleRun.engine.store.get? 1 = some object) (target : object.targetHeight = 1300)
    (signed : object.signature.length = 32)
    (valid : lateHost.isValidIdentity object.submitter 1300 = true) :
    returned object = { forgotten with store := (forgotten.store.insert object).2 } := by
  obtain ⟨payload, read, same⟩ := reachable_engine.legible 1 object stored
  have named : object.id = 1 := reachable_engine.coherent.named 1 object stored
  have height : payload.eventHeight = 1300 := by
    rw [← target, same]
    rfl
  have near : ∀ horizon ∈ forgotten.horizon lateHost, payload.eventHeight ≤ horizon := by
    have known : forgotten.horizon lateHost = some 1700 := by decide +kernel
    refine Engine.near_of_horizon_eq known ?_
    rw [height]
    decide
  -- the signature is not computed: its length alone tells it from the one that is not good
  have verified : lateHost.verifySubmission object.submission = true := by
    refine decide_eq_true fun same => ?_
    have length := congrArg List.length same
    rw [TriggerObject.submission, signed] at length
    exact absurd length (by decide)
  have accepted : forgotten.acceptSubmission lateHost object.submission = .ok payload := by
    refine Engine.acceptSubmission_eq_ok_iff.mpr ⟨read, ?_, near, verified, height ▸ valid⟩
    rw [height]
    decide +kernel
  have made : TriggerObject.ofSubmission 1 object.submission payload = object := by
    rw [← named]
    exact same.symm
  rw [returned, Engine.perform_receiveObject accepted, made]

end ReturnedObject

open ReturnedObject in
/-- A later vote took the quorum from the object of the sample run after the block, so it is past
its target without one. It is marked, and the sanctuary does not ask to delete it. -/
theorem sample_mined_object_is_spared :
    (∃ object, ConfirmedRun.later.store.get? 1 = some object ∧
      ConfirmedRun.later.Missed lateHost (ConfirmedRun.later.store.candidate object)) ∧
    ∀ vote ∈ ConfirmedRun.later.handedVotes lateHost ReturnedObject.vote,
      ¬vote.AsksToDelete 1 := by
  have mined : (SampleRun.engine.confirmPaid ConfirmedRun.host 1300
      ConfirmedRun.coinbase).isConfirmed 1 = true := by
    decide +kernel
  have known : ConfirmedRun.connected.store.Knows 1 :=
    Option.isSome_iff_exists.mp (by decide +kernel)
  have run : Engine.NoReturnRun hosts 1 ConfirmedRun.connected ConfirmedRun.later :=
    .single (.call mem_hosts.2.1 fun _ => known)
  have missed : (ConfirmedRun.later.store.get? 1).any (fun object =>
      ConfirmedRun.later.Missed lateHost (ConfirmedRun.later.store.candidate object)) = true := by
    decide +kernel
  obtain ⟨object, stored, late⟩ := (Option.any_eq_true _ _).mp missed
  obtain ⟨_, spared⟩ := Engine.mined_objects_are_spared reachable_engine mined run
  exact ⟨⟨object, stored, of_decide_eq_true late⟩, spared lateHost ReturnedObject.vote⟩

open ReturnedObject in
/-- The block at 1300 marks the object of the sample run. Two cycles later it is forgotten, then it
is received again, and the sanctuary asks to delete it. -/
theorem returned_object_is_deleted :
    Engine.Reachable hosts ConfirmedRun.connected ∧
      ConfirmedRun.connected.store.isConfirmed 1 = true ∧
      ∃ object, SampleRun.engine.store.get? 1 = some object ∧
        Engine.Run hosts ConfirmedRun.connected (returned object) ∧
        ∃ vote ∈ (returned object).handedVotes lateHost ReturnedObject.vote,
          vote.AsksToDelete 1 := by
  obtain ⟨config, relay, run⟩ := reachable_engine
  have reachable : Engine.Reachable hosts ConfirmedRun.connected :=
    ⟨config, relay, run.tail (.call mem_hosts.2.1
      (.connectBlock 1300 ConfirmedRun.coinbase))⟩
  have facts : (SampleRun.engine.store.get? 1).any (fun object =>
      object.targetHeight = 1300 ∧ object.signature.length = 32 ∧
        lateHost.isValidIdentity object.submitter 1300 = true ∧
        ∃ vote ∈ ({ forgotten with store := (forgotten.store.insert object).2 } :
          Engine CountingRelay).handedVotes lateHost ReturnedObject.vote,
            vote.AsksToDelete 1) = true := by
    decide +kernel
  obtain ⟨object, stored, checked⟩ := (Option.any_eq_true _ _).mp facts
  obtain ⟨target, signed, valid, asked⟩ := of_decide_eq_true checked
  rw [← returned_eq stored target signed valid] at asked
  exact ⟨reachable, by decide +kernel, object, stored, run_returned object, asked⟩

end SuperblockGovernance
