/-
The stance of a node. Whatever a plan votes, it favours the object that is funded and is
against every other: which of two outcomes a vote has depends only on whether its object is
the funded one. The funded object in turn is found among the stored objects, whatever the
votes on them are, so a node that keeps its objects keeps its stance.
-/

import SuperblockGovernance.Proofs.PrescribedPlans
import SuperblockGovernance.Proofs.TriggeredContracts

namespace SuperblockGovernance

/-- What a vote is on. -/
def Vote.place (vote : Vote) : ObjectId × VoteSignal :=
  (vote.object, vote.signal)

/-! ### Outcomes -/

namespace PlanTerms

/-- The outcome of a planned vote on an object, given the object that is funded. -/
def stance (funded : Option ObjectId) (object : ObjectId) : VoteSignal → VoteOutcome
  | .funding => if funded = some object then .yes else .no
  | .delete => if funded = some object then .no else .yes

theorem stance_congr {funded other : Option ObjectId} {object : ObjectId}
    (same : funded = some object ↔ other = some object) :
    stance funded object = stance other object := by
  funext signal
  cases signal <;> simp only [stance, same]

variable {terms : PlanTerms} {cast : Cast} {intent : VoteIntent}

/-- Every planned vote takes the stance. -/
theorem outcome_of_mem_intents (named : terms.Named)
    (member : intent ∈ (terms.plan cast).intents) :
    intent.outcome = stance (terms.funded?.map Candidate.id) intent.object intent.signal := by
  rcases mem_intents_iff.mp member with approved | rejected | deleted
  · obtain ⟨candidate, funded, ⟨rfl, _⟩ | ⟨rfl, _⟩⟩ := mem_approvals_iff.mp approved
    · rw [stance, funded, Option.map_some, if_pos rfl]
    · rw [stance, funded, Option.map_some, if_pos rfl]
  · obtain ⟨candidate, inside, rfl, _⟩ := mem_firstVotes rejected
    obtain ⟨within, differs⟩ := mem_opposed_iff.mp inside
    refine (if_neg fun same => ?_).symm
    obtain ⟨funded, found, alike⟩ := Option.map_eq_some_iff.mp same
    obtain ⟨matched, carries, _⟩ := localMatch?_spec (funded?_spec found).1
    exact differs (named.eq_of_id matched within alike ▸ carries)
  · obtain ⟨candidate, inside, rfl, _⟩ := mem_firstVotes deleted
    exact (if_neg (mem_deletable_iff.mp inside).2.symm).symm

end PlanTerms

/-! ### Candidates of a store -/

namespace TriggerStore

variable {cadence : Cadence} {store : TriggerStore} {height : Height}

theorem Coherent.nodup_objectsAt (coherent : store.Coherent cadence) (height : Height) :
    ((store.objectsAt height).map TriggerObject.id).Nodup := by
  have names : (store.idsAt height).Nodup := by
    rw [idsAt]
    cases store.byHeight.get? height with
    | none => exact List.nodup_nil
    | some ids => exact ids.nodup_keys
  have objects : (store.objectsAt height).Nodup := by
    refine names.filterMap fun first second object one other => ?_
    rw [← coherent.named first object one, coherent.named second object other]
  refine objects.map_on fun first one second other same => ?_
  have held := (coherent.mem_objectsAt_iff.mp one).1
  rw [same, (coherent.mem_objectsAt_iff.mp other).1] at held
  exact (Option.some.inj held).symm

/-- All objects stand under their own names, each under one. -/
theorem Coherent.nodup_allObjects (coherent : store.Coherent cadence) :
    (store.allObjects.map TriggerObject.id).Nodup := by
  have names : store.allObjects.map TriggerObject.id = store.objects.keys := by
    rw [allObjects, SortedMap.values, SortedMap.keys, List.map_map]
    refine List.map_congr_left fun entry member => ?_
    exact coherent.named entry.1 entry.2 (SortedMap.get?_eq_some_iff.mpr member)
  rw [names]
  exact store.objects.nodup_keys

/-- The object is the least that is stored for the target and carries the fingerprint, and the
payouts that it lists are within the budget. -/
structure Funds (store : TriggerStore) (host : Host) (target : Height) (fingerprint : Fingerprint)
    (object : TriggerObject) : Prop where
  stored : store.get? object.id = some object
  aimed : object.targetHeight = target
  carries : object.fingerprint = fingerprint
  least : ∀ other, store.get? other.id = some other → other.targetHeight = target →
    other.fingerprint = fingerprint → object.id ≤ other.id
  payable : ∃ payouts, object.payouts = .ok payouts ∧
    payouts.total ≤ (host.budgetLimit target).toNat

end TriggerStore

namespace Engine

variable {σ : Type} {engine : Engine σ} {host : Host} {target : Height}
  {fingerprint : Fingerprint} {id : ObjectId}

/-- No two candidates of a coherent engine share a name. -/
theorem named_planTerms (coherent : engine.store.Coherent engine.config.cadence) (host : Host)
    (target : Height) (fingerprint : Fingerprint) :
    (engine.planTerms host target fingerprint).Named where
  candidates := by
    show ((engine.candidatesAt target).map Candidate.id).Nodup
    rw [candidatesAt, List.map_map]
    exact coherent.nodup_objectsAt target
  expired := by
    show ((engine.expiredCandidates host).map Candidate.id).Nodup
    rw [expiredCandidates]
    refine List.Nodup.sublist (List.filter_sublist.map _) ?_
    rw [List.map_map]
    exact coherent.nodup_allObjects.sublist (List.filter_sublist.map _)

/-- The local match is missing exactly when no stored object for the target carries the
fingerprint. -/
theorem localMatch?_eq_none_iff (coherent : engine.store.Coherent engine.config.cadence) :
    (engine.planTerms host target fingerprint).localMatch? = none ↔
      ¬engine.Carried target fingerprint := by
  rw [PlanTerms.localMatch?_eq_none_iff, carried_iff coherent]
  show (∀ candidate ∈ engine.candidatesAt target, candidate.fingerprint ≠ fingerprint) ↔ _
  simp only [not_exists, not_and, Ne]

/-! ### The funded object -/

/-- The name of the object that a plan funds. -/
def fundedName (engine : Engine σ) (host : Host) (target : Height) (fingerprint : Fingerprint) :
    Option ObjectId :=
  (engine.planTerms host target fingerprint).funded?.map Candidate.id

theorem fundedName_eq_some_iff (coherent : engine.store.Coherent engine.config.cadence) :
    engine.fundedName host target fingerprint = some id ↔
      ∃ object, engine.store.Funds host target fingerprint object ∧ object.id = id := by
  have named := named_planTerms coherent host target fingerprint
  simp only [fundedName, Option.map_eq_some_iff, PlanTerms.funded?_eq_some_iff named]
  constructor
  · rintro ⟨candidate, ⟨member, carries, least, within⟩, rfl⟩
    obtain ⟨object, stored, aimed, rfl⟩ := (mem_candidatesAt_iff coherent).mp member
    refine ⟨object, ⟨stored, aimed, carries, fun other held same alike => ?_,
      withinBudget_candidate_iff.mp within⟩, rfl⟩
    exact least (engine.store.candidate other)
      ((mem_candidatesAt_iff coherent).mpr ⟨other, held, same, rfl⟩) alike
  · rintro ⟨object, ⟨stored, aimed, carries, least, payable⟩, rfl⟩
    refine ⟨engine.store.candidate object, ⟨(mem_candidatesAt_iff coherent).mpr
      ⟨object, stored, aimed, rfl⟩, carries, fun candidate member alike => ?_,
      withinBudget_candidate_iff.mpr payable⟩, rfl⟩
    obtain ⟨other, held, same, rfl⟩ := (mem_candidatesAt_iff coherent).mp member
    exact least other held same alike

/-- The votes play no part in what is funded. -/
theorem fundedName_congr {other : Engine σ}
    (coherent : engine.store.Coherent engine.config.cadence)
    (otherCoherent : other.store.Coherent other.config.cadence)
    (objects : other.store.objects = engine.store.objects) :
    other.fundedName host target fingerprint = engine.fundedName host target fingerprint := by
  have lookup : other.store.get? = engine.store.get? := congrArg SortedMap.get? objects
  refine Option.ext fun id => ?_
  rw [fundedName_eq_some_iff coherent, fundedName_eq_some_iff otherCoherent]
  refine exists_congr fun object => and_congr_left fun _ => ?_
  exact ⟨fun ⟨stored, aimed, carries, least, payable⟩ =>
      ⟨lookup ▸ stored, aimed, carries, lookup ▸ least, payable⟩,
    fun ⟨stored, aimed, carries, least, payable⟩ =>
      ⟨lookup ▸ stored, aimed, carries, lookup ▸ least, payable⟩⟩

/-- What is funded carries the fingerprint. -/
theorem carried_of_fundedName (coherent : engine.store.Coherent engine.config.cadence)
    (funded : engine.fundedName host target fingerprint = some id) :
    ∃ object, object.id = id ∧ engine.store.get? id = some object ∧
      object.targetHeight = target ∧ object.fingerprint = fingerprint := by
  obtain ⟨object, funds, rfl⟩ := (fundedName_eq_some_iff coherent).mp funded
  exact ⟨object, rfl, funds.stored, funds.aimed, funds.carries⟩

/-! ### Planned votes -/

/-- The votes that a plan comes to. -/
def plannedVotes (engine : Engine σ) (host : Host) (target : Height) (fingerprint : Fingerprint)
    (identity : Identity) : List Vote :=
  (engine.plan host target fingerprint identity).intents.map (host.signedVote identity)

/-- The vote is one of the sanctuary now, on a stored object, with the outcome of its stance, and
it does not hold that outcome yet. -/
structure TakesStance (engine : Engine σ) (host : Host) (target : Height)
    (fingerprint : Fingerprint) (identity : Identity) (vote : Vote) : Prop where
  own : vote.voter = identity
  current : vote.timestamp = host.now
  known : engine.store.Knows vote.object
  outcome : vote.outcome =
    PlanTerms.stance (engine.fundedName host target fingerprint) vote.object vote.signal
  uncast : engine.store.voteOf identity vote.object vote.signal ≠ some vote.outcome

variable {identity : Identity} {vote : Vote}

theorem takesStance_of_mem_plannedVotes (coherent : engine.store.Coherent engine.config.cadence)
    (member : vote ∈ engine.plannedVotes host target fingerprint identity) :
    engine.TakesStance host target fingerprint identity vote := by
  obtain ⟨intent, planned, rfl⟩ := List.mem_map.mp member
  have named := named_planTerms coherent host target fingerprint
  exact
    { own := rfl
      current := rfl
      known := knows_of_mem_plan coherent planned
      outcome := PlanTerms.outcome_of_mem_intents named planned
      uncast := PlanTerms.cast_ne_of_mem_intents planned }

/-- No two planned votes are on one object and signal. -/
theorem nodup_plannedVotes (coherent : engine.store.Coherent engine.config.cadence) (host : Host)
    (target : Height) (fingerprint : Fingerprint) (identity : Identity) :
    ((engine.plannedVotes host target fingerprint identity).map Vote.place).Nodup := by
  rw [plannedVotes, List.map_map]
  exact List.pairwise_map.mpr
    (PlanTerms.apart_intents (named_planTerms coherent host target fingerprint))

end Engine

end SuperblockGovernance
