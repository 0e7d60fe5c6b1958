/-
Where the votes of a store come from. A deed that leaves a vote held either found it held
on the same object, or took it in as a valid vote, or cast it for this node. So in every run
at hosts of one registry a held vote is from a sanctuary that is valid at the target of its
object, or from a node of the run itself: a node does not ask the registry about its own
identity before it counts its own vote. Where the own identities are valid, tallies count
valid voters only.
-/

import SuperblockGovernance.Proofs.StoredObjects

namespace SuperblockGovernance

/-! ### What a change leaves held -/

namespace TriggerStore

variable {store : TriggerStore} {cadence : Cadence} {ballot : Ballot} {vote : Vote}
variable {object : TriggerObject}

theorem held_of_dropObjects {dropped : ObjectId → Bool}
    (held : (store.dropObjects dropped).votes.get? ballot = some vote) :
    store.votes.get? ballot = some vote := by
  rw [dropObjects, SortedMap.get?_filter, Option.filter_eq_some_iff] at held
  exact held.1

theorem held_of_retractObject {id : ObjectId}
    (held : (store.retractObject id).2.votes.get? ballot = some vote) :
    store.votes.get? ballot = some vote := by
  unfold retractObject at held
  extract_lets settled at held
  have same : settled.votes = store.votes := by
    unfold settled
    split <;> rfl
  rw [← same]
  split at held
  · exact held
  · have left : (settled.dropObjects (· == id)).votes.get? ballot = some vote := held
    exact held_of_dropObjects left

theorem held_of_retractVote {other : Vote}
    (held : (store.retractVote other).2.votes.get? ballot = some vote) :
    store.votes.get? ballot = some vote := by
  rw [retractVote] at held
  split at held
  · rw [SortedMap.get?_erase] at held
    split at held
    · cases held
    · exact held
  · exact held

/-- Recording a vote leaves the other votes as they were. -/
theorem held_of_recordVote {other : Vote}
    (held : (store.recordVote other).2.votes.get? ballot = some vote) :
    store.votes.get? ballot = some vote ∨ vote = other ∧ vote.ballot = ballot := by
  rw [recordVote] at held
  split at held
  · rw [SortedMap.get?_insert] at held
    split at held
    · rename_i same
      cases held
      exact Or.inr ⟨rfl, same.symm⟩
    · exact Or.inl held
  · exact Or.inl held

/-- The vote is held under the ballot, on this stored object. -/
structure Holds (store : TriggerStore) (ballot : Ballot) (vote : Vote) (object : TriggerObject) :
    Prop where
  held : store.votes.get? ballot = some vote
  stored : store.get? ballot.object = some object

theorem Holds.of_insert (coherent : store.Coherent cadence) {added : TriggerObject}
    (holds : (store.insert added).2.Holds ballot vote object) :
    store.Holds ballot vote object := by
  have held : store.votes.get? ballot = some vote := by
    rw [← votes_insert store added]
    exact holds.held
  refine ⟨held, ?_⟩
  rw [← get?_insert_of_knows (coherent.concerned ballot vote held) added]
  exact holds.stored

theorem Holds.of_dropObjects {dropped : ObjectId → Bool}
    (holds : (store.dropObjects dropped).Holds ballot vote object) :
    store.Holds ballot vote object :=
  ⟨held_of_dropObjects holds.held, (get?_dropObjects.mp holds.stored).1⟩

theorem Holds.of_retractObject {id : ObjectId}
    (holds : (store.retractObject id).2.Holds ballot vote object) :
    store.Holds ballot vote object :=
  ⟨held_of_retractObject holds.held, get?_of_retractObject holds.stored⟩

/-- A submission takes in an object and no vote. -/
theorem Holds.of_submit {σ : Type} [Relay σ] (coherent : store.Coherent cadence) {relay : σ}
    {limit : UInt64} {payload : TriggerPayload} {submission : Submission}
    (holds : (store.submit relay limit payload submission).2.1.Holds ballot vote object) :
    store.Holds ballot vote object := by
  rcases store.submit_cases relay limit payload submission with
    ⟨_, _, same⟩ | ⟨_, _, _, _, same⟩ | ⟨_, _, _, _, same⟩ <;> rw [same] at holds
  · exact holds
  · exact holds
  · have before := of_insert (coherent.remember _) holds
    exact ⟨before.held, before.stored⟩

theorem Holds.of_retractVote {other : Vote}
    (holds : (store.retractVote other).2.Holds ballot vote object) :
    store.Holds ballot vote object := by
  refine ⟨held_of_retractVote holds.held, ?_⟩
  have stored := holds.stored
  rwa [get?, objects_retractVote] at stored

theorem Holds.of_recordVote {other : Vote}
    (holds : (store.recordVote other).2.Holds ballot vote object) :
    store.Holds ballot vote object ∨
      vote = other ∧ vote.ballot = ballot ∧ store.get? ballot.object = some object := by
  have stored := holds.stored
  rw [get?, objects_recordVote] at stored
  rcases held_of_recordVote holds.held with before | ⟨same, filed⟩
  · exact Or.inl ⟨before, stored⟩
  · exact Or.inr ⟨same, filed, stored⟩

end TriggerStore

namespace Engine

variable {σ : Type} {host : Host} {engine after : Engine σ}

/-- A vote that is held after a deed was held before on the same object, or was just accepted, or
is this node's own. -/
theorem Deed.origin [Relay σ] {names : ObjectId → Submission → Prop}
    (coherent : engine.store.Coherent engine.config.cadence)
    (deed : Deed names host engine after) {ballot : Ballot} {vote : Vote} {object : TriggerObject}
    (holds : after.store.Holds ballot vote object) :
    engine.store.Holds ballot vote object ∨
      vote.ballot = ballot ∧ engine.store.get? ballot.object = some object ∧
        (engine.acceptVote host vote = .ok () ∨ host.localIdentity = some vote.voter) := by
  cases deed with
  | assess target =>
    rw [store_assess] at holds
    exact Or.inl holds
  | refreshSporks => exact Or.inl holds
  | submit own scheduled typed => exact Or.inl (TriggerStore.Holds.of_submit coherent holds)
  | takeObject named accepted => exact Or.inl (TriggerStore.Holds.of_insert coherent holds)
  | takeVote accepted =>
    rcases TriggerStore.Holds.of_recordVote holds with before | ⟨rfl, filed, stored⟩
    · exact Or.inl before
    · exact Or.inr ⟨filed, stored, Or.inl accepted⟩
  | @castVote identity intent own known =>
    rcases store_castVote engine host identity intent with cast | refused
    · rw [cast] at holds
      rcases TriggerStore.Holds.of_recordVote holds with before | ⟨rfl, filed, stored⟩
      · exact Or.inl before
      · exact Or.inr ⟨filed, stored, Or.inr own⟩
    · rw [refused] at holds
      exact Or.inl holds
  | retractVote other => exact Or.inl (TriggerStore.Holds.of_retractVote holds)
  | retractObject id => exact Or.inl (TriggerStore.Holds.of_retractObject holds)
  | confirm height fingerprint => exact Or.inl ⟨holds.held, holds.stored⟩
  | prune height =>
    exact Or.inl (TriggerStore.Holds.of_dropObjects ⟨holds.held, holds.stored⟩)

/-- Every held vote is valid by the registry or from one of the hosts. -/
def Originated (hosts : Set Host) (registry : Identity → Height → Bool) (engine : Engine σ) :
    Prop :=
  ∀ ballot vote object, engine.store.Holds ballot vote object →
    registry vote.voter object.targetHeight = true ∨
      ∃ host ∈ hosts, host.localIdentity = some vote.voter

theorem Reachable.originated [Relay σ] {hosts : Set Host} {registry : Identity → Height → Bool}
    (fixed : ∀ host ∈ hosts, host.isValidIdentity = registry) (reached : Reachable hosts engine) :
    engine.Originated hosts registry := by
  refine reached.invariant ?_ ?_ ?_
  · intro config relay ballot vote object holds
    cases holds.held
  · intro engine relay before ballot vote object holds
    exact before ballot vote object ⟨holds.held, holds.stored⟩
  · intro host member engine after coherent deed before ballot vote object holds
    rcases deed.origin coherent holds with earlier | ⟨filed, stored, accepted | own⟩
    · exact before ballot vote object earlier
    · obtain ⟨found, known, _, valid⟩ := acceptVote_eq_ok_iff.mp accepted
      have same : vote.object = ballot.object := congrArg Ballot.object filed
      rw [same, stored] at known
      cases known
      exact Or.inl (fixed host member ▸ valid)
    · exact Or.inr ⟨host, member, own⟩

/-- In every run at hosts of one registry, a held vote is on a stored object and from a sanctuary
that is valid at its target, or from a node of the run. When the nodes of the run are valid
themselves, every tally counts the votes of valid sanctuaries alone. -/
theorem held_votes_valid_or_own [Relay σ] {hosts : Set Host}
    {registry : Identity → Height → Bool}
    (fixed : ∀ host ∈ hosts, host.isValidIdentity = registry) (reached : Reachable hosts engine) :
    (∀ ballot vote, engine.store.votes.get? ballot = some vote →
      ∃ object, engine.store.get? vote.object = some object ∧
        (registry vote.voter object.targetHeight = true ∨
          ∃ host ∈ hosts, host.localIdentity = some vote.voter)) ∧
    ((∀ host ∈ hosts, ∀ identity, host.localIdentity = some identity →
        ∀ height, engine.config.cadence.IsSuperblock height → registry identity height = true) →
      ∀ id object, engine.store.get? id = some object → ∀ signal,
        engine.store.tally id signal =
          .ofVotes ((engine.store.heldVotes id signal).filter fun vote =>
            registry vote.voter object.targetHeight)) := by
  have coherent := reached.coherent
  have origin := reached.originated fixed
  constructor
  · intro ballot vote held
    obtain ⟨object, stored⟩ := coherent.concerned ballot vote held
    have same : vote.object = ballot.object := congrArg Ballot.object (coherent.filed _ _ held)
    exact ⟨object, same ▸ stored, origin ballot vote object ⟨held, stored⟩⟩
  · intro ownValid id object stored signal
    have valid : ∀ vote ∈ engine.store.heldVotes id signal,
        registry vote.voter object.targetHeight = true := by
      intro vote member
      obtain ⟨inside, concerned⟩ := List.mem_filter.mp member
      obtain ⟨ballot, held⟩ := SortedMap.mem_values_iff.mp inside
      have same : ballot.object = id := by
        rw [← (of_decide_eq_true concerned).1]
        exact (congrArg Ballot.object (coherent.filed _ _ held)).symm
      rcases origin ballot vote object ⟨held, same ▸ stored⟩ with known | ⟨host, within, own⟩
      · exact known
      · exact ownValid host within vote.voter own _ (coherent.scheduled id object stored)
    rw [TriggerStore.tally_eq_ofVotes coherent.filed, List.filter_eq_self.mpr valid]

end Engine

/-! ### A vote that no other node counts -/

namespace OutsiderRun

/-- A node whose identity is not in the registry. -/
def host : Host :=
  ({ tip := some (HostFixture.tipAt 1250), identityCount := 2,
     identity := some ⟨2000⟩ } : HostFixture).host

/-- The node submits a contract and votes for it. -/
def calls : List Call :=
  [.submit 1300 SampleRun.contract, .voteForContract 1300 SampleRun.contract.toText]

/-- The engine after all calls. -/
def engine : Engine CountingRelay :=
  calls.foldl (fun engine call => engine.perform host call)
    { config := SampleRun.config, relay := {} }

theorem reachable_engine : Engine.Reachable {host} engine :=
  ⟨SampleRun.config, {}, Engine.run_of_calls (Set.mem_singleton host) _ calls⟩

end OutsiderRun

/-- The vote of an identity that is not valid is held and counted, when it is the own one. -/
theorem outsider_vote_is_counted :
    Engine.Reachable {OutsiderRun.host} OutsiderRun.engine ∧
      (OutsiderRun.engine.store.votes.get? ⟨1, .funding, ⟨2000⟩⟩).isSome = true ∧
      (OutsiderRun.engine.store.tally 1 .funding).yes = 1 ∧
      OutsiderRun.host.isValidIdentity ⟨2000⟩ 1300 = false := by
  refine ⟨OutsiderRun.reachable_engine, ?_⟩
  decide +kernel

/-- The tally of the sample run counts valid sanctuaries alone. -/
theorem sample_tally_is_valid :
    Engine.Reachable {SampleRun.host} SampleRun.engine ∧
      ∃ object, SampleRun.engine.store.get? 1 = some object ∧
        (SampleRun.engine.store.tally 1 .funding).yes = 2 ∧
        SampleRun.engine.store.tally 1 .funding =
          .ofVotes ((SampleRun.engine.store.heldVotes 1 .funding).filter fun vote =>
            SampleRun.host.isValidIdentity vote.voter object.targetHeight) := by
  have fixed : ∀ host ∈ ({SampleRun.host} : Set Host),
      host.isValidIdentity = SampleRun.host.isValidIdentity := by
    rintro host rfl
    rfl
  have counted := (Engine.held_votes_valid_or_own fixed SampleRun.reachable).2
  have known : (SampleRun.engine.store.get? 1).isSome = true := by decide +kernel
  obtain ⟨object, stored⟩ := Option.isSome_iff_exists.mp known
  refine ⟨SampleRun.reachable, object, stored, by decide +kernel, ?_⟩
  refine counted ?_ 1 object stored .funding
  rintro host rfl identity own height _
  cases own
  rfl

end SuperblockGovernance
