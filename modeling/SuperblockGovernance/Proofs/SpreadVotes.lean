/-
Votes for one contract that are spread over several objects. A fingerprint may be carried by
more than one object for a height, and each sanctuary approves one of them. An election counts
the votes object by object, so the contract is triggered when one object alone has a quorum of
approvers; together the objects may have many more. Only when the approvers outnumber what all
objects can hold short of the quorum must one of the objects reach it.
-/

import SuperblockGovernance.Proofs.TriggeredContracts
import SuperblockGovernance.Proofs.VoteRegisters
import Mathlib.Algebra.Order.BigOperators.Group.Finset

namespace SuperblockGovernance

/-! ### Approvers of an object -/

namespace TriggerStore

variable {store : TriggerStore} {object : ObjectId}

/-- The sanctuaries that hold a vote for the object. -/
def approvers (store : TriggerStore) (object : ObjectId) : Finset Identity :=
  let approvals := (store.heldVotes object .funding).filter fun vote => vote.outcome = .yes
  (approvals.map Vote.voter).toFinset

theorem mem_approvers_iff (filed : store.VotesFiled) {voter : Identity} :
    voter ∈ store.approvers object ↔ store.voteOf voter object .funding = some .yes :=
  mem_voters_iff filed

theorem card_approvers (filed : store.VotesFiled) :
    (store.approvers object).card =
      (store.heldVotes object .funding).countP fun vote => vote.outcome = .yes :=
  card_voters filed

/-- An object that nobody votes against has the support of its approvers. -/
theorem support_of_unopposed (filed : store.VotesFiled)
    (unopposed : ∀ voter, store.voteOf voter object .funding ≠ some .no) :
    store.support object = (store.approvers object).card := by
  have none : (store.heldVotes object .funding).countP (fun vote => vote.outcome = .no) = 0 := by
    refine List.countP_eq_zero.mpr fun vote held rejecting => unopposed vote.voter ?_
    exact (voteOf_eq_some_iff filed).mpr ⟨vote, held, rfl, of_decide_eq_true rejecting⟩
  rw [support, none, card_approvers filed]
  exact Int.sub_zero _

end TriggerStore

namespace Engine

variable {σ : Type} {engine : Engine σ} {host : Host} {height : Height}
variable {fingerprint : Fingerprint} {object : TriggerObject}

/-! ### Objects of one contract -/

/-- The object carries the fingerprint for the height, lists payouts within the budget, and nobody
votes against it. -/
structure Unopposed (engine : Engine σ) (host : Host) (height : Height)
    (fingerprint : Fingerprint) (object : TriggerObject) : Prop where
  stored : engine.store.get? object.id = some object
  target : object.targetHeight = height
  carries : object.fingerprint = fingerprint
  payable : ∃ payouts, object.payouts = .ok payouts ∧
    payouts.total ≤ (host.budgetLimit height).toNat
  free : ∀ voter, engine.store.voteOf voter object.id .funding ≠ some .no

/-- Such an object is eligible exactly when its own approvers are a quorum. -/
theorem Unopposed.eligible_iff (unopposed : engine.Unopposed host height fingerprint object)
    (filed : engine.store.VotesFiled) :
    engine.Eligible host height object ↔
      engine.requiredQuorum host height ≤ (engine.store.approvers object.id).card := by
  rw [← Int.ofNat_le, ← TriggerStore.support_of_unopposed filed unopposed.free]
  exact ⟨Eligible.supported,
    fun supported => ⟨unopposed.stored, unopposed.target, supported, unopposed.payable⟩⟩

/-- What has to be checked of a stored object. -/
theorem exists_unopposed (coherent : engine.store.Coherent engine.config.cadence) (host : Host)
    (height : Height) (fingerprint : Fingerprint) (id : ObjectId)
    (checked : (engine.store.get? id).any (fun object =>
      object.targetHeight = height ∧ object.fingerprint = fingerprint ∧
        (engine.store.candidate object).WithinBudget (host.budgetLimit height) ∧
        ∀ vote ∈ engine.store.heldVotes id .funding, vote.outcome ≠ .no) = true) :
    ∃ object, object.id = id ∧ engine.Unopposed host height fingerprint object := by
  obtain ⟨object, stored, facts⟩ := (Option.any_eq_true _ _).mp checked
  obtain ⟨target, carries, payable, free⟩ := of_decide_eq_true facts
  have named : object.id = id := coherent.named id object stored
  refine ⟨object, named, named ▸ stored, target, carries,
    withinBudget_candidate_iff.mp payable, fun voter against => ?_⟩
  rw [named] at against
  obtain ⟨vote, held, _, rejecting⟩ :=
    (TriggerStore.voteOf_eq_some_iff coherent.filed).mp against
  exact free vote held rejecting

/-- The quorum belongs to an object, not to a fingerprint. Objects of one fingerprint for a height,
with payouts within the budget and no vote against them, trigger a contract when one of them has a
quorum of approvers of its own; otherwise it is up to other objects. They do when the sanctuaries
that approve any of them are more than the objects can hold short of the quorum. -/
theorem spread_votes_trigger [Relay σ] {hosts : Set Host} (reached : Reachable hosts engine)
    {objects : Finset TriggerObject}
    (unopposed : ∀ object ∈ objects, engine.Unopposed host height fingerprint object) :
    (engine.isTriggered host height = true ↔
      (∃ object ∈ objects,
        engine.requiredQuorum host height ≤ (engine.store.approvers object.id).card) ∨
      ∃ other, engine.Eligible host height other ∧ other ∉ objects) ∧
    ∀ voters : Finset Identity,
      (∀ voter ∈ voters, ∃ object ∈ objects,
        engine.store.voteOf voter object.id .funding = some .yes) →
      objects.card * (engine.requiredQuorum host height - 1) < voters.card →
        engine.isTriggered host height = true := by
  have coherent := reached.coherent
  have triggered : engine.isTriggered host height = true ↔
      (∃ object ∈ objects,
        engine.requiredQuorum host height ≤ (engine.store.approvers object.id).card) ∨
      ∃ other, engine.Eligible host height other ∧ other ∉ objects := by
    rw [isTriggered, triggered?_isSome_iff coherent]
    constructor
    · rintro ⟨object, eligible⟩
      by_cases member : object ∈ objects
      · have own := ((unopposed object member).eligible_iff coherent.filed).mp eligible
        exact Or.inl ⟨object, member, own⟩
      · exact Or.inr ⟨object, eligible, member⟩
    · rintro (⟨object, member, own⟩ | ⟨other, eligible, _⟩)
      · exact ⟨object, ((unopposed object member).eligible_iff coherent.filed).mpr own⟩
      · exact ⟨other, eligible⟩
  refine ⟨triggered, fun voters approve many => triggered.mpr (Or.inl ?_)⟩
  -- if every object stayed short of the quorum, there would be room for too few voters
  by_contra nobody
  have few : ∀ object ∈ objects, (engine.store.approvers object.id).card ≤
      engine.requiredQuorum host height - 1 := by
    intro object member
    have short : ¬engine.requiredQuorum host height ≤ (engine.store.approvers object.id).card :=
      fun own => nobody ⟨object, member, own⟩
    omega
  have covered : voters ⊆ objects.biUnion fun object => engine.store.approvers object.id := by
    intro voter member
    obtain ⟨object, inside, approving⟩ := approve voter member
    have approver := (TriggerStore.mem_approvers_iff coherent.filed).mpr approving
    exact Finset.mem_biUnion.mpr ⟨object, inside, approver⟩
  have room : voters.card ≤ objects.card * (engine.requiredQuorum host height - 1) :=
    (Finset.card_le_card covered).trans (Finset.card_biUnion_le_card_mul _ _ _ few)
  exact absurd many (Nat.not_lt.mpr room)

end Engine

/-! ### One contract on two objects -/

namespace SpreadRun

/-- The host a quarter of an hour later. -/
def laterHost : Host :=
  { SampleRun.host with now := 1001000 }

/-- The chain at the submissions and at the votes. -/
def hosts : Set Host :=
  {SampleRun.host, laterHost}

/-- A node that has seen nothing. -/
def fresh : Engine CountingRelay :=
  { config := SampleRun.config, relay := {} }

/-- The contract of the sample run is submitted twice. -/
def submitted : Engine CountingRelay :=
  (fresh.perform SampleRun.host (.submit 1300 SampleRun.contract)).perform laterHost
    (.submit 1300 SampleRun.contract)

/-- One sanctuary approves the first object, and another one the second. -/
def approvals : List Call :=
  [.receiveVote (SampleRun.approval ⟨1⟩),
    .receiveVote { SampleRun.approval ⟨2⟩ with object := 2 }]

/-- The engine once the votes have come in. -/
def engine : Engine CountingRelay :=
  approvals.foldl (fun engine call => engine.perform laterHost call) submitted

theorem reachable_spread : Engine.Reachable hosts engine := by
  have first : SampleRun.host ∈ hosts := Set.mem_insert _ _
  have later : laterHost ∈ hosts := Set.mem_insert_of_mem _ (Set.mem_singleton _)
  have twice : Engine.Run hosts fresh submitted :=
    .tail (.single (.call first _)) (.call later _)
  exact ⟨SampleRun.config, {}, twice.trans (Engine.run_of_calls later submitted approvals)⟩

end SpreadRun

/-- Two sanctuaries are a quorum, and both hold a vote for an object of the contract, but each for
another one: nothing is triggered. -/
theorem split_quorum_triggers_nothing :
    Engine.Reachable SpreadRun.hosts SpreadRun.engine ∧
      ∃ (objects : Finset TriggerObject) (voters : Finset Identity),
        (∀ object ∈ objects, SpreadRun.engine.Unopposed SpreadRun.laterHost 1300
          SampleRun.contract.fingerprint object) ∧
        (∀ voter ∈ voters, SpreadRun.laterHost.isValidIdentity voter 1300 = true ∧
          ∃ object ∈ objects,
            SpreadRun.engine.store.voteOf voter object.id .funding = some .yes) ∧
        SpreadRun.engine.requiredQuorum SpreadRun.laterHost 1300 ≤ voters.card ∧
        SpreadRun.engine.isTriggered SpreadRun.laterHost 1300 = false := by
  have coherent := SpreadRun.reachable_spread.coherent
  obtain ⟨first, firstNamed, firstUnopposed⟩ :=
    Engine.exists_unopposed coherent SpreadRun.laterHost 1300 SampleRun.contract.fingerprint 1
      (by decide +kernel)
  obtain ⟨second, secondNamed, secondUnopposed⟩ :=
    Engine.exists_unopposed coherent SpreadRun.laterHost 1300 SampleRun.contract.fingerprint 2
      (by decide +kernel)
  refine ⟨SpreadRun.reachable_spread, {first, second}, {⟨1⟩, ⟨2⟩}, fun object member => ?_,
    fun voter member => ?_, by decide +kernel, by decide +kernel⟩
  · rcases Finset.mem_insert.mp member with rfl | last
    · exact firstUnopposed
    · exact Finset.mem_singleton.mp last ▸ secondUnopposed
  · rcases Finset.mem_insert.mp member with rfl | last
    · refine ⟨by decide +kernel, first, Finset.mem_insert_self _ _, ?_⟩
      rw [firstNamed]
      decide +kernel
    · rw [Finset.mem_singleton.mp last]
      refine ⟨by decide +kernel, second, Finset.mem_insert_of_mem (Finset.mem_singleton_self _), ?_⟩
      rw [secondNamed]
      decide +kernel

/-- In the sample run both sanctuaries approve the one object of the contract, and trigger it. -/
theorem sample_single_object :
    ∃ object, SampleRun.engine.Unopposed SampleRun.host 1300
        SampleRun.contract.fingerprint object ∧
      SampleRun.engine.isTriggered SampleRun.host 1300 = true := by
  obtain ⟨object, named, unopposed⟩ := Engine.exists_unopposed SampleRun.reachable.coherent
    SampleRun.host 1300 SampleRun.contract.fingerprint 1 (by decide +kernel)
  have all : ∀ other ∈ ({object} : Finset TriggerObject), SampleRun.engine.Unopposed
      SampleRun.host 1300 SampleRun.contract.fingerprint other :=
    fun other member => Finset.mem_singleton.mp member ▸ unopposed
  have approved : ∀ voter ∈ ({⟨1⟩, ⟨2⟩} : Finset Identity),
      SampleRun.engine.store.voteOf voter 1 .funding = some .yes := by
    decide +kernel
  refine ⟨object, unopposed,
    (Engine.spread_votes_trigger SampleRun.reachable all).2 {⟨1⟩, ⟨2⟩} ?_ ?_⟩
  · intro voter member
    exact ⟨object, Finset.mem_singleton_self _, named ▸ approved voter member⟩
  · rw [Finset.card_singleton]
    decide +kernel

end SuperblockGovernance
