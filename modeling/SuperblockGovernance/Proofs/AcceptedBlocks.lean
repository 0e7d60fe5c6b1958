/-
Blocks that are accepted at a superblock height. The check of a coinbase takes the payouts of the
triggered contract out of it one by one, while a connected block is searched for each payout on its
own; whatever passes the check is found by the search. So an accepted block confirms the contract it
pays, and a coinbase that lacks a payout is neither accepted nor confirms anything. What is pruned
with the block is more than two cycles below it, and nothing else is lost.
-/

import SuperblockGovernance.Proofs.CoinbaseAcceptance
import SuperblockGovernance.Proofs.Confirmations

namespace SuperblockGovernance

/-- The outputs contain every payout of a plan. -/
def Coinbase.Pays (outputs : List CoinbaseOutput) (payouts : Allocation) : Prop :=
  ∀ pair ∈ payouts.pairs, ⟨pair.1, pair.2⟩ ∈ outputs

theorem Coinbase.pays_iff {outputs : List CoinbaseOutput} {payouts : Allocation} :
    Pays outputs payouts ↔ ∀ output ∈ ofAllocation payouts, output ∈ outputs := by
  rw [ofAllocation, List.forall_mem_map]
  rfl

/-! ### Stores that are pruned -/

namespace TriggerStore

variable {store : TriggerStore} {dropped : ObjectId → Bool} {id : ObjectId}

/-- The votes on an object that is not dropped stay. -/
theorem votes_dropObjects (kept : dropped id = false) (signal : VoteSignal) (voter : Identity) :
    (store.dropObjects dropped).votes.get? ⟨id, signal, voter⟩ =
      store.votes.get? ⟨id, signal, voter⟩ := by
  rw [dropObjects, SortedMap.get?_filter, kept]
  cases store.votes.get? ⟨id, signal, voter⟩ <;> rfl

theorem tally_dropObjects (kept : dropped id = false) (signal : VoteSignal) :
    (store.dropObjects dropped).tally id signal = store.tally id signal := by
  refine tally_filter fun ballot _ concerned => ?_
  rw [(Ballot.concerns_iff.mp concerned).1, kept, Bool.not_false]

end TriggerStore

namespace Engine

variable {σ : Type} {engine : Engine σ} {host observer : Host} {height block : Height}
variable {winner : Candidate} {payouts : Allocation} {coinbase : List CoinbaseOutput}
variable {object : TriggerObject}

/-! ### What is found in the coinbase -/

/-- A coinbase that is accepted pays the triggered contract. -/
theorem pays_of_checkBlock (coherent : engine.store.Coherent engine.config.cadence)
    (synced : host.governanceSynced = true)
    (triggered : engine.triggered? host height = some (winner, payouts))
    (accepted : engine.checkBlock host height coinbase = .ok ()) :
    Coinbase.Pays coinbase payouts := by
  obtain ⟨elected, isElected, _⟩ := (triggered?_eq_some_iff coherent).mp triggered
  have superblock : engine.config.cadence.IsSuperblock height :=
    isElected.target ▸ coherent.scheduled elected.id elected isElected.stored
  have payees : (engine.paymentTerms host height).contractPayees =
      Coinbase.ofAllocation payouts := by
    rw [PaymentTerms.contractPayees, paymentTerms, triggered]
    exact if_pos (decide_eq_true superblock)
  have required := ((PaymentTerms.check_eq_ok_iff.mp accepted).2).resolve_left
    (Bool.eq_false_iff.mp.mt (not_not_intro synced))
  rw [PaymentTerms.requiredPayments_eq, payees, Coinbase.payments_le_iff] at required
  refine Coinbase.pays_iff.mpr fun output member => ?_
  exact Multiset.mem_coe.mp (Multiset.mem_of_le required (List.mem_append_left _ member))

theorem confirmPaid_of_not_pays
    (triggered : engine.triggered? host height = some (winner, payouts))
    (short : ¬Coinbase.Pays coinbase payouts) :
    engine.confirmPaid host height coinbase = engine.store := by
  have missed : ¬(Coinbase.ofAllocation payouts).all (fun output => output ∈ coinbase) = true :=
    fun found => short (Coinbase.pays_iff.mpr fun output member =>
      of_decide_eq_true (List.all_eq_true.mp found output member))
  rw [confirmPaid, triggered]
  exact if_neg missed

/-- A block marks the objects of the contract it pays, and no others. -/
theorem isConfirmed_confirmPaid_iff (coherent : engine.store.Coherent engine.config.cadence)
    (triggered : engine.triggered? host height = some (winner, payouts))
    (stored : engine.store.get? object.id = some object) :
    (engine.confirmPaid host height coinbase).isConfirmed object.id = true ↔
      engine.store.isConfirmed object.id = true ∨
        Coinbase.Pays coinbase payouts ∧ object.targetHeight = height ∧
          object.fingerprint = winner.fingerprint := by
  by_cases paid : Coinbase.Pays coinbase payouts
  · rw [confirmPaid_of_paid triggered (Coinbase.pays_iff.mp paid),
      TriggerStore.isConfirmed_confirm_iff, TriggerStore.mem_matching_iff, coherent.indexed,
      or_comm, and_iff_right paid]
    refine or_congr_right ⟨?_, ?_⟩
    · rintro ⟨⟨other, found, target⟩, again, foundAgain, carries⟩
      obtain rfl : object = other := Option.some.inj (stored.symm.trans found)
      obtain rfl : object = again := Option.some.inj (stored.symm.trans foundAgain)
      exact ⟨target, carries⟩
    · rintro ⟨target, carries⟩
      exact ⟨⟨object, stored, target⟩, object, stored, carries⟩
  · rw [confirmPaid_of_not_pays triggered paid]
    exact (or_iff_left fun both => paid both.1).symm

/-! ### What is kept with a block -/

/-- A block keeps an object whose target is at most two cycles below it, with the votes on it. -/
theorem kept_connectBlock [Relay σ] (coherent : engine.store.Coherent engine.config.cadence)
    (host : Host) (coinbase : List CoinbaseOutput)
    (recent : height.toNat ≤ object.targetHeight.toNat + engine.retention)
    (stored : engine.store.get? object.id = some object) :
    let store := (engine.connectBlock host height coinbase).store
    store.get? object.id = some object ∧
      (∀ signal voter, store.votes.get? ⟨object.id, signal, voter⟩ =
        engine.store.votes.get? ⟨object.id, signal, voter⟩) ∧
      (∀ signal, store.tally object.id signal = engine.store.tally object.id signal) ∧
      (store.isConfirmed object.id = true ↔
        (engine.confirmPaid host height coinbase).isConfirmed object.id = true) := by
  have paid := coherent_confirmPaid coherent host height coinbase
  obtain ⟨confirmed, marked⟩ := engine.exists_confirmed_confirmPaid host height coinbase
  rcases engine.store_connectBlock host height coinbase with same | ⟨bound, below, pruned⟩
  · rw [same, marked]
    exact ⟨stored, fun _ _ => rfl, fun _ => rfl, Iff.rfl⟩
  · rw [pruned]
    rw [marked] at paid ⊢
    have within : bound ≤ object.targetHeight := by
      rw [UInt32.le_iff_toNat_le]
      omega
    have spared := paid.contains_idsBelow stored within
    refine ⟨TriggerStore.get?_dropObjects.mpr ⟨stored, spared⟩, fun signal voter => ?_,
      fun signal => ?_, ?_⟩
    · exact TriggerStore.votes_dropObjects spared signal voter
    · exact TriggerStore.tally_dropObjects spared signal
    · exact TriggerStore.isConfirmed_dropObjects_iff.trans (and_iff_left spared)

/-- A block takes nothing in. -/
theorem get?_of_connectBlock (host : Host) (coinbase : List CoinbaseOutput) {id : ObjectId}
    (held : (engine.connectBlock host height coinbase).store.get? id = some object) :
    engine.store.get? id = some object := by
  obtain ⟨confirmed, marked⟩ := engine.exists_confirmed_confirmPaid host height coinbase
  rcases engine.store_connectBlock host height coinbase with same | ⟨bound, _, pruned⟩
  · rw [same, marked] at held
    exact held
  · rw [pruned, marked] at held
    exact (TriggerStore.get?_dropObjects.mp held).1

/-- Pruning marks nothing. -/
theorem isConfirmed_of_connectBlock (host : Host) (coinbase : List CoinbaseOutput) {id : ObjectId}
    (marked : (engine.connectBlock host height coinbase).store.isConfirmed id = true) :
    (engine.confirmPaid host height coinbase).isConfirmed id = true := by
  rcases engine.store_connectBlock host height coinbase with same | ⟨bound, _, pruned⟩
  · rwa [same] at marked
  · rw [pruned] at marked
    exact (TriggerStore.isConfirmed_dropObjects_iff.mp marked).1

/-! ### Accepted blocks -/

/-- The election at a height reads the budget and the number of identities off the host. -/
theorem Elected.of_host (elected : engine.Elected host height object)
    (identities : observer.validIdentityCount height = host.validIdentityCount height)
    (budget : observer.budgetLimit height = host.budgetLimit height) :
    engine.Elected observer height object := by
  have quorum : engine.requiredQuorum observer height = engine.requiredQuorum host height := by
    rw [requiredQuorum, requiredQuorum, identities]
  have eligible : ∀ other, engine.Eligible observer height other ↔
      engine.Eligible host height other := fun other =>
    ⟨fun able => ⟨able.stored, able.target, quorum ▸ able.supported, budget ▸ able.payable⟩,
    fun able =>
      ⟨able.stored, able.target, quorum.symm ▸ able.supported, budget.symm ▸ able.payable⟩⟩
  exact ⟨(eligible object).mpr elected.toEligible, fun other able =>
    elected.best other ((eligible other).mp able)⟩

/-- Once a block pays the triggered contract, its fingerprint is confirmed for every host that
gives the same budget and number of identities for the height, whatever its tip is. -/
theorem contractState_of_pays [Relay σ] (coherent : engine.store.Coherent engine.config.cadence)
    (triggered : engine.triggered? host height = some (winner, payouts))
    (paid : Coinbase.Pays coinbase payouts)
    (identities : observer.validIdentityCount height = host.validIdentityCount height)
    (budget : observer.budgetLimit height = host.budgetLimit height) :
    (engine.connectBlock host height coinbase).contractState observer height winner.fingerprint =
      .confirmed := by
  obtain ⟨object, elected, rfl, _⟩ := (triggered?_eq_some_iff coherent).mp triggered
  have still := elected.of_sameAt (config_connectBlock engine host height coinbase)
    (sameAt_connectBlock coherent coinbase)
  have connected := (deeds_connectBlock engine host height coinbase).coherent coherent
  refine (contractState_eq_confirmed_iff connected).mpr
    ⟨object, still.of_host identities budget, rfl, ?_⟩
  refine ((kept_connectBlock coherent host coinbase ?_ elected.stored).2.2.2).mpr ?_
  · rw [elected.target]
    exact Nat.le_add_right _ _
  · exact (isConfirmed_confirmPaid_iff coherent triggered elected.stored).mpr
      (Or.inr ⟨paid, elected.target, rfl⟩)

/-- At a superblock height with a triggered contract, a node with governance data that accepts a
coinbase confirms the contract when the block is connected: every object for the height that carries
its fingerprint is marked, and the fingerprint is confirmed. Whatever the coinbase is, an object
whose target is at most two cycles below the block stays stored with the same votes, and it is
marked exactly when it was before or the coinbase pays the contract that it carries. A coinbase that
lacks a payout is not accepted and marks nothing. -/
theorem accepted_blocks_confirm [Relay σ] {hosts : Set Host} (reached : Reachable hosts engine)
    (synced : host.governanceSynced = true)
    (triggered : engine.triggered? host height = some (winner, payouts))
    (coinbase : List CoinbaseOutput) :
    let connected := engine.connectBlock host height coinbase
    (engine.checkBlock host height coinbase = .ok () →
      (∀ object, connected.store.get? object.id = some object → object.targetHeight = height →
        object.fingerprint = winner.fingerprint →
          connected.store.isConfirmed object.id = true) ∧
      ∀ observer : Host, observer.validIdentityCount height = host.validIdentityCount height →
        observer.budgetLimit height = host.budgetLimit height →
          connected.contractState observer height winner.fingerprint = .confirmed) ∧
    (∀ object : TriggerObject,
      height.toNat ≤ object.targetHeight.toNat + 2 * engine.config.cycleLength.toNat →
        (connected.store.get? object.id = some object ↔
          engine.store.get? object.id = some object) ∧
        (engine.store.get? object.id = some object →
          (∀ signal voter, connected.store.votes.get? ⟨object.id, signal, voter⟩ =
            engine.store.votes.get? ⟨object.id, signal, voter⟩) ∧
          (∀ signal, connected.store.tally object.id signal =
            engine.store.tally object.id signal) ∧
          (connected.store.isConfirmed object.id = true ↔
            engine.store.isConfirmed object.id = true ∨
              Coinbase.Pays coinbase payouts ∧ object.targetHeight = height ∧
                object.fingerprint = winner.fingerprint))) ∧
    ∀ pair ∈ payouts.pairs, ⟨pair.1, pair.2⟩ ∉ coinbase →
      engine.checkBlock host height coinbase ≠ .ok () ∧
      ∀ id, connected.store.isConfirmed id = true → engine.store.isConfirmed id = true := by
  have coherent := reached.coherent
  intro connected
  have recent : ∀ object : TriggerObject,
      height.toNat ≤ object.targetHeight.toNat + 2 * engine.config.cycleLength.toNat →
        height.toNat ≤ object.targetHeight.toNat + engine.retention := by
    intro object within
    have fits := height.toNat_lt
    rw [retention]
    omega
  refine ⟨fun accepted => ?_, fun object within => ?_, fun pair member missing => ?_⟩
  · have paid := pays_of_checkBlock coherent synced triggered accepted
    refine ⟨fun object held target carries => ?_, fun observer =>
      contractState_of_pays coherent triggered paid⟩
    have stored := get?_of_connectBlock host coinbase held
    refine (kept_connectBlock coherent host coinbase (recent object ?_) stored).2.2.2.mpr ?_
    · rw [target]
      exact Nat.le_add_right _ _
    · exact (isConfirmed_confirmPaid_iff coherent triggered stored).mpr
        (Or.inr ⟨paid, target, carries⟩)
  · have kept := kept_connectBlock coherent host coinbase (recent object within)
    refine ⟨⟨get?_of_connectBlock host coinbase, fun stored => (kept stored).1⟩, fun stored => ?_⟩
    obtain ⟨_, votes, tallies, marks⟩ := kept stored
    exact ⟨votes, tallies, marks.trans (isConfirmed_confirmPaid_iff coherent triggered stored)⟩
  · have short : ¬Coinbase.Pays coinbase payouts := fun paid => missing (paid pair member)
    refine ⟨fun accepted => short (pays_of_checkBlock coherent synced triggered accepted),
      fun id marked => ?_⟩
    have before := isConfirmed_of_connectBlock host coinbase marked
    rwa [confirmPaid_of_not_pays triggered short] at before

end Engine

/-! ### A block of the sample run -/

namespace SampleBlock

/-- The outputs that a template for the height asks for. -/
def coinbase : List CoinbaseOutput :=
  SampleRun.engine.fillBlock ConfirmedRun.host 1300

/-- The payout to the second address is missing. -/
def underpaid : List CoinbaseOutput :=
  coinbase.dropLast

/-- The engine of the sample run once the block with this coinbase is connected. -/
def connect (coinbase : List CoinbaseOutput) : Engine CountingRelay :=
  SampleRun.engine.connectBlock ConfirmedRun.host 1300 coinbase

end SampleBlock

open SampleBlock in
/-- The block that pays the contract of the sample run is accepted and confirms it; without one of
the payouts it is neither accepted nor confirms it. -/
theorem sample_block_confirms :
    SampleRun.engine.checkBlock ConfirmedRun.host 1300 coinbase = .ok () ∧
      (connect coinbase).store.isConfirmed 1 = true ∧
      (connect coinbase).store.tally 1 .funding = SampleRun.engine.store.tally 1 .funding ∧
      (∃ object, (connect coinbase).store.get? 1 = some object ∧
        (connect coinbase).contractState ConfirmedRun.host 1300 object.fingerprint =
          .confirmed) ∧
      SampleRun.engine.checkBlock ConfirmedRun.host 1300 underpaid ≠ .ok () ∧
      (connect underpaid).store.isConfirmed 1 = false := by
  have synced : ConfirmedRun.host.governanceSynced = true := by decide
  have accepted : SampleRun.engine.checkBlock ConfirmedRun.host 1300 coinbase = .ok () := by
    decide +kernel
  have someone : (SampleRun.engine.triggered? ConfirmedRun.host 1300).any
      (fun (winner, payouts) => winner.id = 1 ∧
        (SampleRun.otherPayee, .coins 1665) ∈ payouts.pairs) = true := by
    decide +kernel
  obtain ⟨⟨winner, payouts⟩, triggered, facts⟩ := (Option.any_eq_true _ _).mp someone
  obtain ⟨first, second⟩ := of_decide_eq_true facts
  obtain ⟨object, elected, rfl, _⟩ :=
    (Engine.triggered?_eq_some_iff ConfirmedRun.reachable_engine.coherent).mp triggered
  have named : object.id = 1 := first
  obtain ⟨confirmed, kept, _⟩ := Engine.accepted_blocks_confirm ConfirmedRun.reachable_engine
    synced triggered coinbase
  obtain ⟨_, _, lacking⟩ := Engine.accepted_blocks_confirm ConfirmedRun.reachable_engine synced
    triggered underpaid
  obtain ⟨refused, unmarked⟩ := lacking _ second (by decide +kernel)
  obtain ⟨still, votes⟩ := kept object (by rw [elected.target]; exact Nat.le_add_right _ _)
  have held := still.mpr elected.stored
  have marked := (confirmed accepted).1 object held elected.target rfl
  have tallies := (votes elected.stored).2.1 .funding
  rw [named] at held marked tallies
  have unconfirmed : SampleRun.engine.store.isConfirmed 1 = false := by decide +kernel
  refine ⟨accepted, marked, tallies, ⟨object, held, ?_⟩, refused, ?_⟩
  · exact (confirmed accepted).2 ConfirmedRun.host rfl rfl
  · refine Bool.eq_false_iff.mpr fun mistaken => ?_
    rw [unmarked 1 mistaken] at unconfirmed
    cases unconfirmed

end SuperblockGovernance
