/-
The votes that a store holds as registers. A ballot is a register that votes are written to, and
after any writes it holds the first vote among those with the greatest timestamp: a vote is
taken when it is later than all that came before it, and then it is held. A tally counts the
sanctuaries by the outcome that their register holds, each of them once, and reads no register
of another object or signal.
-/

import Mathlib.Data.Set.Card
import SuperblockGovernance.Proofs.VoteConvergence

namespace SuperblockGovernance

/-- The votes that were counted for an outcome. -/
def VoteTally.of (tally : VoteTally) : VoteOutcome → Nat
  | .yes => tally.yes
  | .no => tally.no
  | .abstain => tally.abstain

theorem VoteTally.of_ofVotes (votes : List Vote) (outcome : VoteOutcome) :
    (ofVotes votes).of outcome = votes.countP fun vote => vote.outcome = outcome := by
  cases outcome <;> rfl

theorem VoteTally.eq_of_forall_of {first second : VoteTally}
    (alike : ∀ outcome, first.of outcome = second.of outcome) : first = second := by
  cases first
  cases second
  exact congr (congr (congrArg mk (alike .yes)) (alike .no)) (alike .abstain)

namespace TriggerStore

variable {store : TriggerStore} {object : ObjectId} {signal : VoteSignal} {outcome : VoteOutcome}

/-! ### Sanctuaries by outcome -/

/-- The sanctuaries that hold a vote of this outcome on the object. -/
def voters (store : TriggerStore) (object : ObjectId) (signal : VoteSignal)
    (outcome : VoteOutcome) : Finset Identity :=
  let votes := (store.heldVotes object signal).filter fun vote => vote.outcome = outcome
  (votes.map Vote.voter).toFinset

theorem mem_voters_iff (filed : store.VotesFiled) {voter : Identity} :
    voter ∈ store.voters object signal outcome ↔
      store.voteOf voter object signal = some outcome := by
  rw [voters, List.mem_toFinset, List.mem_map, voteOf_eq_some_iff filed]
  constructor
  · rintro ⟨vote, member, own⟩
    obtain ⟨held, meant⟩ := List.mem_filter.mp member
    exact ⟨vote, held, own, of_decide_eq_true meant⟩
  · rintro ⟨vote, held, own, meant⟩
    exact ⟨vote, List.mem_filter.mpr ⟨held, decide_eq_true meant⟩, own⟩

/-- A sanctuary holds one vote on an object under a signal, so votes and sanctuaries are as many. -/
theorem card_voters (filed : store.VotesFiled) :
    (store.voters object signal outcome).card =
      (store.heldVotes object signal).countP fun vote => vote.outcome = outcome := by
  have distinct : (((store.heldVotes object signal).filter fun vote =>
      vote.outcome = outcome).map Vote.voter).Nodup :=
    List.pairwise_map.mpr ((pairwise_heldVotes filed).filter _)
  rw [voters, List.toFinset_card_of_nodup distinct, List.length_map,
    List.countP_eq_length_filter]

theorem encard_setOf_voteOf (filed : store.VotesFiled) :
    {voter | store.voteOf voter object signal = some outcome}.encard =
      (store.tally object signal).of outcome := by
  have listed : {voter | store.voteOf voter object signal = some outcome} =
      (store.voters object signal outcome : Set Identity) :=
    Set.ext fun voter => (mem_voters_iff filed).symm
  rw [listed, Set.encard_coe_eq_coe_finsetCard, card_voters filed, tally_eq_ofVotes filed,
    VoteTally.of_ofVotes]

/-- Stores that hold the same outcomes on an object under a signal count them alike. -/
theorem tally_eq_of_voteOf {other : TriggerStore} (filed : store.VotesFiled)
    (otherFiled : other.VotesFiled)
    (alike : ∀ voter, store.voteOf voter object signal = other.voteOf voter object signal) :
    store.tally object signal = other.tally object signal := by
  refine VoteTally.eq_of_forall_of fun outcome => ENat.natCast_inj.mp ?_
  rw [← encard_setOf_voteOf filed, ← encard_setOf_voteOf otherFiled]
  simp only [alike]

/-! ### Votes in the order of arrival -/

variable {votes : List Vote} {vote : Vote}

theorem get?_recordVotes_empty (votes : List Vote) (ballot : Ballot) :
    (empty.recordVotes votes).votes.get? ballot =
      Vote.latest? (votes.filter fun vote => vote.ballot = ballot) :=
  get?_recordVotes votes ballot

theorem filed_recordVotes_empty (votes : List Vote) : (empty.recordVotes votes).VotesFiled := by
  intro ballot vote held
  rw [get?_recordVotes_empty, Vote.latest?_eq_some_iff] at held
  exact of_decide_eq_true (List.mem_filter.mp held.mem).2

/-- A vote is taken exactly when it becomes the vote that its ballot holds. -/
theorem recordVote_fst_iff (store : TriggerStore) (vote : Vote) :
    (store.recordVote vote).1 = true ↔
      store.votes.get? vote.ballot ≠ some vote ∧
        (store.recordVote vote).2.votes.get? vote.ballot = some vote := by
  rw [recordVote]
  split
  · rename_i superseded
    refine iff_of_true rfl ⟨fun held => ?_, (SortedMap.get?_insert _ _ _ _).trans (if_pos rfl)⟩
    rw [held, Option.all_some, decide_eq_true_iff] at superseded
    exact UInt64.lt_irrefl _ superseded
  · exact iff_of_false Bool.false_ne_true fun both => both.1 both.2

theorem recordVote_of_fst_eq_false (refused : (store.recordVote vote).1 = false) :
    (store.recordVote vote).2 = store := by
  rw [recordVote] at refused ⊢
  split
  · rename_i superseded
    rw [if_pos superseded] at refused
    cases refused
  · rfl

/-- A vote is taken exactly when it is later than all that came under its ballot before. -/
theorem recordVote_later_iff (votes : List Vote) (vote : Vote) :
    ((empty.recordVotes votes).recordVote vote).1 = true ↔
      ∀ earlier ∈ votes, earlier.ballot = vote.ballot → earlier.timestamp < vote.timestamp := by
  have decided : ((empty.recordVotes votes).recordVote vote).1 =
      (Vote.latest? (votes.filter fun other => other.ballot = vote.ballot)).all
        fun held => held.timestamp < vote.timestamp := by
    rw [← get?_recordVotes_empty, recordVote]
    split
    · rename_i superseded
      exact superseded.symm
    · rename_i held
      exact (Bool.eq_false_iff.mpr held).symm
  have listed : ∀ {other : Vote}, (other ∈ votes.filter fun other => other.ballot = vote.ballot) ↔
      other ∈ votes ∧ other.ballot = vote.ballot := by
    intro other
    rw [List.mem_filter, decide_eq_true_iff]
  rw [decided]
  cases found : Vote.latest? (votes.filter fun other => other.ballot = vote.ballot) with
  | none =>
    rw [Vote.latest?_eq_none_iff] at found
    refine iff_of_true rfl fun earlier member own => ?_
    have within := listed.mpr ⟨member, own⟩
    rw [found] at within
    cases within
  | some held =>
    have latest := Vote.latest?_eq_some_iff.mp found
    rw [Option.all_some, decide_eq_true_iff]
    constructor
    · intro later earlier member own
      exact UInt64.lt_of_le_of_lt (latest.le earlier (listed.mpr ⟨member, own⟩)) later
    · intro later
      obtain ⟨member, own⟩ := listed.mp latest.mem
      exact later held member own

/-- Votes on other objects, or under another signal, are not counted. -/
theorem tally_recordVotes_filter (votes : List Vote) (object : ObjectId) (signal : VoteSignal) :
    (empty.recordVotes (votes.filter fun vote =>
        vote.object = object ∧ vote.signal = signal)).tally object signal =
      (empty.recordVotes votes).tally object signal := by
  refine tally_eq_of_voteOf (filed_recordVotes_empty _) (filed_recordVotes_empty _) fun voter => ?_
  have own : ((votes.filter fun vote => vote.object = object ∧ vote.signal = signal).filter
      fun vote => vote.ballot = ⟨object, signal, voter⟩) =
        votes.filter fun vote => vote.ballot = ⟨object, signal, voter⟩ := by
    rw [List.filter_filter]
    refine List.filter_congr fun vote _ => ?_
    rw [Bool.and_eq_left_iff_imp, decide_eq_true_iff, decide_eq_true_iff]
    exact fun same => ⟨congrArg Ballot.object same, congrArg Ballot.signal same⟩
  rw [voteOf, voteOf, get?_recordVotes_empty, get?_recordVotes_empty, own]

/-- After any votes were received, every ballot holds the first among the latest of its votes. A
vote is taken exactly when it becomes the one held, which is when it is later than all before it on
its ballot, and what is not taken changes nothing. A tally counts, for each outcome, the sanctuaries
whose vote on the object under the signal has it, whatever else was voted on. -/
theorem ballots_hold_latest (votes : List Vote) :
    let store := empty.recordVotes votes
    (∀ voter object signal,
      (∀ outcome, store.voteOf voter object signal = some outcome ↔
        ∃ vote : Vote, vote.IsLatest (votes.filter fun vote =>
          vote.ballot = ⟨object, signal, voter⟩) ∧ vote.outcome = outcome) ∧
      (store.voteOf voter object signal = none ↔
        ∀ vote ∈ votes, vote.ballot ≠ ⟨object, signal, voter⟩)) ∧
    (∀ vote : Vote,
      ((store.recordVote vote).1 = true ↔ store.votes.get? vote.ballot ≠ some vote ∧
        (store.recordVote vote).2.votes.get? vote.ballot = some vote) ∧
      ((store.recordVote vote).1 = true ↔ ∀ earlier ∈ votes, earlier.ballot = vote.ballot →
        earlier.timestamp < vote.timestamp) ∧
      ((store.recordVote vote).1 = false → (store.recordVote vote).2 = store)) ∧
    ∀ object signal,
      (∀ outcome, {voter | store.voteOf voter object signal = some outcome}.encard =
        (store.tally object signal).of outcome) ∧
      (empty.recordVotes (votes.filter fun vote =>
        vote.object = object ∧ vote.signal = signal)).tally object signal =
          store.tally object signal := by
  intro store
  refine ⟨fun voter object signal => ⟨fun outcome => ?_, ?_⟩, fun vote => ?_,
    fun object signal => ?_⟩
  · rw [voteOf, get?_recordVotes_empty, Option.map_eq_some_iff]
    simp only [Vote.latest?_eq_some_iff]
  · rw [voteOf, get?_recordVotes_empty, Option.map_eq_none_iff, Vote.latest?_eq_none_iff,
      List.filter_eq_nil_iff]
    simp only [decide_eq_true_iff, ne_eq]
  · exact ⟨recordVote_fst_iff store vote, recordVote_later_iff votes vote,
      recordVote_of_fst_eq_false⟩
  · exact ⟨fun outcome => encard_setOf_voteOf (filed_recordVotes_empty votes),
      tally_recordVotes_filter votes object signal⟩

end TriggerStore

/-! ### Sanctuaries at the ends of the order -/

namespace SampleRegister

/-- The sanctuaries with the least and the greatest name vote on an object, the first of them twice
at one time, and on the next object. -/
def votes : List Vote :=
  [⟨⟨0⟩, 7, .funding, .yes, 10, []⟩, ⟨⟨BitVec.allOnes 256⟩, 7, .funding, .no, 10, []⟩,
    ⟨⟨0⟩, 7, .funding, .no, 10, []⟩, ⟨⟨0⟩, 8, .funding, .no, 10, []⟩,
    ⟨⟨BitVec.allOnes 256⟩, 6, .delete, .yes, 20, []⟩]

example : (TriggerStore.empty.recordVotes votes).tally 7 .funding = ⟨1, 1, 0⟩ := by decide +kernel

end SampleRegister

end SuperblockGovernance
