/-
Votes that are recorded and then retracted because the relay could not deliver them. The store
keeps one vote for each ballot, so recording a vote forgets the one it supersedes, and retracting
it leaves the ballot empty. That restores the store only when the ballot was empty before. An older
vote, which the other nodes have received and still count, is missing from then on, until it comes
again.
-/

import SuperblockGovernance.Proofs.Confirmations
import SuperblockGovernance.Proofs.VoteRegisters

namespace SuperblockGovernance

/-- The order in which votes are counted plays no part. -/
theorem VoteTally.count_comm (tally : VoteTally) (first second : VoteOutcome) :
    (tally.count first).count second = (tally.count second).count first := by
  cases first <;> cases second <;> rfl

namespace TriggerStore

variable {store : TriggerStore} {vote lost : Vote} {ballot : Ballot}
variable {object : ObjectId} {signal : VoteSignal}

/-- The store with no vote under a ballot. -/
def clearBallot (store : TriggerStore) (ballot : Ballot) : TriggerStore :=
  { store with votes := store.votes.erase ballot }

theorem get?_clearBallot (store : TriggerStore) (ballot : Ballot) :
    (store.clearBallot ballot).votes.get? ballot = none :=
  (SortedMap.get?_erase _ _ _).trans (if_pos rfl)

/-! ### Tallies without a ballot -/

/-- A ballot on other objects, or under another signal, is not counted. -/
theorem tally_clearBallot_of_ne (apart : ballot.concerns object signal = false) :
    (store.clearBallot ballot).tally object signal = store.tally object signal := by
  refine tally_filter fun other _ concerned => bne_iff_ne.mpr fun same => ?_
  rw [Std.LawfulEqOrd.eq_of_compare same, apart] at concerned
  cases concerned

theorem perm_votesOn_clearBallot (held : store.votes.get? ballot = some lost) :
    (store.votesOn ballot.object ballot.signal).Perm
      ((store.clearBallot ballot).votesOn ballot.object ballot.signal ++ [lost]) := by
  have concerned : ballot.concerns ballot.object ballot.signal = true :=
    Ballot.concerns_iff.mpr ⟨rfl, rfl⟩
  have taken := ((SortedMap.perm_cons_erase held).filter fun entry =>
    entry.1.concerns ballot.object ballot.signal).map Prod.snd
  rw [List.filter_cons, if_pos concerned, List.map_cons] at taken
  rw [votesOn_eq_filter_entries, votesOn_eq_filter_entries]
  exact taken.trans (List.perm_append_singleton _ _).symm

/-- The vote that a ballot held is counted on top of all the others. -/
theorem tally_of_held (held : store.votes.get? ballot = some lost) :
    store.tally ballot.object ballot.signal =
      ((store.clearBallot ballot).tally ballot.object ballot.signal).count lost.outcome := by
  refine ((perm_votesOn_clearBallot held).foldl_eq' (fun first _ second _ tally => ?_) _).trans ?_
  · exact tally.count_comm first.outcome second.outcome
  · rw [List.foldl_append]
    rfl

/-! ### Retractions -/

/-- A vote that was recorded is held, so it can be retracted, and its ballot is empty then. -/
theorem retractVote_recordVote (recorded : (store.recordVote vote).1 = true) :
    (store.recordVote vote).2.retractVote vote = (true, store.clearBallot vote.ballot) := by
  have held := ((recordVote_fst_iff store vote).mp recorded).2
  rw [retractVote, if_pos held]
  rw [recordVote] at recorded ⊢
  split at recorded
  · rename_i superseded
    rw [if_pos superseded]
    refine congrArg (Prod.mk true) ?_
    show ({ store with votes := (store.votes.insert vote.ballot vote).erase vote.ballot } :
      TriggerStore) = _
    rw [SortedMap.erase_insert]
    rfl
  · cases recorded

theorem clearBallot_eq_self_iff :
    store.clearBallot ballot = store ↔ store.votes.get? ballot = none := by
  constructor
  · intro same
    rw [← same]
    exact store.get?_clearBallot ballot
  · intro absent
    rw [clearBallot, SortedMap.erase_of_get?_eq_none absent]

/-- When the vote that was superseded comes again, the store is as it was before. -/
theorem recordVote_clearBallot (held : store.votes.get? ballot = some lost)
    (filed : lost.ballot = ballot) :
    (store.clearBallot ballot).recordVote lost = (true, store) := by
  subst filed
  rw [recordVote, get?_clearBallot]
  refine congrArg (Prod.mk true) ?_
  show ({ store with votes := (store.votes.erase lost.ballot).insert lost.ballot lost } :
    TriggerStore) = store
  rw [SortedMap.insert_erase, SortedMap.insert_of_get? held]

/-- A vote that is recorded and then retracted leaves the store as it was exactly when its ballot
was empty before. In any case objects, confirmations and the last submission stay, and so do all
other ballots and the tallies that they count in. But a vote that was superseded is gone: its
sanctuary has no vote any more, and it is missing from the tally, until it is recorded again. -/
theorem retraction_clears_ballot (recorded : (store.recordVote vote).1 = true) :
    let retraction := (store.recordVote vote).2.retractVote vote
    let left := retraction.2
    retraction.1 = true ∧
    (left = store ↔ store.votes.get? vote.ballot = none) ∧
    left = { store with votes := left.votes } ∧
    (∀ ballot ≠ vote.ballot, left.votes.get? ballot = store.votes.get? ballot) ∧
    (∀ object signal, vote.ballot.concerns object signal = false →
      left.tally object signal = store.tally object signal) ∧
    left.voteOf vote.voter vote.object vote.signal = none ∧
    ∀ lost, store.votes.get? vote.ballot = some lost →
      store.voteOf vote.voter vote.object vote.signal = some lost.outcome ∧
      store.tally vote.object vote.signal =
        (left.tally vote.object vote.signal).count lost.outcome ∧
      (lost.ballot = vote.ballot → left.recordVote lost = (true, store)) := by
  rw [retractVote_recordVote recorded]
  refine ⟨rfl, clearBallot_eq_self_iff, rfl, fun ballot other => ?_,
    fun object signal => tally_clearBallot_of_ne, ?_, fun lost held => ?_⟩
  · exact (SortedMap.get?_erase _ _ _).trans (if_neg other)
  · exact congrArg (Option.map Vote.outcome) (store.get?_clearBallot vote.ballot)
  · exact ⟨congrArg (Option.map Vote.outcome) held, tally_of_held held,
      recordVote_clearBallot held⟩

end TriggerStore

/-! ### A vote that was delivered -/

/-- The second sanctuary changes its mind, and that vote is not delivered: its approval is missing
from the tally then, though the other nodes have received it. -/
theorem delivered_vote_is_lost :
    let store := SampleRun.engine.store
    let retraction := (store.recordVote ConfirmedRun.refusal).2.retractVote ConfirmedRun.refusal
    (store.recordVote ConfirmedRun.refusal).1 = true ∧ retraction.1 = true ∧
      store.voteOf ⟨2⟩ 1 .funding = some .yes ∧ store.tally 1 .funding = ⟨2, 0, 0⟩ ∧
      retraction.2.voteOf ⟨2⟩ 1 .funding = none ∧ retraction.2.tally 1 .funding = ⟨1, 0, 0⟩ := by
  decide +kernel

/-- The first vote of a third sanctuary is undone, and the approval of the second is missed when
its next vote is retracted. -/
theorem sample_retractions :
    let store := SampleRun.engine.store
    let first := SampleRun.approval ⟨3⟩
    ((store.recordVote first).2.retractVote first).2 = store ∧
      store.tally 1 .funding =
        (((store.recordVote ConfirmedRun.refusal).2.retractVote ConfirmedRun.refusal).2.tally
          1 .funding).count .yes := by
  intro store first
  have someone : store.votes.get? ConfirmedRun.refusal.ballot = some (SampleRun.approval ⟨2⟩) := by
    decide +kernel
  have taken : (store.recordVote first).1 = true := by decide +kernel
  have takenToo : (store.recordVote ConfirmedRun.refusal).1 = true := by decide +kernel
  obtain ⟨_, undone, _⟩ := TriggerStore.retraction_clears_ballot taken
  obtain ⟨_, _, _, _, _, _, missed⟩ := TriggerStore.retraction_clears_ballot takenToo
  exact ⟨undone.mpr (by decide +kernel), (missed _ someone).2.1⟩

end SuperblockGovernance
