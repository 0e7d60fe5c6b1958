/-
The votes that a tally counts. Ballots are ordered by object, signal and voter, so the
ballots on one object and signal stand together, and reading them from the least voter on
finds all of them. A tally is therefore the number of votes held for each outcome.
-/

import SuperblockGovernance.Proofs.SortedMaps
import SuperblockGovernance.TriggerStore

namespace SuperblockGovernance

/-! ### The order of ballots -/

theorem Hash256.compare_eq_lt_iff {first second : Hash256} :
    compare first second = .lt ↔ first < second :=
  compareOfLessAndEq_eq_lt

theorem VoteSignal.rank_injective {first second : VoteSignal}
    (same : first.rank = second.rank) : first = second := by
  cases first <;> cases second <;> first | rfl | cases same

theorem Ballot.compare_eq_lt_iff {first second : Ballot} :
    compare first second = .lt ↔
      first.object < second.object ∨ first.object = second.object ∧
        (first.signal.rank < second.signal.rank ∨ first.signal = second.signal ∧
          first.voter.hash < second.voter.hash) := by
  have signals : compare first.signal.rank second.signal.rank = .eq ↔
      first.signal = second.signal :=
    ⟨fun same => VoteSignal.rank_injective (Nat.compare_eq_eq.mp same),
      fun same => Nat.compare_eq_eq.mpr (congrArg VoteSignal.rank same)⟩
  show Ballot.order first second = .lt ↔ _
  rw [Ballot.order, compareLex, compareLex, Ordering.then_eq_lt, Ordering.then_eq_lt]
  show compare first.object second.object = .lt ∨ compare first.object second.object = .eq ∧
    (compare first.signal.rank second.signal.rank = .lt ∨
      compare first.signal.rank second.signal.rank = .eq ∧
        compare first.voter.hash second.voter.hash = .lt) ↔ _
  rw [Hash256.compare_eq_lt_iff, Hash256.compare_eq_lt_iff, Std.LawfulEqOrd.compare_eq_iff_eq,
    Nat.compare_eq_lt, signals]

namespace Ballot

/-- The ballot is one on this object and signal. -/
def concerns (ballot : Ballot) (object : ObjectId) (signal : VoteSignal) : Bool :=
  ballot.object == object && ballot.signal == signal

variable {object : ObjectId} {signal : VoteSignal}

theorem concerns_iff {ballot : Ballot} :
    ballot.concerns object signal = true ↔ ballot.object = object ∧ ballot.signal = signal := by
  rw [concerns, Bool.and_eq_true, beq_iff_eq, beq_iff_eq]

/-- No ballot on an object and signal comes before that of the least voter. -/
theorem not_lt_first {ballot : Ballot} (concerned : ballot.concerns object signal = true) :
    compare ballot ⟨object, signal, ⟨0⟩⟩ ≠ .lt := by
  obtain ⟨sameObject, sameSignal⟩ := concerns_iff.mp concerned
  rw [Ne, compare_eq_lt_iff, sameObject, sameSignal]
  rintro (below | ⟨_, below | ⟨_, below⟩⟩)
  · exact absurd below (BitVec.lt_irrefl object)
  · exact absurd below (Nat.lt_irrefl _)
  · exact absurd below BitVec.not_lt_zero

/-- Past the ballots on an object and signal there are no more of them. -/
theorem not_concerns_of_lt {first second : Ballot}
    (started : compare first ⟨object, signal, ⟨0⟩⟩ ≠ .lt)
    (ended : first.concerns object signal = false) (below : compare first second = .lt) :
    second.concerns object signal = false := by
  refine Bool.eq_false_iff.mpr fun concerned => ?_
  obtain ⟨sameObject, sameSignal⟩ := concerns_iff.mp concerned
  rw [compare_eq_lt_iff, sameObject, sameSignal] at below
  rw [Ne, compare_eq_lt_iff] at started
  rcases below with lesser | ⟨equal, lesser | ⟨alike, _⟩⟩
  · exact started (Or.inl lesser)
  · exact started (Or.inr ⟨equal, Or.inl lesser⟩)
  · rw [concerns_iff.mpr ⟨equal, alike⟩] at ended
    cases ended

end Ballot

/-! ### Tallies -/

/-- The votes counted by outcome. -/
def VoteTally.ofVotes (votes : List Vote) : VoteTally where
  yes := votes.countP fun vote => vote.outcome = .yes
  no := votes.countP fun vote => vote.outcome = .no
  abstain := votes.countP fun vote => vote.outcome = .abstain

theorem VoteTally.foldl_count (votes : List Vote) (tally : VoteTally) :
    votes.foldl (fun tally vote => tally.count vote.outcome) tally =
      ⟨tally.yes + (ofVotes votes).yes, tally.no + (ofVotes votes).no,
        tally.abstain + (ofVotes votes).abstain⟩ := by
  induction votes generalizing tally with
  | nil => rfl
  | cons vote rest inductionHypothesis =>
    rw [List.foldl_cons, inductionHypothesis]
    cases outcome : vote.outcome <;>
      simp only [VoteTally.count, ofVotes, List.countP_cons, outcome, decide_true, if_true,
        VoteTally.mk.injEq] <;>
      simp <;> omega

theorem VoteTally.total_ofVotes (votes : List Vote) :
    (ofVotes votes).yes + (ofVotes votes).no + (ofVotes votes).abstain = votes.length := by
  induction votes with
  | nil => rfl
  | cons vote rest inductionHypothesis =>
    rw [List.length_cons, ← inductionHypothesis]
    cases outcome : vote.outcome <;>
      simp only [ofVotes, List.countP_cons, outcome, decide_true, if_true] <;>
      simp <;> omega

namespace TriggerStore

variable {store : TriggerStore} {object : ObjectId} {signal : VoteSignal}

/-- Every vote is held under its own ballot. -/
def VotesFiled (store : TriggerStore) : Prop :=
  ∀ ballot vote, store.votes.get? ballot = some vote → vote.ballot = ballot

/-- The votes held on an object under a signal, among all votes held. -/
def heldVotes (store : TriggerStore) (object : ObjectId) (signal : VoteSignal) : List Vote :=
  store.votes.values.filter fun vote => vote.object = object ∧ vote.signal = signal

/-- Reading from the least voter on finds the entries on an object and signal. -/
theorem votesOn_eq_filter_entries :
    store.votesOn object signal =
      (store.votes.entries.filter fun entry => entry.1.concerns object signal).map Prod.snd := by
  refine congrArg (List.map Prod.snd) ?_
  refine SortedMap.takeWhile_dropWhile_eq_filter ?_ ?_ ?_
  · intro entry _ concerned
    exact beq_eq_false_iff_ne.mpr (Ballot.not_lt_first concerned)
  · refine store.votes.ascending.imp fun {first second} below started => ?_
    refine beq_eq_false_iff_ne.mpr fun early => beq_eq_false_iff_ne.mp started ?_
    exact Std.TransCmp.lt_trans below early
  · refine store.votes.ascending.imp fun {first second} below started ended => ?_
    exact Ballot.not_concerns_of_lt (beq_eq_false_iff_ne.mp started) ended below

theorem votesOn_eq_heldVotes (filed : store.VotesFiled) :
    store.votesOn object signal = store.heldVotes object signal := by
  rw [votesOn_eq_filter_entries, heldVotes, SortedMap.values, List.filter_map]
  refine congrArg (List.map Prod.snd) (List.filter_congr fun entry member => ?_)
  have own : entry.2.ballot = entry.1 := filed _ _ (SortedMap.get?_eq_some_iff.mpr member)
  rw [← own, Bool.eq_iff_iff, Ballot.concerns_iff]
  exact decide_eq_true_iff.symm

/-- Votes that are not on the object under the signal play no part. -/
theorem votesOn_filter {keep : Ballot → Vote → Bool}
    (kept : ∀ ballot vote, ballot.concerns object signal = true → keep ballot vote = true) :
    { store with votes := store.votes.filter keep }.votesOn object signal =
      store.votesOn object signal := by
  rw [votesOn_eq_filter_entries, votesOn_eq_filter_entries]
  refine congrArg (List.map Prod.snd) ?_
  show (store.votes.entries.filter _).filter _ = _
  rw [List.filter_filter]
  exact List.filter_congr fun entry _ => Bool.and_eq_left_iff_imp.mpr (kept entry.1 entry.2)

theorem tally_filter {keep : Ballot → Vote → Bool}
    (kept : ∀ ballot vote, ballot.concerns object signal = true → keep ballot vote = true) :
    { store with votes := store.votes.filter keep }.tally object signal =
      store.tally object signal := by
  rw [tally, votesOn_filter kept, tally]

theorem tally_eq_ofVotes_votesOn (store : TriggerStore) (object : ObjectId)
    (signal : VoteSignal) :
    store.tally object signal = .ofVotes (store.votesOn object signal) := by
  rw [tally, VoteTally.foldl_count]
  simp

/-- A tally counts the votes held on the object under the signal. -/
theorem tally_eq_ofVotes (filed : store.VotesFiled) :
    store.tally object signal = .ofVotes (store.heldVotes object signal) := by
  rw [tally_eq_ofVotes_votesOn, votesOn_eq_heldVotes filed]

/-- A tally counts no more votes than are held, so with fewer than `2 ^ 32` of these no count passes
32 bits. -/
theorem total_tally_le_size (store : TriggerStore) (object : ObjectId) (signal : VoteSignal) :
    (store.tally object signal).yes + (store.tally object signal).no +
      (store.tally object signal).abstain ≤ store.votes.size := by
  rw [tally_eq_ofVotes_votesOn, VoteTally.total_ofVotes, votesOn_eq_filter_entries,
    List.length_map]
  exact List.length_filter_le _ _

/-! ### Votes of one sanctuary -/

theorem mem_heldVotes_iff (filed : store.VotesFiled) {vote : Vote} :
    vote ∈ store.heldVotes object signal ↔
      store.votes.get? ⟨object, signal, vote.voter⟩ = some vote := by
  rw [heldVotes, List.mem_filter, SortedMap.mem_values_iff, decide_eq_true_iff]
  constructor
  · rintro ⟨⟨ballot, held⟩, rfl, rfl⟩
    obtain rfl : vote.ballot = ballot := filed ballot vote held
    exact held
  · intro held
    have own : vote.ballot = ⟨object, signal, vote.voter⟩ := filed _ vote held
    exact ⟨⟨_, held⟩, congrArg Ballot.object own, congrArg Ballot.signal own⟩

/-- A sanctuary has one vote on an object under a signal. -/
theorem pairwise_heldVotes (filed : store.VotesFiled) :
    (store.heldVotes object signal).Pairwise fun one other => one.voter ≠ other.voter := by
  have apart : store.votes.values.Pairwise fun one other => one.ballot ≠ other.ballot := by
    refine List.pairwise_map.mpr (store.votes.ascending.imp_of_mem ?_)
    intro one other oneMember otherMember below
    have oneOwn := filed _ _ (SortedMap.get?_eq_some_iff.mpr oneMember)
    have otherOwn := filed _ _ (SortedMap.get?_eq_some_iff.mpr otherMember)
    rw [oneOwn, otherOwn]
    exact SortedMap.key_ne_of_lt below
  have own : ∀ vote ∈ store.heldVotes object signal,
      vote.ballot = ⟨object, signal, vote.voter⟩ := fun vote member =>
    filed _ vote ((mem_heldVotes_iff filed).mp member)
  refine (apart.filter _).imp_of_mem fun {one other} oneMember otherMember differ same => differ ?_
  rw [own one oneMember, own other otherMember, same]

/-- The vote of a sanctuary is one of those held on the object. -/
theorem voteOf_eq_some_iff (filed : store.VotesFiled) {voter : Identity} {outcome : VoteOutcome} :
    store.voteOf voter object signal = some outcome ↔
      ∃ vote ∈ store.heldVotes object signal, vote.voter = voter ∧ vote.outcome = outcome := by
  rw [voteOf, Option.map_eq_some_iff]
  constructor
  · rintro ⟨vote, held, same⟩
    have own : vote.voter = voter := congrArg Ballot.voter (filed _ vote held)
    exact ⟨vote, (mem_heldVotes_iff filed).mpr (own ▸ held), own, same⟩
  · rintro ⟨vote, member, rfl, same⟩
    exact ⟨vote, (mem_heldVotes_iff filed).mp member, same⟩

end TriggerStore

end SuperblockGovernance
