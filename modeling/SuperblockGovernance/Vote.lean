/-
Votes on governance objects. A sanctuary votes on an object under a signal; its vote on
one object and signal is its ballot there, and a later vote supersedes an earlier one.
-/

import SuperblockGovernance.Hash256
import SuperblockGovernance.Amount

namespace SuperblockGovernance

/-- What a vote is about: whether the object is funded, or whether it is deleted. -/
inductive VoteSignal
  | funding
  | delete
  deriving DecidableEq, Repr

namespace VoteSignal

/-- The place of a signal among the others. -/
def rank : VoteSignal → Nat
  | funding => 0
  | delete => 1

instance : Ord VoteSignal :=
  ⟨compareOn rank⟩

instance : Std.TransOrd VoteSignal :=
  inferInstanceAs (Std.TransCmp (compareOn rank))

instance : Std.LawfulEqOrd VoteSignal where
  compare_self {value} := @Std.ReflCmp.compare_self _ (compareOn rank) _ value
  eq_of_compare {first second} same := by
    cases first <;> cases second <;> first | rfl | (exact absurd same (by decide))

/-- The name of a signal. -/
def text : VoteSignal → String
  | funding => "funding"
  | delete => "delete"

end VoteSignal

/-- What a voter says. -/
inductive VoteOutcome
  | yes
  | no
  | abstain
  deriving DecidableEq, Repr

/-- The name of an outcome. -/
def VoteOutcome.text : VoteOutcome → String
  | yes => "yes"
  | no => "no"
  | abstain => "abstain"

/-- A signed vote. -/
structure Vote where
  voter : Identity
  object : ObjectId
  signal : VoteSignal
  outcome : VoteOutcome
  timestamp : Timestamp
  signature : Octets
  deriving DecidableEq

/-- What a vote is cast under: one sanctuary has one vote on an object and signal. Ballots are
ordered by object, then signal, then voter. -/
structure Ballot where
  object : ObjectId
  signal : VoteSignal
  voter : Identity
  deriving DecidableEq

namespace Ballot

/-- Ballots are ordered by object, then signal, then voter. -/
def order : Ballot → Ballot → Ordering :=
  compareLex (compareOn object) (compareLex (compareOn signal) (compareOn voter))

instance : Ord Ballot :=
  ⟨order⟩

instance : Std.TransOrd Ballot :=
  inferInstanceAs (Std.TransCmp
    (compareLex (compareOn object) (compareLex (compareOn signal) (compareOn voter))))

theorem eq_of_order {first second : Ballot} (same : order first second = .eq) :
    first = second := by
  obtain ⟨firstObject, firstSignal, firstVoter⟩ := first
  obtain ⟨secondObject, secondSignal, secondVoter⟩ := second
  simp only [order, compareLex, compareOn, Ordering.then_eq_eq] at same
  obtain ⟨objects, signals, voters⟩ := same
  rw [Std.LawfulEqCmp.eq_of_compare objects, Std.LawfulEqCmp.eq_of_compare signals,
    Std.LawfulEqCmp.eq_of_compare voters]

instance : Std.LawfulEqOrd Ballot where
  compare_self {value} := @Std.ReflCmp.compare_self _
    (compareLex (compareOn object) (compareLex (compareOn signal) (compareOn voter))) _ value
  eq_of_compare same := eq_of_order same

end Ballot

/-- The ballot that a vote is cast on. -/
def Vote.ballot (vote : Vote) : Ballot :=
  ⟨vote.object, vote.signal, vote.voter⟩

/-- The votes on one object and signal, counted by outcome. Each count is at most the number of
votes held, so with fewer than `2 ^ 32` of these it is one of 32 bits. -/
structure VoteTally where
  yes : Nat := 0
  no : Nat := 0
  abstain : Nat := 0
  deriving DecidableEq

namespace VoteTally

/-- The tally with one more vote of an outcome. -/
def count (tally : VoteTally) : VoteOutcome → VoteTally
  | .yes => { tally with yes := tally.yes + 1 }
  | .no => { tally with no := tally.no + 1 }
  | .abstain => { tally with abstain := tally.abstain + 1 }

/-- The approvals that remain after the rejections. -/
def netYes (tally : VoteTally) : Int :=
  tally.yes - tally.no

end VoteTally

end SuperblockGovernance
