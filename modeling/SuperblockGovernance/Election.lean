/-
Elections. The trigger objects for one height are candidates; each carries a fingerprint
and the net approval of its funding votes. A candidate qualifies with enough net approval
and a known total within the budget. Among those that qualify the greatest net approval
wins, and then the least name.
-/

import SuperblockGovernance.Trigger.Object
import SuperblockGovernance.Vote

namespace SuperblockGovernance

/-- The net approval that a share of the valid identities asks for, at least a minimum. -/
def requiredQuorum (identities percent minimum : UInt32) : Nat :=
  max (min (identities.toNat * percent.toNat / 100) (2 ^ 32 - 1)) minimum.toNat

/-- What an election looks at in an object. -/
structure Candidate where
  id : ObjectId
  targetHeight : Height
  fingerprint : Fingerprint
  netYes : Int
  /-- Unknown when the payout texts cannot be read. -/
  total : Option Nat
  creationTime : Timestamp
  deriving DecidableEq

namespace Candidate

/-- The candidate that an object is under its funding votes. -/
def ofObject (object : TriggerObject) (funding : VoteTally) : Candidate :=
  { id := object.id
    targetHeight := object.targetHeight
    fingerprint := object.fingerprint
    netYes := funding.netYes
    total := object.total?
    creationTime := object.creationTime }

/-- The payouts can be read, and they add up to no more than the limit. -/
def WithinBudget (candidate : Candidate) (limit : Amount) : Prop :=
  ∃ total ∈ candidate.total, total ≤ limit.toNat

instance (candidate : Candidate) (limit : Amount) : Decidable (candidate.WithinBudget limit) :=
  match found : candidate.total with
  | none => .isFalse fun ⟨total, member, _⟩ => by simp [found] at member
  | some total =>
    if within : total ≤ limit.toNat then .isTrue ⟨total, found, within⟩
    else .isFalse fun ⟨other, member, below⟩ => by
      simp only [found, Option.mem_def, Option.some.injEq] at member
      exact within (member ▸ below)

/-- The candidate may win. -/
def Qualifies (candidate : Candidate) (required : Nat) (limit : Amount) : Prop :=
  (required : Int) ≤ candidate.netYes ∧ candidate.WithinBudget limit

instance (candidate : Candidate) (required : Nat) (limit : Amount) :
    Decidable (candidate.Qualifies required limit) :=
  inferInstanceAs (Decidable (_ ∧ _))

/-- The first candidate is strictly better: more net approval, or as much and a lesser name. -/
def Beats (first second : Candidate) : Prop :=
  second.netYes < first.netYes ∨ (first.netYes = second.netYes ∧ first.id < second.id)

instance (first second : Candidate) : Decidable (first.Beats second) :=
  inferInstanceAs (Decidable (_ ∨ _))

end Candidate

namespace Election

/-- The candidates by fingerprint, each group in the order of names. -/
def groups (candidates : List Candidate) : SortedMap Fingerprint (List Candidate) :=
  let unordered := candidates.foldl (fun groups candidate =>
    groups.alter candidate.fingerprint fun group => group.getD [] ++ [candidate])
    (SortedMap.empty : SortedMap Fingerprint (List Candidate))
  unordered.mapValues fun _ group => group.mergeSort fun first second => first.id ≤ second.id

/-- The better of the best so far and another candidate; the earlier one stays on a tie. -/
def better (best : Option Candidate) (candidate : Candidate) : Option Candidate :=
  match best with
  | none => some candidate
  | some best => if candidate.Beats best then some candidate else some best

/-- The winner among the candidates for one height. -/
def winner? (candidates : List Candidate) (required : Nat) (limit : Amount) : Option Candidate :=
  (candidates.filter fun candidate => candidate.Qualifies required limit).foldl better none

end Election

/-- Where a fingerprint stands at a height. -/
inductive ContractState
  | nonExistent
  | proposed
  | contending
  | winning
  | superseded
  | expired
  | confirmed
  deriving DecidableEq, Repr

namespace ContractState

/-- The name of a state. -/
def name : ContractState → String
  | nonExistent => "NonExistent"
  | proposed => "Proposed"
  | contending => "Contending"
  | winning => "Winning"
  | superseded => "Superseded"
  | expired => "Expired"
  | confirmed => "Confirmed"

/-- The state of a fingerprint among the candidates for a target, given the winner and whether
that was confirmed. -/
def classify (fingerprint : Fingerprint) (candidates : List Candidate)
    (winner : Option Candidate) (isConfirmed : Bool) (tip target : Height) : ContractState :=
  let groups := Election.groups candidates
  if !groups.contains fingerprint then nonExistent
  else
    match winner with
    | some winner =>
      if winner.fingerprint ≠ fingerprint then superseded
      else if isConfirmed then confirmed
      else winning
    | none =>
      if target ≤ tip then expired
      else if 1 < groups.size then contending
      else proposed

end ContractState

end SuperblockGovernance
