/-
The votes of one tick. A sanctuary approves the least object that carries its own
fingerprint, if that is within the budget, and withdraws an earlier request to delete it.
It rejects some objects with other fingerprints, and asks to delete some stale objects,
never the one it approves. Votes that it has already cast are not planned again.
-/

import SuperblockGovernance.Election

namespace SuperblockGovernance

/-- A vote that is to be cast. -/
structure VoteIntent where
  object : ObjectId
  signal : VoteSignal
  outcome : VoteOutcome
  deriving DecidableEq

/-- The network elected another contract than the one computed here. -/
structure DeterminismWarning where
  height : Height
  localFingerprint : Fingerprint
  network : Fingerprint
  winner : ObjectId
  deriving DecidableEq

/-- What is said about a winner that is not the local contract. -/
def DeterminismWarning.message (warning : DeterminismWarning) : String :=
  "local fingerprint " ++ warning.localFingerprint.toHex ++ " differs from network winner " ++
    warning.network.toHex ++ " at height " ++ toString warning.height

/-- What a plan is made from. -/
structure PlanTerms where
  height : Height
  localFingerprint : Fingerprint
  /-- The objects for the height. -/
  candidates : List Candidate
  /-- Stale objects for any height. -/
  expired : List Candidate
  budgetLimit : Amount
  required : Nat
  maxNoVotes : Nat
  maxDeleteVotes : Nat
  deriving DecidableEq

/-- The votes to cast, and what they were planned by. -/
structure VotePlan where
  intents : List VoteIntent := []
  /-- The least object that carries the local fingerprint. -/
  localMatch : Option ObjectId := none
  winner : Option Candidate := none
  /-- The local match, when it is refused for its total. -/
  overBudget : Option ObjectId := none
  warning : Option DeterminismWarning := none
  deriving DecidableEq

namespace PlanTerms

/-- The votes that this sanctuary has cast, by object and signal. -/
abbrev Cast := ObjectId → VoteSignal → Option VoteOutcome

/-- The candidate that the network elects. -/
def winner? (terms : PlanTerms) : Option Candidate :=
  Election.winner? terms.candidates terms.required terms.budgetLimit

/-- The least candidate that carries the local fingerprint. -/
def localMatch? (terms : PlanTerms) : Option Candidate :=
  ((Election.groups terms.candidates).get? terms.localFingerprint).bind List.head?

/-- The local match, if its total is within the budget. -/
def funded? (terms : PlanTerms) : Option Candidate :=
  terms.localMatch?.filter fun candidate => candidate.WithinBudget terms.budgetLimit

/-- Candidates with other fingerprints, by fingerprint and then by name. -/
def opposed (terms : PlanTerms) : List Candidate :=
  (Election.groups terms.candidates).entries.flatMap fun (fingerprint, group) =>
    if fingerprint = terms.localFingerprint then [] else group

/-- The order in which stale candidates are gone through. -/
def staleOrder (first second : Candidate) : Bool :=
  first.targetHeight < second.targetHeight ||
    (first.targetHeight == second.targetHeight && first.id ≤ second.id)

/-- Stale objects other than the one that is funded, by height and then by name. -/
def deletable (terms : PlanTerms) : List Candidate :=
  (terms.expired.filter fun candidate =>
    some candidate.id ≠ terms.funded?.map Candidate.id).mergeSort staleOrder

/-- A vote, unless it has been cast. -/
def intent? (cast : Cast) (signal : VoteSignal) (outcome : VoteOutcome) (object : ObjectId) :
    Option VoteIntent :=
  if cast object signal = some outcome then none else some ⟨object, signal, outcome⟩

/-- The votes on the object that is funded. -/
def fundingIntents (cast : Cast) (object : ObjectId) : List VoteIntent :=
  (intent? cast .funding .yes object).toList ++
    if cast object .delete = some .yes then (intent? cast .delete .no object).toList else []

/-- A warning when the winner does not carry the local fingerprint. Without local payouts there
is nothing to compare. -/
def warning? (terms : PlanTerms) : Option DeterminismWarning :=
  terms.winner?.bind fun winner =>
    if winner.fingerprint ≠ terms.localFingerprint ∧ terms.localFingerprint ≠ .zero then
      some ⟨terms.height, terms.localFingerprint, winner.fingerprint, winner.id⟩
    else none

/-- The plan of one tick. -/
def plan (terms : PlanTerms) (cast : Cast) : VotePlan :=
  let ids := List.map Candidate.id
  let approvals := (terms.funded?.map fun candidate => fundingIntents cast candidate.id).getD []
  let rejections := ((ids terms.opposed).filterMap (intent? cast .funding .no)).take
    terms.maxNoVotes
  let deletions := ((ids terms.deletable).filterMap (intent? cast .delete .yes)).take
    terms.maxDeleteVotes
  { intents := approvals ++ rejections ++ deletions
    localMatch := terms.localMatch?.map Candidate.id
    winner := terms.winner?
    overBudget := if terms.funded?.isSome then none else terms.localMatch?.map Candidate.id
    warning := terms.warning? }

end PlanTerms

end SuperblockGovernance
