/-
The votes that this node casts. A planned vote is signed and relayed, and only a vote that
the relay took is held in the store, so a vote that failed is planned again.
-/

import SuperblockGovernance.Engine

namespace SuperblockGovernance

/-- The signed vote of an intent. -/
def Host.signedVote (host : Host) (identity : Identity) (intent : VoteIntent) : Vote :=
  let unsigned : Vote :=
    { voter := identity
      object := intent.object
      signal := intent.signal
      outcome := intent.outcome
      timestamp := host.now
      signature := [] }
  { unsigned with signature := host.sign unsigned.signingPayload }

namespace Engine

variable {σ : Type}

/-- What came of casting votes. -/
structure Casting (σ : Type) where
  engine : Engine σ
  /-- How many votes the relay took. -/
  cast : Nat := 0
  /-- Why the last vote failed that the relay did not take. -/
  failure : Option NetworkError := none

/-- Casts one vote. -/
def Casting.step [Relay σ] (host : Host) (identity : Identity) (casting : Casting σ)
    (intent : VoteIntent) : Casting σ :=
  let vote := host.signedVote identity intent
  let engine := casting.engine
  match Relay.relayVote engine.relay vote with
  | (.ok (), relay) =>
    { casting with
      engine := { engine with relay, store := (engine.store.recordVote vote).2 }
      cast := casting.cast + 1 }
  | (.error cause, relay) =>
    { casting with engine := { engine with relay }, failure := some cause }

/-- Casts votes one after the other. -/
def castVotes [Relay σ] (engine : Engine σ) (host : Host) (identity : Identity)
    (intents : List VoteIntent) : Casting σ :=
  intents.foldl (Casting.step host identity) { engine }

/-! ### Voting for a contract text -/

/-- What has to hold before votes are cast for a contract text. -/
def acceptContract (engine : Engine σ) (host : Host) (height : Height) (text : String) :
    Except GovernanceError (Identity × Height) := do
  let identity ← match host.localIdentity with
    | some identity => .ok identity
    | none => .error (.quorum .notASanctuary)
  let target ← (engine.resolveHeight host height).mapError .validation
  let _ ← (Contract.ofText text).mapError .validation
  return (identity, target)

/-- The failure to report when the object for a contract text is over the budget. -/
def overBudget (engine : Engine σ) (host : Host) (target : Height) (object : ObjectId) :
    BudgetError :=
  let candidate := (engine.candidatesAt target).find? fun candidate => candidate.id = object
  ⟨target, (candidate.bind Candidate.total).getD 0, host.budgetLimit target⟩

/-- Votes on the objects for a height as a node that computed this contract text. -/
def voteForContract [Relay σ] (engine : Engine σ) (host : Host) (height : Height)
    (text : String) : Except GovernanceError Unit × Engine σ :=
  match engine.acceptContract host height text with
  | .error cause => (.error cause, engine)
  | .ok (identity, target) =>
    let plan := engine.plan host target (Contract.textFingerprint text) identity
    let casting := engine.castVotes host identity plan.intents
    let result : Except GovernanceError Unit :=
      match plan.overBudget, casting.failure with
      | some object, _ => .error (.budget (casting.engine.overBudget host target object))
      | none, some cause => .error (.network cause)
      | none, none => .ok ()
    (result, casting.engine)

end Engine

end SuperblockGovernance
